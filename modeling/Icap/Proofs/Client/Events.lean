import Icap.Proofs.Client.Sound

/-!
# Events of a client that is used for scans

Calls come in and are served or given up, connections are opened for them, and sessions move. Each
of these keeps what holds of a client, and so does the start of a scan on a session that has been
handed to a call.

* `Event.IsForScans` — what may happen to a client that is used for scans alone.
* `Sound.addJob`, `Sound.addDesk`, `Sound.addSession` — what is new with an event.
* `Sound.step` — an event.
* `Sound.useStep` — the start of a scan.
-/

namespace Icap.Client

/-- What may happen to a client that is used for scans alone: all calls are for scans, and nobody
else uses the sessions. -/
def Event.IsForScans : Event → Prop
  | .call job => job.IsForScan
  | .use _ => False
  | .session _ (.scan _ _) | .session _ .close => False
  | _ => True

variable {cut : Nat → Prop} {settings : Settings} {c c' : Client} {now wall : Instant}
  {route : Route} {d : Desk} {k n : Nat} {fx fx' : List Effect} {job : Job}

/-! ## What is new -/

/-- A call comes in. -/
theorem Sound.addJob (sound : Sound cut fx c) (scan : job.IsForScan)
    (new : job.call ∉ c.jobs.map Job.call) : Sound cut fx { c with jobs := c.jobs ++ [job] } :=
  { sound with
    scans := by
      intro job' hjob
      rcases List.mem_append.mp hjob with hjob | hjob
      · exact sound.scans job' hjob
      · exact List.mem_singleton.mp hjob ▸ scan
    calls := by
      rw [List.map_append, List.map_singleton, ← List.concat_eq_append]
      exact sound.calls.concat new
    manned := fun route d found => by
      refine ⟨(sound.manned route d found).nodup, fun call there => ?_⟩
      obtain ⟨uses, job', hjob, same⟩ := (sound.manned route d found).job call there
      exact ⟨uses, job', List.mem_append_left _ hjob, same⟩ }

theorem desk?_addDesk {ρ : Route}
    (found : desk? { c with desks := c.desks ++ [(route, {})] } ρ = some d) :
    c.desk? ρ = some d ∨ d = {} := by
  simp only [desk?, List.lookup_append, Option.or_eq_some_iff] at found
  refine found.imp_right fun new => ?_
  obtain ⟨-, new⟩ := new
  rw [List.lookup_cons] at new
  split at new
  · exact (Option.some.inj new).symm
  · cases new

/-- A route gets a pool. -/
theorem Sound.addDesk (sound : Sound cut fx c) (route : Route) :
    Sound cut fx { c with desks := c.desks ++ [(route, {})] } := by
  refine { sound with stocked := fun ρ d found => ?_, manned := fun ρ d found => ?_ }
  · rcases desk?_addDesk found with there | rfl
    · exact sound.stocked ρ d there
    · exact ⟨List.nodup_nil, by simp [Pool.members], by simp, by simp⟩
  · rcases desk?_addDesk found with there | rfl
    · exact sound.manned ρ d there
    · exact ⟨List.nodup_nil, by simp [Desk.calls]⟩

theorem ledger_of_fresh {s : Session} (outstanding : s.outstanding = []) : Session.Ledger [] s where
  tidy := ⟨by simp [outstanding], fun _ => outstanding, fun _ => outstanding⟩
  perm := .of_eq (by rw [outstanding]; rfl)
  nodup := List.nodup_nil
  le := by simp [Session.promised]

/-- A session is there that has been asked for. -/
theorem Sound.addSession {a : Attempt} {s : Session} (sound : Sound cut fx c)
    (there : a ∈ c.attempts) (number : s.number = a.session) (fresh : s.outstanding = [])
    (alive : ¬s.IsOver) :
    Sound cut fx { c with
      attempts := c.attempts.filter (·.session != a.session)
      sessions := c.sessions ++ [s] } := by
  obtain ⟨sessions, attempts, apart⟩ := List.nodup_append.mp sound.numbers
  have asked : a.session ∈ c.attempts.map Attempt.session := List.mem_map_of_mem there
  have new : a.session ∉ c.sessions.map Session.number := fun h => apart _ h _ asked rfl
  have left : ((c.attempts.filter (·.session != a.session)).map Attempt.session).Sublist
      (c.attempts.map Attempt.session) := List.filter_sublist.map _
  have kept {k : Nat} {t : Session} (found : c.session? k = some t) : session? { c with
      attempts := c.attempts.filter (·.session != a.session), sessions := c.sessions ++ [s] } k =
        some t := by
    rw [session?_addSession, found, Option.some_or]
  refine { sound with
    numbers := ?_, asked := fun k hk => ?_, pooled := fun b hb => ?_, ledger := fun k t found => ?_,
    silent := fun k found => ?_, stocked := fun route d found => ?_ }
  · rw [List.map_append, List.map_singleton, number, List.append_assoc, List.nodup_append]
    refine ⟨sessions, ?_, fun n hn m hm => ?_⟩
    · exact List.nodup_cons.mpr ⟨by simp, attempts.sublist left⟩
    · rcases List.mem_cons.mp hm with rfl | hm
      · exact fun same => new (same ▸ hn)
      · exact apart n hn m (left.subset hm)
  · rw [List.map_append, List.map_singleton, number, List.append_assoc] at hk
    refine sound.asked k ?_
    rcases List.mem_append.mp hk with hk | hk
    · exact List.mem_append_left _ hk
    · rcases List.mem_cons.mp hk with rfl | hk
      · exact List.mem_append_right _ asked
      · exact List.mem_append_right _ (left.subset hk)
  · exact sound.pooled b (List.mem_of_mem_filter hb)
  · rw [session?_addSession] at found
    cases was : c.session? k with
    | some t' =>
      rw [was, Option.some_or] at found
      exact sound.ledger k t (found ▸ was)
    | none =>
      rw [was, Option.none_or] at found
      split at found <;> cases found
      rw [sound.silent k was]
      exact ⟨ledger_of_fresh fresh, fun isOver => absurd isOver alive⟩
  · cases was : c.session? k with
    | some t => cases (kept was).symm.trans found
    | none => exact sound.silent k was
  · have stocked := sound.stocked route d found
    refine ⟨stocked.nodup, fun k member => ?_, fun k available t found' => ?_, stocked.leased⟩
    · obtain ⟨t, was, same⟩ := stocked.member k member
      exact ⟨t, kept was, same⟩
    · obtain ⟨t', was, -⟩ := stocked.member k (List.mem_append_left _ available)
      obtain rfl := Option.some.inj ((kept was).symm.trans found')
      exact stocked.resting k available _ was

/-- Sessions are asked for no more. -/
theorem Sound.dropAttempts (sound : Sound cut fx c) (p : Attempt → Bool) :
    Sound cut fx { c with attempts := c.attempts.filter p } := by
  have left : (c.sessions.map Session.number ++
      (c.attempts.filter p).map Attempt.session).Sublist
        (c.sessions.map Session.number ++ c.attempts.map Attempt.session) :=
    List.Sublist.append (List.Sublist.refl _) (List.filter_sublist.map _)
  exact { sound with
    numbers := sound.numbers.sublist left
    asked := fun k hk => sound.asked k (left.subset hk)
    pooled := fun a ha => sound.pooled a (List.mem_of_mem_filter ha) }

/-! ## Steps -/

theorem Sound.lineUp (sound : Sound cut fx c) (free : Free c) (there : job ∈ c.jobs)
    (patience : Duration) : Sound cut (fx ++ (c.lineUp now wall job true patience).2)
        (c.lineUp now wall job true patience).1 ∧
      Poised (c.lineUp now wall job true patience).1 := by
  simp only [Client.lineUp]
  cases h : c.deskStep? now wall job.route
      (.arrive ⟨job.call, true, Instant.after? now patience⟩) with
  | none => exact ⟨by simpa using sound, free.poised⟩
  | some stepped =>
    refine sound.deskStep free h (fun call arrived => ?_) fun k opened => by cases opened
    obtain rfl := List.mem_singleton.mp arrived
    exact ⟨rfl, job, there, rfl, rfl⟩

theorem Sound.begin (sound : Sound cut fx c) (free : Free c) (scan : job.IsForScan)
    (new : job.call ∉ c.jobs.map Job.call) :
    Sound cut (fx ++ (c.begin now wall job).2) (c.begin now wall job).1 ∧
      Poised (c.begin now wall job).1 := by
  have added := sound.addJob scan new
  have there : job ∈ c.jobs ++ [job] := List.mem_append_right _ List.mem_cons_self
  obtain ⟨filename, payload, wish⟩ := scan
  simp only [Client.begin, wish]
  split
  · exact added.lineUp free there _
  split
  · refine ⟨(added.dropJob fun route d found standing => ?_).quiet fun k => rfl,
      Free.poised fun route d found => free route d found⟩
    obtain ⟨call, hcall, same⟩ := List.mem_map.mp standing
    obtain ⟨-, job', hjob, number, -⟩ := (sound.manned route d found).job call hcall
    exact new (List.mem_map.mpr ⟨job', hjob, number.trans same⟩)
  · refine (added.addDesk job.route).lineUp (fun route d found => ?_) there _
    rcases desk?_addDesk found with there | rfl
    · exact free route d there
    · rintro ⟨call, id, n, ⟨⟩⟩

theorem Sound.connectedStep (sound : Sound cut fx c) (free : Free c)
    (h : c.connectedStep? now wall k = some (c', fx')) : Sound cut (fx ++ fx') c' ∧ Poised c' := by
  simp only [connectedStep?] at h
  split at h
  · cases h
  next a found =>
    have there : a ∈ c.attempts := List.mem_of_find?_eq_some found
    obtain rfl : a.session = k := by simpa using List.find?_some found
    rw [if_pos (sound.pooled a there)] at h
    have new : c.session? a.session = none := by
      obtain ⟨-, -, apart⟩ := List.nodup_append.mp sound.numbers
      exact session?_eq_none.mpr fun h => apart _ h _ (List.mem_map_of_mem there) rfl
    refine (sound.addSession there rfl rfl ?_).deskStep (fun route d found => free route d found) h
      (fun call arrived => by cases arrived) fun k opened => ?_
    · rintro (isOver | isOver) <;> cases isOver
    obtain rfl : a.session = k := Option.some.inj opened
    refine ⟨fun ρ d found member => ?_,
      { Session.start c.settings a.session a.route a.reuse now with opened := wall }, ?_, rfl, rfl,
      rfl⟩
    · obtain ⟨s, hs, -⟩ := (sound.stocked ρ d found).member _ member
      cases new.symm.trans hs
    · rw [session?_addSession, new, Option.none_or]
      exact if_pos rfl

theorem Sound.notConnectedStep (sound : Sound cut fx c) (free : Free c)
    (h : c.notConnectedStep? now wall k = some (c', fx')) :
    Sound cut (fx ++ fx') c' ∧ Poised c' := by
  simp only [notConnectedStep?] at h
  split at h
  · cases h
  next a found =>
    rw [if_pos (sound.pooled a (List.mem_of_find?_eq_some found))] at h
    exact (sound.dropAttempts _).deskStep (fun route d found => free route d found) h
      (fun call arrived => by cases arrived) fun k opened => by cases opened

/-- An event of a session, which may cut off its task. -/
theorem Sound.sessionStep {e : Session.Event} (sound : Sound cut fx c) (free : Free c)
    (scans : (Event.session k e).IsForScans)
    (cuts : Session.CutsOff c.settings now e → cut k)
    (h : c.sessionStep? now k e = some (c', fx')) : Sound cut (fx ++ fx') c' ∧ Poised c' := by
  simp only [sessionStep?] at h
  split at h
  · cases h
  next s found =>
    split at h
    · cases h
    next member =>
      obtain ⟨⟨s', sfx⟩, step, heq⟩ := Option.map_eq_some_iff.mp h
      cases heq
      have step := Session.step_of_step? step
      refine ⟨sound.move found step (fun ends isOver => ?_) ⟨rfl, rfl⟩
        (fun k' => of_map_session k' k sfx) ?_ ?_,
        Free.poised fun route d found => free route d found⟩
      · by_cases spared : Session.CutsOff c.settings now e
        · exact .inr (cuts spared)
        · exact .inl (Session.disconnected_of_over_step step spared ends isOver)
      · intro route d hd there
        obtain ⟨-, -, held⟩ := Session.same_of_step step
        rw [held fun letGo => member ⟨letGo, isPooled_of_mem hd there⟩]
        exact (sound.stocked route d hd).held there found
      · intro route d hd there
        refine ((sound.stocked route d hd).resting k there s found).step step ?_
        rintro filename payload rfl
        exact scans

theorem Sound.giveUpStep (sound : Sound cut fx c) (free : Free c)
    (h : c.giveUpStep? now wall n = some (c', fx')) : Sound cut (fx ++ fx') c' ∧ Poised c' := by
  simp only [giveUpStep?] at h
  split at h
  · cases h
  next job found =>
    obtain ⟨there, rfl⟩ := exists_of_job? found
    cases hd : c.desk? job.route with
    | none =>
      simp only [deskStep?, desk?] at h hd
      rw [hd] at h
      cases h
      refine ⟨?_, Free.poised fun route d found => free route d found⟩
      rw [List.append_nil]
      refine (sound.dropJob fun ρ d found standing => ?_).dropAttempts _
      cases (sound.route_of_job there found standing ▸ found).symm.trans hd
    | some d =>
      obtain ⟨d', left, served⟩ := d.exists_of_leave (fun _ => c.view wall) c.settings.poolLimits
        job.call
      have manned := sound.manned _ d hd
      have stocked' : Stocked c.session? job.route d' :=
        (sound.stocked _ d hd).step left (fun m k s idle hs => .inl (connected_of_view idle hs))
          fun k opened => by cases opened
      have step := Desk.step_of_step? left
      have placed := sound.setDesk stocked' (manned.step step fun call arrived => by cases arrived)
      rw [deskStep?_of_step? (c := { c with
        jobs := c.jobs.filter (·.call != job.call)
        attempts := c.attempts.filter (·.call != job.call) }) hd left] at h
      obtain ⟨rfl, rfl⟩ := Prod.mk.inj (Option.some.inj h)
      rw [List.append_nil]
      refine ⟨(placed.dropJob fun ρ d₁ found standing => ?_).dropAttempts _,
        Free.poised fun ρ d₁ found inUse => ?_⟩
      · rcases desk?_of_setDesk found with ⟨-, rfl⟩ | ⟨other, found⟩
        · exact step.not_mem_of_leave manned.nodup (free _ d hd) standing
        · exact other (sound.route_of_job there found standing)
      · rcases desk?_of_setDesk found with ⟨-, rfl⟩ | ⟨other, found⟩
        · exact free _ d hd (served inUse)
        · exact free ρ d₁ found inUse

/-- **An event of a client.** If no call was about to use its session, one is so at most now. -/
theorem Sound.step {e : Event} (sound : Sound cut fx c) (free : Free c) (scans : e.IsForScans)
    (cuts : ∀ k e', e = .session k e' → Session.CutsOff c.settings now e' → cut k)
    (h : c.step? now wall e = some (c', fx')) : Sound cut (fx ++ fx') c' ∧ Poised c' := by
  cases e with
  | call job =>
    simp only [step?] at h
    split at h
    · cases h
    next new =>
      have begun : Sound cut (fx ++ (c.begin now wall job).2) (c.begin now wall job).1 ∧
          Poised (c.begin now wall job).1 :=
        sound.begin free scans fun there => new (job?_isSome.mpr there)
      rwa [Option.some.inj h] at begun
  | shutOut job =>
    obtain ⟨rfl, rfl⟩ := eq_of_shutOut? h
    exact ⟨sound.quiet fun k => rfl, free.poised⟩
  | serve route late =>
    exact sound.deskStep free h (fun call arrived => by cases arrived)
      fun k opened => by cases opened
  | use route => exact scans.elim
  | expire route call =>
    exact sound.deskStep free h (fun call arrived => by cases arrived)
      fun k opened => by cases opened
  | connected session => exact sound.connectedStep free h
  | notConnected session => exact sound.notConnectedStep free h
  | session number e => exact sound.sessionStep free scans (cuts number e rfl) h
  | giveUp call => exact sound.giveUpStep free h

/-! ### Starting a scan -/

/-- What comes of the start of a scan on a session that has been handed to the call. -/
inductive Starts (cut : Nat → Prop) (k : Nat) : Except ScanFault Gain → Prop
  | started (reply : Reply) : Starts cut k (.ok (.scan k reply))
  /-- The task of the session has been cut off, and the session is connected all the same. -/
  | cutOff (h : cut k) : Starts cut k (.error (.requestFailed .taskGone))

/-- A scan can be started on a connected session, unless its task has come to its end. -/
theorem reply_of_scan {s : Session} (connected : s.state = .connected) (filename : String)
    (payload : Bytes) :
    (∃ reply, (s.scan filename payload).2 = .ok reply) ∨
      s.activity = .ended ∧ (s.scan filename payload).2 = .error (.requestFailed .taskGone) := by
  simp only [Session.scan, connected]
  split
  · exact .inl ⟨_, rfl⟩
  · split
    next ended => exact .inr ⟨by simpa [Session.hasEnded] using ended, rfl⟩
    · exact .inl ⟨_, rfl⟩

/-- The scan of a call that has been handed a session is started. -/
theorem Sound.startScan {call : Call} (sound : Sound cut fx c) (poised : Poised c)
    (found : c.desk? route = some d) (served : d.served = some (call, .using k n))
    (filename : String) (payload : Bytes) :
    ∃ result s, c.startScan k filename payload = (c.setSession s, result) ∧
      Starts cut k result ∧ Sound cut (fx ++ [.finished call.number result]) (c.setSession s) := by
  have stocked := sound.stocked route d found
  obtain ⟨s, hs, connected, -⟩ := poised.ready route d call k n found served
  have leased := stocked.leased call k n served
  have member : k ∈ d.pool.members := List.mem_append_right _ leased
  have held : s.held = true := stocked.held member hs
  have rule : Session.Rule c.settings 0 s (.scan filename payload)
      (s.scan filename payload).1 [.replied (s.scan filename payload).2] :=
    Session.rule_of_scan held filename payload
  have step := rule.step (.inl trivial)
  have ends (was : s.IsOver → s.state = .disconnected)
      (isOver : (s.scan filename payload).1.IsOver) :
      (s.scan filename payload).1.state = .disconnected ∨ cut k :=
    .inl (Session.disconnected_of_over_rule rule Session.Event.noConfusion was isOver)
  have kept (ρ : Route) (d₁ : Desk) (_ : c.desk? ρ = some d₁) (_ : k ∈ d₁.pool.members) :
      (s.scan filename payload).1.held = true := by
    rw [(Session.same_of_step step).2.2 Session.Event.noConfusion, held]
  have resting (ρ : Route) (d₁ : Desk) (hd : c.desk? ρ = some d₁)
      (available : k ∈ d₁.pool.available) : (s.scan filename payload).1.IsResting := by
    -- it is leased, so it is available nowhere
    obtain rfl := sound.route_eq found hd member (List.mem_append_left _ available)
    obtain rfl := Option.some.inj (found.symm.trans hd)
    exact absurd rfl ((List.nodup_append.mp stocked.nodup).2.2 k available k leased)
  have started : c.startScan k filename payload = (c.setSession (s.scan filename payload).1,
      (s.scan filename payload).2.map (.scan k)) := by simp only [Client.startScan, hs]
  refine ⟨_, _, started, ?_⟩
  rcases reply_of_scan connected filename payload with ⟨reply, ok⟩ | ⟨ended, refused⟩
  · rw [ok]
    exact ⟨.started reply, sound.move hs step ends (by rw [ok]; exact ⟨rfl, rfl⟩)
      (fun k' => of_finished_scan k' call.number k reply) kept resting⟩
  · rw [refused]
    have cuts : cut k := by
      refine ((sound.ledger k s hs).2 (.inr ended)).resolve_left fun gone => ?_
      cases connected.symm.trans gone
    exact ⟨.cutOff cuts, sound.move hs step ends (by rw [refused]; exact ⟨rfl, rfl⟩)
      (fun k' => (ite_self []).symm) kept resting⟩

/-- **A call that has been handed a session starts its scan on it.** -/
theorem Sound.useStep {call : Call} (sound : Sound cut fx c) (poised : Poised c)
    (found : c.desk? route = some d) (served : d.served = some (call, .using k n))
    (now wall : Instant) : ∃ c' result, c.step? now wall (.use route) =
        some (c', [.finished call.number result]) ∧ Starts cut k result ∧
      Sound cut (fx ++ [.finished call.number result]) c' ∧ Free c' := by
  have manned := sound.manned route d found
  have calls : d.calls = call :: d.line := by simp [Desk.calls, served]
  have standing : call.number ∈ d.calls.map Call.number := by simp [calls]
  obtain ⟨-, job, hjob, number, -⟩ := manned.job call (calls ▸ List.mem_cons_self)
  obtain ⟨⟨_, _, wish⟩, hjob'⟩ := Option.isSome_iff_exists.mp
    (job?_isSome.mpr (List.mem_map.mpr ⟨job, hjob, number⟩))
  obtain ⟨filename, payload, rfl⟩ := sound.scans _ (exists_of_job? hjob').1
  obtain ⟨result, s, started, starts, moved⟩ := sound.startScan poised found served filename payload
  -- the desk is free again
  obtain ⟨d', left, free, line⟩ : ∃ d', d.step? (fun _ => (c.setSession s).view wall)
      c.settings.poolLimits .used = some (d', []) ∧ d'.served = none ∧ d'.line = d.line := by
    simp only [Desk.step?, served]
    exact ⟨_, rfl, rfl, rfl⟩
  have step := Desk.step_of_step? left
  have stocked' : Stocked (c.setSession s).session? route d' :=
    (moved.stocked route d found).step left
      (fun m k s idle hs => .inl (connected_of_view idle hs)) fun k opened => by cases opened
  have placed := moved.setDesk stocked' (manned.step step fun call arrived => by cases arrived)
  have gone (ρ : Route) (d₁ : Desk) (hd : ((c.setSession s).setDesk route d').desk? ρ = some d₁) :
      call.number ∉ d₁.calls.map Call.number := by
    rcases desk?_of_setDesk hd with ⟨-, rfl⟩ | ⟨other, hd⟩
    · have nodup := manned.nodup
      rw [calls, List.map_cons, List.nodup_cons] at nodup
      simpa [Desk.calls, free, line] using nodup.1
    · exact fun there => other (sound.route_eq_of_call hd found there standing)
  refine ⟨_, result, ?_, starts, placed.dropJob gone, fun ρ d₁ hd inUse => ?_⟩
  · obtain ⟨pool, _, waiting⟩ := d
    obtain rfl : _ = some (call, Hold.using k n) := served
    have stepped : deskStep? { c.setSession s with
        jobs := c.jobs.filter (·.call != call.number) } now wall route .used = some _ :=
      deskStep?_of_step? found left
    simp only [step?, useStep?, found, hjob', started, finish]
    exact congrArg (Option.map _) stepped
  · rcases desk?_of_setDesk hd with ⟨-, rfl⟩ | ⟨other, hd⟩
    · obtain ⟨_, _, _, h⟩ := inUse
      cases free.symm.trans h
    · exact other (poised.one ρ d₁ route d hd found inUse ⟨call, k, n, served⟩)

end Icap.Client
