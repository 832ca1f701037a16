import Icap.Proofs.Client.Parts
import Icap.Proofs.Pool.Service
import Icap.Proofs.Session.States

/-!
# A client that is used for scans

The pools of a client know of their sessions only what they see of them, the sessions know nothing
of pools, and calls stand in line for one pool while others are served. That they all fit together
is one invariant, which every part of an event keeps.

* `of` — what effects of a client tell of one session.
* `Stocked`, `Manned` — a desk whose sessions and whose calls are those of the client.
* `Sound` — the invariant.
* `Sound.move`, `Sound.setDesk`, `Sound.dropJob` — changes of one part.
* `Sound.heedAll` — the notices of a desk.
* `Sound.deskStep` — an event at a desk.
-/

namespace Icap

/-- Whether a call is for a scan on a session of a pool. -/
def Job.IsForScan (job : Job) : Prop := ∃ filename payload, job.wish = .scan filename payload

/-! ## Resting sessions -/

/-- Whether a session works on no scan and is to begin none. -/
def Session.IsResting (s : Session) : Prop := s.state = .connected ∨ s.state = .disconnected

theorem Session.IsResting.rule {settings : Settings} {now : Instant} {s s' : Session}
    {e : Session.Event} {fx : List Session.Effect} (resting : s.IsResting)
    (rule : Rule settings now s e s' fx) (other : ∀ filename payload, e ≠ .scan filename payload) :
    s'.IsResting := by
  cases rule
  case refuse | ready | orphan | claim => exact absurd rfl (other _ _)
  case start state => rcases resting with h | h <;> cases h.symm.trans state
  case ask state _ => rcases resting with h | h <;> cases h.symm.trans state
  case answer => exact .inl rfl
  case close | turnDown | obey | abandon | refuseOptions | answerLast | answerLate | hangUp | lapse
    | failWrite | expireWrite => exact .inr rfl
  all_goals exact resting

theorem Session.IsResting.step {settings : Settings} {now : Instant} {s s' : Session}
    {e : Session.Event} {fx : List Session.Effect} (resting : s.IsResting)
    (step : Step settings now s e s' fx) (other : ∀ filename payload, e ≠ .scan filename payload) :
    s'.IsResting := by
  cases step with
  | whole rule onTime => exact resting.rule rule other
  | breakOff rule =>
    have kept := resting.rule rule other
    exact kept

namespace Client

variable {cut : Nat → Prop} {c c' : Client} {now wall : Instant} {route ρ : Route} {d d' : Desk}
  {s t : Session} {k n : Nat} {fx fx' : List Effect} {notice : Desk.Notice}
  {notices : List Desk.Notice}

/-! ## What effects tell of a session -/

/-- What an effect tells of a session. -/
def Effect.of? (k : Nat) : Effect → Option Session.Effect
  | .session number effect => if number = k then some effect else none
  | .finished _ (.ok (.scan number reply)) =>
    if number = k then some (.replied (.ok reply)) else none
  | _ => none

/-- What effects tell of a session. -/
def of (k : Nat) (fx : List Effect) : List Session.Effect := fx.filterMap (Effect.of? k)

@[simp] theorem of_append (k : Nat) (fx fx' : List Effect) :
    of k (fx ++ fx') = of k fx ++ of k fx' := List.filterMap_append

theorem of_map_session (k number : Nat) (fx : List Session.Effect) :
    of k (fx.map (.session number)) = if k = number then fx else [] := by
  rw [of, List.filterMap_map]
  split
  next same =>
    subst same
    exact (List.filterMap_congr fun x _ => by simp [Effect.of?]).trans List.filterMap_some
  next other => simp [List.filterMap_eq_nil_iff, Effect.of?, Ne.symm other]

theorem of_finished_scan (k call number : Nat) (reply : Reply) :
    of k [.finished call (.ok (.scan number reply))] =
      if k = number then [.replied (.ok reply)] else [] := by
  by_cases same : number = k
  · simp [of, Effect.of?, same]
  · simp [of, Effect.of?, same, Ne.symm same]

/-! ## The invariant -/

/-- The sessions of a pool are sessions of the client that belong to the route of the pool, and
those that are available rest. -/
structure Stocked (find : Nat → Option Session) (route : Route) (d : Desk) : Prop where
  nodup : d.pool.members.Nodup
  member : ∀ k ∈ d.pool.members, ∃ s, find k = some s ∧ s.route = route ∧ s.held = true
  resting : ∀ k ∈ d.pool.available, ∀ s, find k = some s → s.IsResting
  leased : ∀ call k n, d.served = some (call, .using k n) → k ∈ d.pool.leased.map Lease.session

/-- The calls at the desk of a pool are calls of the client for the route of the pool. -/
structure Manned (jobs : List Job) (route : Route) (d : Desk) : Prop where
  nodup : (d.calls.map Call.number).Nodup
  job : ∀ call ∈ d.calls, call.uses = true ∧
    ∃ job ∈ jobs, job.call = call.number ∧ job.route = route

/-- Sessions of a pool are not let go. -/
theorem Stocked.held {find : Nat → Option Session} (stocked : Stocked find route d)
    (member : k ∈ d.pool.members) (found : find k = some s) : s.held = true := by
  obtain ⟨s', found', -, held⟩ := stocked.member k member
  rwa [Option.some.inj (found.symm.trans found')]

/-- What holds of a client that is used for scans alone when so much has come of it, and when the
tasks of some of its sessions have been cut off. -/
structure Sound (cut : Nat → Prop) (fx : List Effect) (c : Client) : Prop where
  numbers : (c.sessions.map Session.number ++ c.attempts.map Attempt.session).Nodup
  asked : ∀ k ∈ c.sessions.map Session.number ++ c.attempts.map Attempt.session, k ≤ c.asked
  pooled : ∀ a ∈ c.attempts, a.pooled = true
  scans : ∀ job ∈ c.jobs, job.IsForScan
  calls : (c.jobs.map Job.call).Nodup
  ledger : ∀ k s, c.session? k = some s →
    Session.Ledger (of k fx) s ∧ (s.IsOver → s.state = .disconnected ∨ cut k)
  silent : ∀ k, c.session? k = none → of k fx = []
  stocked : ∀ route d, c.desk? route = some d → Stocked c.session? route d
  manned : ∀ route d, c.desk? route = some d → Manned c.jobs route d

/-- No call is about to use its session. -/
def Free (c : Client) : Prop := ∀ route d, c.desk? route = some d → ¬d.InUse

/-- A session that a call is about to use is connected, and has as many commands as the call has
been told; and one call is so at most. -/
structure Poised (c : Client) : Prop where
  ready : ∀ route d call k n, c.desk? route = some d → d.served = some (call, .using k n) →
    ∃ s, c.session? k = some s ∧ s.state = .connected ∧ s.commands = n
  one : ∀ route d ρ d', c.desk? route = some d → c.desk? ρ = some d' → d.InUse → d'.InUse →
    route = ρ

theorem Free.poised (free : Free c) : Poised c where
  ready := fun route d call k n found served => absurd ⟨call, k, n, served⟩ (free route d found)
  one := fun route d _ _ found _ inUse => absurd inUse (free route d found)

/-- A session belongs to the pool of one route. -/
theorem Sound.route_eq (sound : Sound cut fx c) (found : c.desk? route = some d)
    (found' : c.desk? ρ = some d') (member : k ∈ d.pool.members) (member' : k ∈ d'.pool.members) :
    route = ρ := by
  obtain ⟨s, hs, same, -⟩ := (sound.stocked route d found).member k member
  obtain ⟨s', hs', same', -⟩ := (sound.stocked ρ d' found').member k member'
  obtain rfl := Option.some.inj (hs.symm.trans hs')
  exact same.symm.trans same'

/-- A call stands at the desk of its route. -/
theorem Sound.route_of_job {job : Job} (sound : Sound cut fx c) (there : job ∈ c.jobs)
    (found : c.desk? route = some d) (call : job.call ∈ d.calls.map Call.number) :
    route = job.route := by
  obtain ⟨a, ha, same⟩ := List.mem_map.mp call
  obtain ⟨-, job', hjob', number, rfl⟩ := (sound.manned route d found).job a ha
  rw [List.inj_on_of_nodup_map sound.calls hjob' there (number.trans same)]

/-- A call stands at the desk of one route. -/
theorem Sound.route_eq_of_call (sound : Sound cut fx c) (found : c.desk? route = some d)
    (found' : c.desk? ρ = some d') (call : n ∈ d.calls.map Call.number)
    (call' : n ∈ d'.calls.map Call.number) : route = ρ := by
  obtain ⟨a, ha, rfl⟩ := List.mem_map.mp call
  obtain ⟨-, job, there, number, rfl⟩ := (sound.manned route d found).job a ha
  exact (sound.route_of_job there found' (number ▸ call')).symm

/-! ## Changes -/

theorem sound_start (cut : Nat → Prop) (settings : Settings) : Sound cut [] { settings } where
  numbers := List.nodup_nil
  asked := by simp
  pooled := by simp
  scans := by simp
  calls := List.nodup_nil
  ledger := by simp [session?]
  silent := fun _ _ => rfl
  stocked := by simp [desk?]
  manned := by simp [desk?]

/-- More tasks may have been cut off. -/
theorem Sound.mono {cut' : Nat → Prop} (sound : Sound cut fx c) (more : ∀ k, cut k → cut' k) :
    Sound cut' fx c :=
  { sound with
    ledger := fun k s found =>
      (sound.ledger k s found).imp_right fun ends isOver => (ends isOver).imp_right (more k) }

/-- Effects that tell nothing of sessions. -/
theorem Sound.quiet (sound : Sound cut fx c) (quiet : ∀ k, of k fx' = []) :
    Sound cut (fx ++ fx') c :=
  { sound with
    ledger := fun k s found => by
      rw [of_append, quiet, List.append_nil]
      exact sound.ledger k s found
    silent := fun k found => by rw [of_append, quiet, List.append_nil, sound.silent k found] }

/-- **A step of a session.** What is told of it may leave out that a scan has been refused. -/
theorem Sound.move {e : Session.Event} {sfx told : List Session.Effect} (sound : Sound cut fx c)
    (found : c.session? k = some t) (step : Session.Step c.settings now t e s sfx)
    (ends : (t.IsOver → t.state = .disconnected) → s.IsOver → s.state = .disconnected ∨ cut k)
    (heard : Session.promised told = Session.promised sfx ∧
      Session.settled told = Session.settled sfx)
    (tells : ∀ k', of k' fx' = if k' = k then told else [])
    (held : ∀ route d, c.desk? route = some d → k ∈ d.pool.members → s.held = true)
    (resting : ∀ route d, c.desk? route = some d → k ∈ d.pool.available → s.IsResting) :
    Sound cut (fx ++ fx') (c.setSession s) := by
  obtain ⟨number, same, -⟩ := Session.same_of_step step
  rw [number_of_session? found] at number
  have numbers : (c.setSession s).sessions.map Session.number = c.sessions.map Session.number := by
    simp only [setSession, List.map_map]
    refine List.map_congr_left fun t _ => ?_
    simp only [Function.comp]
    split <;> simp_all
  have find (k' : Nat) : (c.setSession s).session? k' =
      if k' = k then some s else c.session? k' := by
    rw [session?_setSession, number]
    split <;> simp_all
  refine ⟨numbers ▸ sound.numbers, numbers ▸ sound.asked, sound.pooled, sound.scans, sound.calls,
    fun k' s' found' => ?_, fun k' found' => ?_, fun route d hd => ?_, sound.manned⟩
  · rw [find] at found'
    rw [of_append, tells]
    split at found'
    next here =>
      obtain rfl := Option.some.inj found'
      obtain ⟨ledger, wasOver⟩ := sound.ledger k t found
      rw [here, if_pos rfl]
      refine ⟨(ledger.step step).of_eq ?_ ?_, ?_⟩
      · rw [Session.promised_append, Session.promised_append, heard.1]
      · rw [Session.settled_append, Session.settled_append, heard.2]
      · by_cases cuts : cut k
        · exact fun _ => .inr cuts
        · exact ends fun isOver => (wasOver isOver).resolve_right cuts
    next other =>
      rw [if_neg other, List.append_nil]
      exact sound.ledger k' s' found'
  · rw [find] at found'
    split at found'
    · cases found'
    next other => rw [of_append, tells, if_neg other, List.append_nil, sound.silent k' found']
  · have stocked := sound.stocked route d hd
    refine ⟨stocked.nodup, fun k' member => ?_, fun k' available s' found' => ?_, stocked.leased⟩
    · obtain ⟨s', found', same', held'⟩ := stocked.member k' member
      rw [find]
      split
      next here =>
        subst here
        obtain rfl := Option.some.inj (found.symm.trans found')
        exact ⟨s, rfl, same.trans same', held route d hd member⟩
      next => exact ⟨s', found', same', held'⟩
    · rw [find] at found'
      split at found'
      next here =>
        obtain rfl := Option.some.inj found'
        exact resting route d hd (here ▸ available)
      next => exact stocked.resting k' available s' found'

/-- A desk is replaced by one that fits in. -/
theorem Sound.setDesk (sound : Sound cut fx c) (stocked : Stocked c.session? route d)
    (manned : Manned c.jobs route d) : Sound cut fx (c.setDesk route d) :=
  { sound with
    stocked := fun ρ d' found => by
      rcases desk?_of_setDesk found with ⟨rfl, rfl⟩ | ⟨-, found⟩
      · exact stocked
      · exact sound.stocked ρ d' found
    manned := fun ρ d' found => by
      rcases desk?_of_setDesk found with ⟨rfl, rfl⟩ | ⟨-, found⟩
      · exact manned
      · exact sound.manned ρ d' found }

/-- A call that stands at no desk comes to its end. -/
theorem Sound.dropJob (sound : Sound cut fx c)
    (gone : ∀ route d, c.desk? route = some d → n ∉ d.calls.map Call.number) :
    Sound cut fx { c with jobs := c.jobs.filter (·.call != n) } :=
  { sound with
    scans := fun job h => sound.scans job (List.mem_of_mem_filter h)
    calls := sound.calls.sublist (List.filter_sublist.map _)
    manned := fun route d found => by
      refine ⟨(sound.manned route d found).nodup, fun call there => ?_⟩
      obtain ⟨uses, job, hjob, number, same⟩ := (sound.manned route d found).job call there
      refine ⟨uses, job, List.mem_filter.mpr ⟨hjob, ?_⟩, number, same⟩
      rw [number, bne_iff_ne]
      rintro rfl
      exact gone route d found (List.mem_map_of_mem there) }

theorem Sound.attempt (sound : Sound cut fx c) (now : Instant) (route : Route) (reuse : Bool)
    (call : Nat) : Sound cut (fx ++ (c.attempt now route reuse call true).2)
      (c.attempt now route reuse call true).1 := by
  have new : ∀ k ∈ c.sessions.map Session.number ++ c.attempts.map Attempt.session,
      k ≠ c.asked + 1 := fun k hk => by have := sound.asked k hk; omega
  refine Sound.quiet ?_ fun k => rfl
  refine { sound with numbers := ?_, asked := ?_, pooled := ?_ }
  · simp only [Client.attempt, List.map_append, ← List.append_assoc]
    exact List.nodup_append.mpr ⟨sound.numbers, List.nodup_singleton _, by simpa using new⟩
  · intro k hk
    simp only [Client.attempt, List.map_append, ← List.append_assoc] at hk ⊢
    rcases List.mem_append.mp hk with hk | hk
    · exact Nat.le_succ_of_le (sound.asked k hk)
    · exact Nat.le_of_eq (List.mem_singleton.mp hk)
  · intro a ha
    rcases List.mem_append.mp ha with ha | ha
    · exact sound.pooled a ha
    · rw [List.mem_singleton.mp ha]

/-! ## Notices -/

/-- What a notice relies on: a session that is closed has users, and a call that is refused stands
at no desk. -/
def Fits (c : Client) : Desk.Notice → Prop
  | .close k => ∀ s, c.session? k = some s → s.held = true
  | .refused n _ => ∀ route d, c.desk? route = some d → n ∉ d.calls.map Call.number
  | _ => True

/-- **A notice of a desk is heeded.** -/
theorem Sound.heed (sound : Sound cut fx c) (fits : Fits c notice) :
    Sound cut (fx ++ (heed now route c notice).2) (heed now route c notice).1 := by
  cases notice with
  | handed call session =>
    have idle : Client.heed now route c (.handed call session) = (c, []) := by
      simp only [Client.heed]
      cases found : c.job? call with
      | none => rfl
      | some job =>
        obtain ⟨filename, payload, wish⟩ := sound.scans job (exists_of_job? found).1
        obtain ⟨_, _, _⟩ := job
        obtain rfl : _ = Wish.scan filename payload := wish
        rfl
    rw [idle, List.append_nil]
    exact sound
  | refused call fault =>
    simp only [Client.heed]
    cases c.job? call with
    | none => simpa using sound
    | some job => exact (sound.dropJob fits).quiet fun k => rfl
  | close session =>
    simp only [Client.heed, List.append_nil]
    cases found : c.session? session with
    | none => exact sound
    | some s =>
      have step : Session.Step c.settings now s .close s.close [] :=
        (Session.Rule.close (fits s found)).step (.inl trivial)
      have closed : Sound cut (fx ++ []) (c.setSession s.close) :=
        sound.move found step (fun _ _ => .inl rfl) ⟨rfl, rfl⟩ (by simp [of])
          (fun _ _ _ _ => fits s found) fun _ _ _ _ => .inr rfl
      rwa [List.append_nil] at closed
  | «open» call => exact sound.attempt now route _ call

theorem Fits.heed {notice' : Desk.Notice} (fits : Fits c notice) :
    Fits (heed now route c notice').1 notice := by
  cases notice with
  | handed | «open» => trivial
  | refused n fault =>
    intro ρ d found
    rw [desk?, heed_desks] at found
    exact fits ρ d found
  | close k =>
    intro s found
    by_cases closed : notice' = .close k
    · subst closed
      simp only [Client.heed] at found
      cases was : c.session? k with
      | none =>
        rw [was] at found
        cases was.symm.trans found
      | some t =>
        rw [was, Option.elim_some, session?_setSession] at found
        have number := number_of_session? was
        rw [if_pos (by simp [Session.close, number]), was] at found
        obtain rfl := Option.some.inj found
        exact fits t was
    · rw [session?_heed closed] at found
      exact fits s found

/-- **The notices of a desk are heeded.** -/
theorem Sound.heedAll (sound : Sound cut fx c) (fits : ∀ notice ∈ notices, Fits c notice) :
    Sound cut (fx ++ (heedAll now route c notices).2) (heedAll now route c notices).1 := by
  induction notices generalizing c fx with
  | nil => simpa [Client.heedAll] using sound
  | cons notice notices ih =>
    rw [heedAll_cons, ← List.append_assoc]
    exact ih (sound.heed (fits notice List.mem_cons_self))
      fun other there => (fits other (List.mem_cons_of_mem _ there)).heed

/-! ## Events at a desk -/

theorem connected_of_view (idle : (c.view wall k).idle = true) (found : c.session? k = some s) :
    s.state = .connected := by
  simpa [view, found, Session.isIdle] using idle

theorem Stocked.step {find : Nat → Option Session} {look : Looks} {limits : PoolLimits}
    {e : Desk.Event} (stocked : Stocked find route d)
    (h : d.step? look limits e = some (d', notices))
    (looks : ∀ m k s, (look m k).idle = true → find k = some s → s.IsResting)
    (brought : ∀ k, e.opened? = some k → k ∉ d.pool.members ∧
      ∃ s, find k = some s ∧ s.route = route ∧ s.held = true) : Stocked find route d' := by
  have step := Desk.step_of_step? h
  have nodup : (e.opened?.toList ++ d.pool.members).Nodup := by
    cases opened : e.opened? with
    | none => exact stocked.nodup
    | some k => exact List.nodup_cons.mpr ⟨(brought k opened).1, stocked.nodup⟩
  obtain ⟨nodup', sub⟩ := Desk.members_of_step? h nodup
  refine ⟨nodup', fun k member => ?_, fun k available s found => ?_,
    step.leased_of_using stocked.leased⟩
  · rcases List.mem_append.mp (sub member) with opened | member
    · exact (brought k (Option.mem_toList.mp opened)).2
    · exact stocked.member k member
  · rcases step.mem_available available with there | ⟨m, idle⟩
    · exact stocked.resting k there s found
    · exact looks m k s idle found

theorem Manned.step {jobs : List Job} {look : Looks} {limits : PoolLimits} {e : Desk.Event}
    (manned : Manned jobs route d) (step : Desk.Step look limits d e d' notices)
    (arrived : ∀ call ∈ e.arrived, call.uses = true ∧
      ∃ job ∈ jobs, job.call = call.number ∧ job.route = route) : Manned jobs route d' := by
  obtain ⟨gone, perm, -⟩ := step.calls
  refine ⟨(step.calls_nodup manned.nodup).1, fun call there => ?_⟩
  rcases List.mem_append.mp (perm.mem_iff.mpr (List.mem_append_right _ there)) with was | new
  · exact manned.job call was
  · exact arrived call new

/-- **An event at a desk.** If no call was about to use its session, at most the one that this desk
serves is so now, and its session is connected. -/
theorem Sound.deskStep {e : Desk.Event} (sound : Sound cut fx c) (free : Free c)
    (h : c.deskStep? now wall route e = some (c', fx'))
    (arrived : ∀ call ∈ e.arrived, call.uses = true ∧
      ∃ job ∈ c.jobs, job.call = call.number ∧ job.route = route)
    (brought : ∀ k, e.opened? = some k → (∀ ρ d, c.desk? ρ = some d → k ∉ d.pool.members) ∧
      ∃ s, c.session? k = some s ∧ s.route = route ∧ s.held = true ∧ s.state = .connected) :
    Sound cut (fx ++ fx') c' ∧ Poised c' := by
  obtain ⟨d, d', notices, found, h', rfl, rfl⟩ := exists_of_deskStep? h
  have step := Desk.step_of_step? h'
  have stocked := sound.stocked route d found
  have manned := sound.manned route d found
  have stocked' : Stocked c.session? route d' := by
    refine stocked.step h' (fun m k s idle hs => .inl (connected_of_view idle hs))
      fun k opened => ?_
    obtain ⟨new, s, hs, same, held, -⟩ := brought k opened
    exact ⟨new route d found, s, hs, same, held⟩
  have placed := sound.setDesk stocked' (manned.step step arrived)
  have fits : ∀ notice ∈ notices, Fits (c.setDesk route d') notice := by
    intro notice there
    cases notice with
    | handed | «open» => trivial
    | close k =>
      intro s hs
      exact stocked.held (step.closed stocked.nodup there).1 hs
    | refused n fault =>
      obtain ⟨was, gone⟩ := (step.calls_nodup manned.nodup).2 n fault there
      intro ρ d₁ hd
      rcases desk?_of_setDesk hd with ⟨-, rfl⟩ | ⟨other, hd⟩
      · exact gone
      · exact fun there => other (sound.route_eq_of_call hd found there was)
  refine ⟨placed.heedAll fits, ?_, ?_⟩
  · intro ρ d₁ call k n hd served
    rw [desk?, heedAll_desks] at hd
    rcases desk?_of_setDesk hd with ⟨-, rfl⟩ | ⟨-, hd⟩
    · obtain ⟨⟨m, commands⟩, open_, origin⟩ :=
        step.mem_using (free route d found) stocked.nodup served
      have member : k ∈ d₁.pool.members :=
        List.mem_append_right _ (stocked'.leased call k n served)
      obtain ⟨s, hs, -, -⟩ := stocked'.member k member
      refine ⟨s, (session?_heedAll open_).trans hs, ?_, by simp [commands, view, hs]⟩
      rcases origin with opened | ⟨resting, m', alive⟩
      · obtain ⟨-, s', hs', -, -, connected⟩ := brought k opened
        rwa [Option.some.inj (hs.symm.trans hs')]
      · rcases resting with there | ⟨m₁, idle⟩
        · rcases stocked.resting k there s hs with connected | gone
          · exact connected
          · simp [view, hs, Session.isDead, gone] at alive
        · exact connected_of_view idle hs
    · exact absurd ⟨call, k, n, served⟩ (free ρ d₁ hd)
  · intro ρ₁ d₁ ρ₂ d₂ hd₁ hd₂ inUse₁ inUse₂
    rw [desk?, heedAll_desks] at hd₁ hd₂
    rcases desk?_of_setDesk hd₁ with ⟨rfl, -⟩ | ⟨-, hd₁⟩
    · rcases desk?_of_setDesk hd₂ with ⟨rfl, -⟩ | ⟨-, hd₂⟩
      · rfl
      · exact absurd inUse₂ (free ρ₂ d₂ hd₂)
    · exact absurd inUse₁ (free ρ₁ d₁ hd₁)

end Client

end Icap
