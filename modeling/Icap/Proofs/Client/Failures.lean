import Icap.Proofs.Client.Events

/-!
# Why calls for scans fail

A call fails when its route can have no pool, when the pool refuses it a session, or when the
session that is being opened for it does not come. That it is this call that such a session is
opened for is an invariant of its own: a desk keeps the call that it asked a session for until the
session is there, is not to be had, or is wanted no more.

* `openings`, `Opening` — the connections that are being opened, and the calls that wait for them.
* `Opening.step`, `Opening.useStep` — events keep them.
* `Excused` — why a call may fail.
* `Sound.excused` — why a call fails.
-/

namespace Icap.Client

variable {cut : Nat → Prop} {c c' : Client} {now wall : Instant} {route : Route} {d : Desk}
  {k n : Nat} {fx fx' : List Effect} {job : Job} {notice : Desk.Notice}
  {notices : List Desk.Notice} {fault : ScanFault}

/-! ## Connections that are being opened -/

/-- The routes that connections are being opened for, each with the call that waits for it. -/
def openings (c : Client) : List (Route × Nat) := c.attempts.map fun a => (a.route, a.call)

/-- One connection is being opened for a route at most, and the call that its desk serves waits for
it. -/
structure Opening (c : Client) : Prop where
  nodup : (c.openings.map Prod.fst).Nodup
  served : ∀ o ∈ c.openings, ∃ d, c.desk? o.1 = some d ∧ d.opening? = some o.2

theorem opening_start (settings : Settings) : Opening { settings } where
  nodup := List.nodup_nil
  served := fun _ there => by cases there

/-- Changes of sessions and of calls. -/
theorem Opening.of_eq (opening : Opening c) (attempts : c'.attempts = c.attempts)
    (desks : c'.desks = c.desks) : Opening c' where
  nodup := by
    rw [openings, attempts]
    exact opening.nodup
  served := by
    rw [openings, attempts]
    simp only [desk?, desks]
    exact opening.served

/-- Some connections are opened no more. -/
theorem Opening.filter (opening : Opening c) (p : Attempt → Bool) :
    Opening { c with attempts := c.attempts.filter p } where
  nodup := opening.nodup.sublist ((List.filter_sublist.map _).map _)
  served := fun o there => opening.served o ((List.filter_sublist.map _).subset there)

/-- A route gets a pool. -/
theorem Opening.addDesk (opening : Opening c) (route : Route) :
    Opening { c with desks := c.desks ++ [(route, {})] } where
  nodup := opening.nodup
  served := fun o there => by
    obtain ⟨d, found, served⟩ := opening.served o there
    refine ⟨d, ?_, served⟩
    simp only [desk?] at found
    simp only [desk?, List.lookup_append, found, Option.some_or]

theorem openings_heed : (heed now route c notice).1.openings =
    c.openings ++ notice.asker?.toList.map (Prod.mk route) := by
  cases notice <;> simp only [heed, Desk.Notice.asker?, Option.toList, List.map_nil,
    List.append_nil]
  case handed => split <;> rfl
  case refused => split <;> rfl
  case close session => cases c.session? session <;> rfl
  case «open» => simp [attempt, openings]

/-- Connections are opened for the calls that a desk asks a session for. -/
theorem openings_heedAll : (heedAll now route c notices).1.openings =
    c.openings ++ (notices.filterMap Desk.Notice.asker?).map (Prod.mk route) := by
  induction notices generalizing c with
  | nil => simp [heedAll]
  | cons notice notices ih =>
    rw [heedAll_cons, ih, openings_heed]
    cases asker : notice.asker? <;> simp [asker]

/-- **An event at a desk.** An event with which nothing is being opened any more for the call that
is served comes when no connection is being opened for the route any more. -/
theorem Opening.deskStep {e : Desk.Event} (opening : Opening c)
    (h : c.deskStep? now wall route e = some (c', fx))
    (ended : ∀ d n, c.desk? route = some d → d.opening? = some n → e.Ends n →
      route ∉ c.openings.map Prod.fst) : Opening c' := by
  obtain ⟨d, d', notices, found, h', rfl, -⟩ := exists_of_deskStep? h
  have asked : (heedAll now route (c.setDesk route d') notices).1.openings =
      c.openings ++ (notices.filterMap Desk.Notice.asker?).map (Prod.mk route) := openings_heedAll
  have desks (ρ : Route) : (heedAll now route (c.setDesk route d') notices).1.desk? ρ =
      (c.setDesk route d').desk? ρ := by simp only [desk?, heedAll_desks]
  have here : (c.setDesk route d').desk? route = some d' := by
    rw [desk?_setDesk, if_pos rfl, found, Option.map_some]
  have there {o : Route × Nat} (ho : o ∈ c.openings) (other : o.1 ≠ route) :
      ∃ d, (c.setDesk route d').desk? o.1 = some d ∧ d.opening? = some o.2 := by
    rw [desk?_setDesk, if_neg other]
    exact opening.served o ho
  have served {o : Route × Nat} (ho : o ∈ c.openings) (same : o.1 = route) :
      d.opening? = some o.2 := by
    obtain ⟨d₁, found₁, served⟩ := opening.served o ho
    rwa [Option.some.inj (found.symm.trans (same ▸ found₁))]
  rcases (Desk.step_of_step? h').opening with
    ⟨none, same⟩ | ⟨n, free, one, serves⟩ | ⟨n, was, ends, none, -⟩
  · -- nothing is asked for, and the desk goes on to serve its call
    rw [none, List.map_nil, List.append_nil] at asked
    refine ⟨asked ▸ opening.nodup, fun o ho => ?_⟩
    rw [asked] at ho
    rw [desks]
    by_cases ours : o.1 = route
    · exact ⟨d', ours ▸ here, same.trans (served ho ours)⟩
    · exact there ho ours
  · -- a session is asked for
    have absent : route ∉ c.openings.map Prod.fst := by
      intro h
      obtain ⟨o, ho, ours⟩ := List.mem_map.mp h
      cases free.symm.trans (served ho ours)
    rw [one, List.map_singleton] at asked
    refine ⟨?_, fun o ho => ?_⟩
    · rw [asked, List.map_append, List.map_singleton, ← List.concat_eq_append]
      exact opening.nodup.concat absent
    · rw [asked] at ho
      rw [desks]
      rcases List.mem_append.mp ho with ho | ho
      · exact there ho fun ours => absent (ours ▸ List.mem_map_of_mem ho)
      · obtain rfl := List.mem_singleton.mp ho
        exact ⟨d', here, serves⟩
  · -- the session is there, is not to be had, or is wanted no more
    have absent := ended d n found was ends
    rw [none, List.map_nil, List.append_nil] at asked
    refine ⟨asked ▸ opening.nodup, fun o ho => ?_⟩
    rw [asked] at ho
    rw [desks]
    exact there ho fun ours => absent (ours ▸ List.mem_map_of_mem ho)

/-- Once the connection for a session is opened no more, none is for its route. -/
theorem Opening.not_mem_of_attempt {a : Attempt} (opening : Opening c) (there : a ∈ c.attempts) :
    a.route ∉ (openings { c with attempts := c.attempts.filter (·.session != a.session) }).map
      Prod.fst := by
  intro h
  obtain ⟨o, ho, same⟩ := List.mem_map.mp h
  obtain ⟨b, hb, rfl⟩ := List.mem_map.mp ho
  obtain ⟨hb, other⟩ := List.mem_filter.mp hb
  have nodup : (c.attempts.map Attempt.route).Nodup := by
    simpa [openings, Function.comp_def] using opening.nodup
  obtain rfl := List.inj_on_of_nodup_map nodup hb there same
  simp at other

theorem Opening.begin (opening : Opening c) (scan : job.IsForScan) :
    Opening (c.begin now wall job).1 := by
  have lineUp {c : Client} (opening : Opening c) (patience : Duration) :
      Opening (c.lineUp now wall job true patience).1 := by
    simp only [Client.lineUp]
    cases h : c.deskStep? now wall job.route
        (.arrive ⟨job.call, true, Instant.after? now patience⟩) with
    | none => exact opening
    | some stepped => exact opening.deskStep h fun _ _ _ _ ends => ends.elim
  obtain ⟨filename, payload, wish⟩ := scan
  simp only [Client.begin, wish]
  have added : Opening { c with jobs := c.jobs ++ [job] } := opening.of_eq rfl rfl
  split
  · exact lineUp added _
  split
  · exact opening.of_eq rfl rfl
  · exact lineUp (added.addDesk job.route) _

/-- **An event of a client.** -/
theorem Opening.step {e : Event} (opening : Opening c) (sound : Sound cut fx c)
    (scans : e.IsForScans) (h : c.step? now wall e = some (c', fx')) : Opening c' := by
  cases e with
  | call job =>
    simp only [step?] at h
    split at h
    · cases h
    · have begun : Opening (c.begin now wall job).1 := opening.begin scans
      rwa [Option.some.inj h] at begun
  | shutOut job =>
    obtain ⟨rfl, -⟩ := eq_of_shutOut? h
    exact opening
  | serve route late => exact opening.deskStep h fun _ _ _ _ ends => ends.elim
  | use route => exact scans.elim
  | expire route call => exact opening.deskStep h fun _ _ _ _ ends => ends.elim
  | connected session =>
    simp only [step?, connectedStep?] at h
    split at h
    · cases h
    next a found =>
      have there : a ∈ c.attempts := List.mem_of_find?_eq_some found
      rw [if_pos (sound.pooled a there)] at h
      obtain rfl : a.session = session := by simpa using List.find?_some found
      refine Opening.deskStep ?_ h fun _ _ _ _ _ => opening.not_mem_of_attempt there
      exact (opening.filter _).of_eq rfl rfl
  | notConnected session =>
    simp only [step?, notConnectedStep?] at h
    split at h
    · cases h
    next a found =>
      have there : a ∈ c.attempts := List.mem_of_find?_eq_some found
      rw [if_pos (sound.pooled a there)] at h
      obtain rfl : a.session = session := by simpa using List.find?_some found
      refine Opening.deskStep ?_ h fun _ _ _ _ _ => opening.not_mem_of_attempt there
      exact (opening.filter _).of_eq rfl rfl
  | session number e =>
    simp only [step?, sessionStep?] at h
    split at h
    · cases h
    split at h
    · cases h
    obtain ⟨⟨s, sfx⟩, -, heq⟩ := Option.map_eq_some_iff.mp h
    cases heq
    exact opening.of_eq rfl rfl
  | giveUp call =>
    simp only [step?, giveUpStep?] at h
    split at h
    · cases h
    next job found =>
      have kept : Opening { c with
          jobs := c.jobs.filter (·.call != call)
          attempts := c.attempts.filter (·.call != call) } :=
        (opening.filter _).of_eq rfl rfl
      generalize stepped : deskStep? _ now wall job.route (.leave call) = result at h
      cases result with
      | none =>
        cases h
        exact kept
      | some result =>
        cases h
        refine kept.deskStep stepped fun d n hd was ends h => ?_
        obtain rfl : call = n := ends
        -- the connection that is being opened for the route would be for the call
        obtain ⟨o, ho, same⟩ := List.mem_map.mp h
        obtain ⟨d₁, hd₁, served⟩ := kept.served o ho
        obtain rfl := Option.some.inj (hd.symm.trans (same ▸ hd₁))
        obtain ⟨a, ha, rfl⟩ := List.mem_map.mp ho
        obtain ⟨-, other⟩ := List.mem_filter.mp ha
        obtain rfl : call = a.call := Option.some.inj (was.symm.trans served)
        simp at other

/-- **The start of a scan.** -/
theorem Opening.useStep (opening : Opening c)
    (h : c.step? now wall (.use route) = some (c', fx)) : Opening c' := by
  have started (session : Nat) (filename : String) (payload : Bytes) :
      Opening (c.startScan session filename payload).1 := by
    simp only [startScan]
    split
    · exact opening
    · exact opening.of_eq rfl rfl
  simp only [step?, useStep?] at h
  split at h
  · split at h
    · obtain ⟨⟨c₁, fx₁⟩, stepped, heq⟩ := Option.map_eq_some_iff.mp h
      cases heq
      refine Opening.deskStep ?_ stepped fun _ _ _ _ ends => ends.elim
      exact (started ..).of_eq rfl rfl
    · cases h
  · cases h

/-! ## Failures -/

/-- Why a call may fail, for a client that an event happens to. -/
inductive Excused (c : Client) (e : Event) (call : Nat) : ScanFault → Prop
  /-- There is no pool for its route, and no room for one more. -/
  | noMoreRoutes {job : Job} (event : e = .call job) (mine : job.call = call)
      (absent : c.desk? job.route = none) (full : c.settings.maxRoutes ≤ c.desks.length) :
      Excused c e call .noMoreRoutes
  /-- It cannot get at the table of routes in time. -/
  | tableTaken {job : Job} (event : e = .shutOut job) (mine : job.call = call) :
      Excused c e call .tableTaken
  /-- It is served, and there is neither a session for it nor room for one more. -/
  | noFreeSession {route : Route} {late : Nat → Bool} {d : Desk} (event : e = .serve route late)
      (found : c.desk? route = some d) (first : d.line.head?.map Call.number = some call) :
      Excused c e call .noFreeSession
  /-- It is served, and its time is over. -/
  | timeOver {route : Route} {late : Nat → Bool} {d : Desk} {m : Nat}
      (event : e = .serve route late) (found : c.desk? route = some d)
      (first : d.line.head?.map Call.number = some call) (past : late m = true) :
      Excused c e call .notConnected
  /-- The session that was being opened for it could not be. -/
  | notOpened {a : Attempt} (event : e = .notConnected a.session) (opening : a ∈ c.attempts)
      (mine : a.call = call) : Excused c e call .notConnected
  /-- It has lost its patience in line. -/
  | expired {route : Route} (event : e = .expire route call) : Excused c e call .notConnected

theorem jobs_of_heed (now : Instant) (route : Route) (c : Client) (notice : Desk.Notice) :
    (heed now route c notice).1.jobs ⊆ c.jobs := by
  cases notice <;> simp only [heed]
  case handed =>
    split
    · exact List.filter_subset_self _
    · exact List.Subset.refl _
  case refused =>
    split
    · exact List.filter_subset_self _
    · exact List.Subset.refl _
  case close session => cases c.session? session <;> exact List.Subset.refl _
  case «open» => exact List.Subset.refl _

/-- A call fails when it is refused a session. -/
theorem exists_refused_of_heedAll
    (failed : .finished n (.error fault) ∈ (heedAll now route c notices).2) :
    ∃ told, ∃ job ∈ c.jobs, .refused n told ∈ notices ∧ fault = leaseFault job.wish told := by
  induction notices generalizing c with
  | nil => cases failed
  | cons notice notices ih =>
    rw [heedAll_cons] at failed
    rcases List.mem_append.mp failed with now | later
    · cases notice <;> simp only [heed] at now
      case handed => split at now <;> simp [finish] at now
      case refused call told =>
        split at now
        next job found =>
          obtain ⟨rfl, rfl⟩ : n = call ∧ fault = leaseFault job.wish told := by
            simpa [finish] using now
          exact ⟨told, job, (exists_of_job? found).1, List.mem_cons_self, rfl⟩
        next => cases now
      case close => cases now
      case «open» => simp [attempt] at now
    · obtain ⟨told, job, there, refused, same⟩ := ih later
      exact ⟨told, job, jobs_of_heed _ _ _ _ there, List.mem_cons_of_mem _ refused, same⟩

/-- Why a call fails with an event at the desk of a pool. -/
theorem exists_refusal_of_deskStep? {e : Desk.Event}
    (h : c.deskStep? now wall route e = some (c', fx'))
    (failed : .finished n (.error fault) ∈ fx') :
    ∃ d told, ∃ job ∈ c.jobs, c.desk? route = some d ∧ d.Refusal e n told ∧
      fault = leaseFault job.wish told := by
  obtain ⟨d, d', notices, found, step, -, rfl⟩ := exists_of_deskStep? h
  obtain ⟨told, job, there, refused, same⟩ := exists_refused_of_heedAll failed
  exact ⟨d, told, job, there, found, (Desk.step_of_step? step).refusal refused, same⟩

/-- Why a call for a scan fails with an event at the desk of a pool. -/
theorem refusal_of_deskStep? {e : Desk.Event}
    (h : c.deskStep? now wall route e = some (c', fx')) (scans : ∀ job ∈ c.jobs, job.IsForScan)
    (failed : .finished n (.error fault) ∈ fx') :
    ∃ d told filename payload, c.desk? route = some d ∧ d.Refusal e n told ∧
      fault = leaseFault (.scan filename payload) told := by
  obtain ⟨d, told, job, there, found, refusal, same⟩ := exists_refusal_of_deskStep? h failed
  obtain ⟨filename, payload, wish⟩ := scans job there
  exact ⟨d, told, filename, payload, found, refusal, by rw [same, wish]⟩

/-- No call fails as it gets in line. -/
theorem not_failed_of_lineUp {patience : Duration} (scans : ∀ job ∈ c.jobs, job.IsForScan) :
    .finished n (.error fault) ∉ (c.lineUp now wall job true patience).2 := by
  simp only [lineUp]
  cases stepped : c.deskStep? now wall job.route
      (.arrive ⟨job.call, true, Instant.after? now patience⟩) with
  | none => exact List.not_mem_nil
  | some result =>
    intro failed
    obtain ⟨d, told, _, _, -, refusal, -⟩ := refusal_of_deskStep? stepped scans failed
    cases refusal with
    | full event | timeOver event | notOpened event | expired event => cases event

/-- A call fails as it comes in when no pool may be made for its route. -/
theorem excused_of_begin (scans : ∀ job ∈ c.jobs, job.IsForScan) (scan : job.IsForScan)
    (failed : .finished n (.error fault) ∈ (c.begin now wall job).2) :
    Excused c (.call job) n fault := by
  have scans' : ∀ job' ∈ c.jobs ++ [job], job'.IsForScan := by
    intro job' hjob
    rcases List.mem_append.mp hjob with hjob | hjob
    · exact scans job' hjob
    · exact List.mem_singleton.mp hjob ▸ scan
  obtain ⟨filename, payload, wish⟩ := scan
  simp only [begin, wish] at failed
  split at failed
  · exact absurd failed (not_failed_of_lineUp scans')
  next absent =>
    split at failed
    next full =>
      obtain ⟨rfl, rfl⟩ : n = job.call ∧ fault = .noMoreRoutes := by simpa [finish] using failed
      exact .noMoreRoutes rfl rfl absent full
    · exact absurd failed (not_failed_of_lineUp scans')

/-- **Why a call for a scan fails.** -/
theorem Sound.excused {e : Event} (sound : Sound cut fx c) (opening : Opening c)
    (scans : e.IsForScans) (h : c.step? now wall e = some (c', fx'))
    (failed : .finished n (.error fault) ∈ fx') : Excused c e n fault := by
  cases e with
  | call job =>
    simp only [step?] at h
    split at h
    · cases h
    · have began : (c.begin now wall job).2 = fx' := congrArg Prod.snd (Option.some.inj h)
      exact excused_of_begin sound.scans scans (began ▸ failed)
  | shutOut job =>
    obtain ⟨-, rfl⟩ := eq_of_shutOut? h
    obtain ⟨rfl, rfl⟩ : n = job.call ∧ fault = .tableTaken := by simpa using failed
    exact .tableTaken rfl rfl
  | serve route late =>
    obtain ⟨d, told, _, _, found, refusal, rfl⟩ := refusal_of_deskStep? h sound.scans failed
    cases refusal with
    | full event first =>
      cases event
      exact .noFreeSession rfl found first
    | timeOver event first past =>
      cases event
      exact .timeOver rfl found first past
    | notOpened event | expired event => cases event
  | use route => exact scans.elim
  | expire route call =>
    obtain ⟨d, told, _, _, -, refusal, rfl⟩ := refusal_of_deskStep? h sound.scans failed
    cases refusal with
    | expired event =>
      cases event
      exact .expired rfl
    | full event | timeOver event | notOpened event => cases event
  | connected session =>
    simp only [step?, connectedStep?] at h
    split at h
    · cases h
    next a found =>
      rw [if_pos (sound.pooled a (List.mem_of_find?_eq_some found))] at h
      obtain ⟨d, told, _, _, -, refusal, -⟩ := refusal_of_deskStep? h sound.scans failed
      cases refusal with
      | full event | timeOver event | notOpened event | expired event => cases event
  | notConnected session =>
    simp only [step?, notConnectedStep?] at h
    split at h
    · cases h
    next a found =>
      have there : a ∈ c.attempts := List.mem_of_find?_eq_some found
      obtain rfl : a.session = session := by simpa using List.find?_some found
      rw [if_pos (sound.pooled a there)] at h
      obtain ⟨d, told, _, _, hd, refusal, rfl⟩ := refusal_of_deskStep? h sound.scans failed
      cases refusal with
      | notOpened event served =>
        cases event
        -- the desk serves the call that the connection was being opened for
        obtain ⟨d₁, hd₁, served₁⟩ := opening.served _ (List.mem_map_of_mem there)
        obtain rfl := Option.some.inj (hd.symm.trans hd₁)
        exact .notOpened rfl there (Option.some.inj (served₁.symm.trans served))
      | full event | timeOver event | expired event => cases event
  | session number e =>
    simp only [step?, sessionStep?] at h
    split at h
    · cases h
    split at h
    · cases h
    obtain ⟨⟨s, sfx⟩, -, heq⟩ := Option.map_eq_some_iff.mp h
    cases heq
    simp at failed
  | giveUp call =>
    simp only [step?, giveUpStep?] at h
    split at h
    · cases h
    next job found =>
      generalize stepped : deskStep? _ now wall job.route (.leave call) = result at h
      cases result with
      | none =>
        cases h
        cases failed
      | some result =>
        cases h
        have scans' : ∀ job ∈ c.jobs.filter (·.call != call), job.IsForScan :=
          fun job hjob => sound.scans job (List.mem_of_mem_filter hjob)
        obtain ⟨d, told, _, _, -, refusal, -⟩ := refusal_of_deskStep? stepped scans' failed
        cases refusal with
        | full event | timeOver event | notOpened event | expired event => cases event

end Icap.Client
