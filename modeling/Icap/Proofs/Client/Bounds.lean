import Icap.Proofs.Client.Pools
import Mathlib.Algebra.Group.Action.Defs
import Mathlib.Algebra.Order.BigOperators.Group.List
import Mathlib.Algebra.Order.Ring.Nat

/-!
# What a client keeps to

Whatever a client is used for, and in whatever order things happen to it, it has a pool for so many
routes and no more, and each pool keeps to its limit. What lives of the sessions that have been
opened for pools is in one of them.

* `Course` — what may become of a client, with the sessions that were opened for its pools.
* `Bounded` — the invariant.
* `Bounded.deskStep`, `Bounded.moves` — events keep it.
* `noMoreRoutes_iff` — when a call is told that there can be no pool for its route.
* `bounds_of_course` — what a client keeps to.
-/

namespace Icap.Client

/-- What may become of a client, whatever it is used for, with the sessions that are brought to its
pools meanwhile. -/
inductive Course (c₀ : Client) : List Nat → Client → Prop
  | start : Course c₀ [] c₀
  | step {opened : List Nat} {c c' : Client} {now wall : Instant} {e : Event} {fx : List Effect}
      (course : Course c₀ opened c) (h : c.step? now wall e = some (c', fx)) :
      Course c₀ (c.brought e ++ opened) c'

/-- Whether a session is there and not dead. -/
def isLive (c : Client) (k : Nat) : Bool := (c.session? k).any fun s => !s.isDead

/-- What holds of a client when so many sessions have been brought to its pools. -/
structure Bounded (opened : List Nat) (c : Client) : Prop where
  numbered : c.Numbered
  nodup : opened.Nodup
  /-- A session that has been brought to a pool stays in one while it lives. -/
  kept : ∀ k ∈ opened, ∃ s, c.session? k = some s ∧
    (s.isDead = false → ∃ route d, c.desk? route = some d ∧ k ∈ d.pool.members)
  routes : (c.desks.map Prod.fst).Nodup
  few : c.desks.length ≤ c.settings.maxRoutes
  fits : ∀ e ∈ c.desks, e.2.Fits c.settings.poolLimits

variable {settings : Settings} {c₀ c c' : Client} {now wall : Instant} {route : Route} {d : Desk}
  {k n : Nat} {opened ks : List Nat} {fx : List Effect} {job : Job}

/-! ## The invariant -/

theorem bounded_start (settings : Settings) : Bounded [] { settings } where
  numbered := ⟨List.nodup_nil, fun _ there => by cases there⟩
  nodup := List.nodup_nil
  kept := fun _ there => by cases there
  routes := List.nodup_nil
  few := Nat.zero_le _
  fits := fun _ there => by cases there

theorem Bounded.aside (bounded : Bounded opened c) (h : Aside c c') : Bounded opened c' where
  numbered := h.numbered bounded.numbered
  nodup := bounded.nodup
  kept := fun k hk => by
    obtain ⟨s, found, living⟩ := bounded.kept k hk
    obtain ⟨s', found', dead⟩ := h.session k s found
    refine ⟨s', found', fun lives => ?_⟩
    simp only [h.desk?_eq]
    exact living (Bool.eq_false_iff.mpr fun was => by simp [dead was] at lives)
  routes := h.desks ▸ bounded.routes
  few := h.desks ▸ h.settings ▸ bounded.few
  fits := h.desks ▸ h.settings ▸ bounded.fits

theorem not_mem_of_desk?_eq_none (absent : c.desk? route = none) :
    route ∉ c.desks.map Prod.fst := by
  intro there
  obtain ⟨e, he, rfl⟩ := List.mem_map.mp there
  simpa using List.lookup_eq_none_iff.mp absent e he

/-- A route gets a pool. -/
theorem Bounded.addDesk (bounded : Bounded opened c) (absent : c.desk? route = none)
    (room : c.desks.length < c.settings.maxRoutes) :
    Bounded opened { c with desks := c.desks ++ [(route, {})] } where
  numbered := ⟨bounded.numbered.nodup, bounded.numbered.le⟩
  nodup := bounded.nodup
  kept := fun k hk => by
    obtain ⟨s, found, living⟩ := bounded.kept k hk
    refine ⟨s, found, fun lives => ?_⟩
    obtain ⟨ρ, d, there, member⟩ := living lives
    refine ⟨ρ, d, ?_, member⟩
    rw [desk?] at there
    rw [desk?, List.lookup_append, there, Option.some_or]
  routes := by
    rw [List.map_append, List.map_singleton, ← List.concat_eq_append]
    exact bounded.routes.concat (not_mem_of_desk?_eq_none absent)
  few := by simpa using Nat.succ_le_of_lt room
  fits := fun e he => by
    rcases List.mem_append.mp he with he | he
    · exact bounded.fits e he
    · obtain rfl := List.mem_singleton.mp he
      refine fun limited => ⟨Nat.zero_le _, ?_⟩
      rintro ⟨call, ⟨⟩⟩

/-- **An event at a desk.** What it brings is there and is new to the pools. -/
theorem Bounded.deskStep {e : Desk.Event} (bounded : Bounded opened c)
    (h : c.deskStep? now wall route e = some (c', fx))
    (new : ∀ k ∈ e.opened?, k ∉ opened ∧ (c.session? k).isSome = true) :
    Bounded (e.opened?.toList ++ opened) c' := by
  obtain ⟨d, d', notices, found, step, rfl, -⟩ := exists_of_deskStep? h
  have books := Desk.books_of_step? step
  have heeded := Aside.heedAll now route (c.setDesk route d') notices
  have here : (c.setDesk route d').desk? route = some d' := by
    rw [desk?_setDesk, if_pos rfl, found, Option.map_some]
  -- a session of the desk leaves it only for death
  have stays : ∀ k ∈ e.opened?.toList ++ d.pool.members, ∀ s, c.session? k = some s →
      s.isDead = false → ∀ s', (heedAll now route (c.setDesk route d') notices).1.session? k =
        some s' → s'.isDead = false → k ∈ d'.pool.members := by
    intro k hk s there lives s' there' lives'
    obtain ⟨gone, perm, left⟩ := books.members
    refine (List.mem_append.mp (perm.mem_iff.mp hk)).resolve_right fun hgone => ?_
    rcases left k hgone with ⟨-, dead⟩ | closed
    · simp [view, there, lives] at dead
    · have isSome : ((c.setDesk route d').session? k).isSome = true :=
        Option.isSome_of_eq_some there
      simp [isDead_of_heedAll closed there' isSome] at lives'
  constructor
  case numbered => exact heeded.numbered ⟨bounded.numbered.nodup, bounded.numbered.le⟩
  case nodup =>
    cases brings : e.opened? with
    | none => exact bounded.nodup
    | some k => exact List.nodup_cons.mpr ⟨(new k brings).1, bounded.nodup⟩
  case kept =>
    intro k hk
    have known : ∃ s, c.session? k = some s ∧ (s.isDead = false → k ∈ e.opened?.toList ∨
        ∃ ρ d, c.desk? ρ = some d ∧ k ∈ d.pool.members) := by
      rcases List.mem_append.mp hk with brought | hk
      · obtain ⟨s, there⟩ := Option.isSome_iff_exists.mp (new k (Option.mem_toList.mp brought)).2
        exact ⟨s, there, fun _ => .inl brought⟩
      · obtain ⟨s, there, living⟩ := bounded.kept k hk
        exact ⟨s, there, fun lives => .inr (living lives)⟩
    obtain ⟨s, there, living⟩ := known
    obtain ⟨s', there', dead⟩ := heeded.session k s there
    refine ⟨s', there', fun lives' => ?_⟩
    simp only [heeded.desk?_eq]
    have lives : s.isDead = false :=
      Bool.eq_false_iff.mpr fun was => by simp [dead was] at lives'
    rcases living lives with brought | ⟨ρ, d₁, found₁, member⟩
    · have known := List.mem_append_left d.pool.members brought
      exact ⟨route, d', here, stays k known s there lives s' there' lives'⟩
    by_cases other : ρ = route
    · subst other
      obtain rfl := Option.some.inj (found.symm.trans found₁)
      exact ⟨ρ, d', here, stays k (List.mem_append_right _ member) s there lives s' there' lives'⟩
    · exact ⟨ρ, d₁, by rw [desk?_setDesk, if_neg other, found₁], member⟩
  case routes =>
    rw [heedAll_desks, routes_setDesk]
    exact bounded.routes
  case few =>
    rw [heedAll_desks, heeded.settings]
    simpa [setDesk] using bounded.few
  case fits =>
    rw [heedAll_desks, heeded.settings]
    intro e₁ he₁
    obtain ⟨e₂, he₂, rfl⟩ := List.mem_map.mp he₁
    split
    · exact books.fits Option.length_toList_le (bounded.fits _ (mem_of_desk? found))
    · exact bounded.fits e₂ he₂

/-- **Events keep to the bounds.** -/
theorem Bounded.moves (bounded : Bounded opened c) (h : Moves c ks c') :
    Bounded (ks ++ opened) c' := by
  induction h generalizing opened with
  | aside h => exact bounded.aside h
  | addDesk absent room => exact bounded.addDesk absent room
  | desk h brings =>
    have kept := bounded.deskStep h (by simp [brings])
    rwa [brings] at kept
  | @receive c _ _ _ route a s _ there number h =>
    refine (bounded.aside (.addSession there number)).deskStep h fun k hk => ?_
    obtain rfl : a.session = k := Option.some.inj hk
    refine ⟨fun was => ?_, ?_⟩
    · -- the session is being connected, so it is none of those that are there
      obtain ⟨t, found, -⟩ := bounded.kept _ was
      have among : a.session ∈ c.sessions.map Session.number := by
        by_contra absent
        cases found.symm.trans (session?_eq_none.mpr absent)
      exact (List.nodup_append.mp bounded.numbered.nodup).2.2 _ among _
        (List.mem_map_of_mem there) rfl
    · rw [session?_addSession, if_pos number]
      cases c.session? a.session <;> rfl
  | trans _ _ ih ih' =>
    rw [List.append_assoc]
    exact ih' (ih bounded)

/-! ## Courses -/

theorem bounded_of_course (course : Course { settings } opened c) : Bounded opened c := by
  induction course with
  | start => exact bounded_start settings
  | step _ h ih => exact ih.moves (moves_of_step? h)

theorem settings_of_course (course : Course c₀ opened c) : c.settings = c₀.settings := by
  induction course with
  | start => rfl
  | step _ h ih => exact (moves_of_step? h).settings.trans ih

/-! ## Routes without a pool -/

/-- What happens at a desk tells nobody that there are too many routes. -/
theorem not_noMoreRoutes_of_deskStep? {e : Desk.Event}
    (h : c.deskStep? now wall route e = some (c', fx)) (other : e ≠ .notOpened .noMoreRoutes) :
    .finished n (.error .noMoreRoutes) ∉ fx := by
  intro failed
  obtain ⟨d, told, job, -, -, refusal, same⟩ := exists_refusal_of_deskStep? h failed
  obtain rfl : told = .noMoreRoutes := by
    simp only [leaseFault] at same
    split at same
    · cases same
    · exact same.symm
  cases refusal with
  | notOpened event => exact other event

theorem not_noMoreRoutes_of_lineUp {uses : Bool} {patience : Duration} :
    .finished n (.error .noMoreRoutes) ∉ (c.lineUp now wall job uses patience).2 := by
  simp only [lineUp]
  cases stepped : c.deskStep? now wall job.route
      (.arrive ⟨job.call, uses, Instant.after? now patience⟩) with
  | none => exact List.not_mem_nil
  | some result => exact not_noMoreRoutes_of_deskStep? stepped (by simp)

theorem not_noMoreRoutes_of_startScan {filename : String} {payload : Bytes} :
    (c.startScan k filename payload).2 ≠ .error .noMoreRoutes := by
  simp only [startScan]
  split
  · simp
  next s found =>
    simp only [Session.scan]
    split
    · simp [Except.map]
    · simp [Except.map]
    · simp [Except.map]
    · split
      · simp [Except.map]
      · split <;> simp [Except.map]

theorem noMoreRoutes_of_begin :
    .finished n (.error .noMoreRoutes) ∈ (c.begin now wall job).2 ↔
      job.call = n ∧ job.IsForScan ∧ c.desk? job.route = none ∧
        c.settings.maxRoutes ≤ c.desks.length := by
  simp only [begin]
  split
  case h_1 wish | h_2 wish =>
    refine iff_of_false (by simp [attempt]) ?_
    rintro ⟨-, ⟨_, _, scan⟩, -⟩
    cases wish.symm.trans scan
  case h_3 patience wish =>
    refine iff_of_false ?_ ?_
    · split
      · exact not_noMoreRoutes_of_lineUp
      · simp [finish]
    · rintro ⟨-, ⟨_, _, scan⟩, -⟩
      cases wish.symm.trans scan
  case h_4 filename payload wish =>
    have scan : job.IsForScan := ⟨filename, payload, wish⟩
    split
    next d found =>
      refine iff_of_false not_noMoreRoutes_of_lineUp ?_
      rintro ⟨-, -, absent, -⟩
      cases absent.symm.trans found
    next absent =>
      split
      next full =>
        have told : Effect.finished n (.error .noMoreRoutes) ∈
            [Effect.finished job.call (.error .noMoreRoutes)] ↔ job.call = n := by
          simp [eq_comm]
        exact told.trans ⟨fun mine => ⟨mine, scan, absent, full⟩, And.left⟩
      next room =>
        exact iff_of_false not_noMoreRoutes_of_lineUp fun told => room told.2.2.2

/-- **A call is told that there are too many routes** exactly if it comes in for a scan, there is
no pool for its route, and no room for one more. -/
theorem noMoreRoutes_iff {e : Event} (h : c.step? now wall e = some (c', fx)) :
    .finished n (.error .noMoreRoutes) ∈ fx ↔
      ∃ job, e = .call job ∧ job.call = n ∧ job.IsForScan ∧ c.desk? job.route = none ∧
        c.settings.maxRoutes ≤ c.desks.length := by
  cases e with
  | call job =>
    simp only [step?] at h
    split at h
    · cases h
    · have begun : (c.begin now wall job).2 = fx := congrArg Prod.snd (Option.some.inj h)
      rw [← begun, noMoreRoutes_of_begin]
      refine ⟨fun told => ⟨job, rfl, told⟩, ?_⟩
      rintro ⟨job', event, told⟩
      obtain rfl := Event.call.inj event
      exact told
  | shutOut job =>
    obtain ⟨-, rfl⟩ := eq_of_shutOut? h
    exact iff_of_false (by simp) (by rintro ⟨_, ⟨⟩, -⟩)
  | serve route late =>
    exact iff_of_false (not_noMoreRoutes_of_deskStep? h (by simp)) (by rintro ⟨_, ⟨⟩, -⟩)
  | expire route call =>
    exact iff_of_false (not_noMoreRoutes_of_deskStep? h (by simp)) (by rintro ⟨_, ⟨⟩, -⟩)
  | use route =>
    refine iff_of_false ?_ (by rintro ⟨_, ⟨⟩, -⟩)
    simp only [step?, useStep?] at h
    split at h
    · split at h
      next filename payload _ =>
        obtain ⟨⟨c₁, fx₁⟩, stepped, heq⟩ := Option.map_eq_some_iff.mp h
        cases heq
        intro told
        rcases List.mem_append.mp told with started | told
        · simp only [finish, List.mem_singleton, Effect.finished.injEq] at started
          exact not_noMoreRoutes_of_startScan started.2.symm
        · exact not_noMoreRoutes_of_deskStep? stepped (by simp) told
      · cases h
    · cases h
  | connected session =>
    refine iff_of_false ?_ (by rintro ⟨_, ⟨⟩, -⟩)
    simp only [step?, connectedStep?] at h
    split at h
    · cases h
    split at h
    · exact not_noMoreRoutes_of_deskStep? h (by simp)
    split at h
    all_goals
      obtain ⟨-, rfl⟩ := Prod.mk.inj (Option.some.inj h)
      simp only [List.mem_singleton, Effect.finished.injEq, not_and]
    · exact fun _ same => not_noMoreRoutes_of_startScan same.symm
    · simp
  | notConnected session =>
    refine iff_of_false ?_ (by rintro ⟨_, ⟨⟩, -⟩)
    simp only [step?, notConnectedStep?] at h
    split at h
    · cases h
    split at h
    · exact not_noMoreRoutes_of_deskStep? h (by simp)
    · obtain ⟨-, rfl⟩ := Prod.mk.inj (Option.some.inj h)
      simp
  | session number e =>
    refine iff_of_false ?_ (by rintro ⟨_, ⟨⟩, -⟩)
    simp only [step?, sessionStep?] at h
    split at h
    · cases h
    split at h
    · cases h
    obtain ⟨⟨s, sfx⟩, -, heq⟩ := Option.map_eq_some_iff.mp h
    cases heq
    simp
  | giveUp call =>
    refine iff_of_false ?_ (by rintro ⟨_, ⟨⟩, -⟩)
    simp only [step?, giveUpStep?] at h
    split at h
    · cases h
    next job found =>
      generalize stepped : deskStep? _ now wall job.route (.leave call) = result at h
      cases result with
      | none =>
        cases h
        exact List.not_mem_nil
      | some result =>
        cases h
        exact not_noMoreRoutes_of_deskStep? stepped (by simp)

/-! ## What a client keeps to -/

/-- The living sessions of the pools are not too many. -/
theorem Bounded.live_length_le (bounded : Bounded opened c) (limited : 0 < c.settings.maxSessions) :
    (opened.filter c.isLive).length ≤ c.desks.length * c.settings.maxSessions := by
  have pooled : opened.filter c.isLive ⊆ c.desks.flatMap fun e => e.2.pool.members := by
    intro k hk
    obtain ⟨hk, live⟩ := List.mem_filter.mp hk
    obtain ⟨s, found, living⟩ := bounded.kept k hk
    obtain ⟨route, d, there, member⟩ := living (by simpa [isLive, found] using live)
    exact List.mem_flatMap.mpr ⟨_, mem_of_desk? there, member⟩
  calc (opened.filter c.isLive).length
    _ ≤ (c.desks.flatMap fun e => e.2.pool.members).length :=
      ((bounded.nodup.filter _).subperm pooled).length_le
    _ = (c.desks.map fun e => e.2.pool.members.length).sum := List.length_flatMap
    _ ≤ (c.desks.map fun e => e.2.pool.members.length).length • c.settings.maxSessions := by
      refine List.sum_le_card_nsmul _ _ fun size hsize => ?_
      obtain ⟨e, he, rfl⟩ := List.mem_map.mp hsize
      rw [← Pool.size_eq]
      exact (bounded.fits e he limited).1
    _ = c.desks.length * c.settings.maxSessions := by rw [List.length_map, smul_eq_mul]

/-- **What a client keeps to.** At every point of whatever becomes of a client:

* it has pools for no more routes than it may have, one for each;
* whatever happens later, each route keeps its pool: of the desk becomes what the events of the
  client are to it, and nothing else;
* a call is told that there are too many routes exactly if it comes in for a scan, its route has no
  pool, and there are pools for as many routes as there may be; and a call can always come in;
* if the sessions of a route are limited, those that live of all that have been opened for pools are
  not more than all routes may have. -/
theorem bounds_of_course (course : Course { settings } opened c) :
    c.desks.length ≤ settings.maxRoutes ∧ (c.desks.map Prod.fst).Nodup ∧
      (∀ es c', History c es c' → Follows es c c') ∧
      (∀ now wall e c' fx, c.step? now wall e = some (c', fx) → ∀ call,
        .finished call (.error .noMoreRoutes) ∈ fx ↔
          ∃ job, e = .call job ∧ job.call = call ∧ job.IsForScan ∧
            c.desk? job.route = none ∧ c.desks.length = settings.maxRoutes) ∧
      (∀ now wall job, c.job? job.call = none → (c.step? now wall (.call job)).isSome = true) ∧
      (0 < settings.maxSessions →
        (opened.filter c.isLive).length ≤ settings.maxRoutes * settings.maxSessions) := by
  have bounded := bounded_of_course course
  obtain rfl : c.settings = settings := settings_of_course course
  refine ⟨bounded.few, bounded.routes, fun es c' => follows_of_history, ?_, ?_, ?_⟩
  · intro now wall e c' fx h call
    have full : c.settings.maxRoutes ≤ c.desks.length ↔ c.desks.length = c.settings.maxRoutes :=
      ⟨bounded.few.antisymm, Eq.ge⟩
    rw [noMoreRoutes_iff h]
    simp only [full]
  · intro now wall job new
    simp [step?, new]
  · intro limited
    exact (bounded.live_length_le limited).trans (Nat.mul_le_mul_right _ bounded.few)

/-! ### One route -/

/-- What becomes of a client with events, if all of them can happen. -/
def course? (opened : List Nat) (c : Client) : List Event → Option (List Nat × Client)
  | [] => some (opened, c)
  | e :: more =>
    match c.step? 0 0 e with
    | none => none
    | some (c', _) => course? (c.brought e ++ opened) c' more

theorem course_of_course? {events : List Event} {opened' : List Nat}
    (course : Course c₀ opened c) (h : course? opened c events = some (opened', c')) :
    Course c₀ opened' c' := by
  induction events generalizing opened c with
  | nil =>
    cases h
    exact course
  | cons e more ih =>
    simp only [course?] at h
    split at h
    · cases h
    next c₁ fx step => exact ih (course.step step) h

/-- Settings with which there is a pool for one route only, of two sessions at most. -/
def lone : Settings := { maxRoutes := 1, maxSessions := 2, userAgent := "u" }

/-- A session that a call for a scan has been handed dies, and another one is opened for the next
call. -/
def renewing : List Event :=
  [.call ⟨1, somewhere, .scan "a" [65]⟩, .serve somewhere fun _ => false, .connected 1,
    .use somewhere, .session 1 .command, .session 1 (.writeFailed .reset),
    .call ⟨2, somewhere, .scan "b" [66]⟩, .serve somewhere fun _ => false, .connected 2]

theorem bounds_of_course_renewing :
    ∃ opened c, Course { settings := lone } opened c ∧ 0 < lone.maxSessions ∧
      opened = [2, 1] ∧ opened.filter c.isLive = [2] ∧
      (c.step? 0 0 (.call ⟨3, ⟨"g", 1, "s"⟩, .scan "c" [67]⟩)).map Prod.snd =
        some [.finished 3 (.error .noMoreRoutes)] ∧
      c.desks.length ≤ lone.maxRoutes ∧ (c.desks.map Prod.fst).Nodup ∧
      (∀ es c', History c es c' → Follows es c c') ∧
      (∀ now wall e c' fx, c.step? now wall e = some (c', fx) → ∀ call,
        .finished call (.error .noMoreRoutes) ∈ fx ↔
          ∃ job, e = .call job ∧ job.call = call ∧ job.IsForScan ∧
            c.desk? job.route = none ∧ c.desks.length = lone.maxRoutes) ∧
      (∀ now wall job, c.job? job.call = none → (c.step? now wall (.call job)).isSome = true) ∧
      (opened.filter c.isLive).length ≤ lone.maxRoutes * lone.maxSessions := by
  have h : (course? [] { settings := lone } renewing).elim false (fun ended =>
      ended.1 = [2, 1] ∧ ended.1.filter ended.2.isLive = [2] ∧
        (ended.2.step? 0 0 (.call ⟨3, ⟨"g", 1, "s"⟩, .scan "c" [67]⟩)).map Prod.snd =
          some [.finished 3 (.error .noMoreRoutes)]) = true := by
    decide +kernel
  have limited : 0 < lone.maxSessions := by decide
  cases ended : course? [] { settings := lone } renewing with
  | none => simp [ended] at h
  | some ended' =>
    rw [ended, Option.elim_some] at h
    obtain ⟨opened, live, told⟩ := of_decide_eq_true h
    have course := course_of_course? .start ended
    obtain ⟨few, routes, follows, full, open?, bound⟩ := bounds_of_course course
    exact ⟨_, _, course, limited, opened, live, told, few, routes, follows, full, open?,
      bound limited⟩

end Icap.Client
