import Icap.Proofs.Pool.Readings
import Icap.Proofs.Pool.Service

/-!
# What a pool loses

A call may come to nothing at any point: it loses its patience in line, its time is over in the
middle of its search, there is no room for it, no session can be opened, it makes no use of the
session that it is handed, or it is given up. By then sessions have been moved, dropped and closed
for it. All the same no session is lost for a call but those that a search has found dead among the
leased ones, and those that it could not use among the available ones.

* `Loss` — why a session is not one of the pool any more.
* `Step.dead_or_closed`, `Step.unfit` — sessions are lost by searches only, and why.
* `kept_or_lost_of_course` — what becomes of the sessions of a pool in any stretch of events.
-/

namespace Icap

namespace Pool

variable {p : Pool} {look : Looks} {limits : PoolLimits} {late : Nat → Bool} {id n : Nat}
  {l : Lease} {f : Finding}

/-- A leased session that has not been found released does not become available. -/
theorem not_mem_tidied_of_finding (nodup : p.members.Nodup)
    (found : (l, f) ∈ findings look 0 p.leased) (other : f ≠ .released) :
    l.session ∉ (p.tidied look).available := by
  obtain ⟨-, leased, apart⟩ := List.nodup_append.mp nodup
  have perm := findings_perm look 0 p.leased
  have there : l ∈ p.leased := perm.mem_iff.mp (List.mem_map_of_mem found)
  have once : ((findings look 0 p.leased).map fun seen => seen.1.session).Nodup := by
    have := (perm.map Lease.session).nodup_iff.mpr leased
    rwa [List.map_map] at this
  intro available
  rcases List.mem_append.mp available with available | released
  · exact apart _ available _ (List.mem_map_of_mem there) rfl
  · obtain ⟨l', released, same⟩ := List.mem_map.mp released
    -- a search finds out one thing about a session
    have := List.inj_on_of_nodup_map once (mem_found.mp released) found same
    exact other (Prod.mk.inj this).2.symm

end Pool

namespace Desk

open Pool (FitsAt findings dead_or_closed_of_seek unfit_of_closed not_mem_tidied_of_finding)

variable {look : Looks} {limits : PoolLimits} {d d' d₁ : Desk} {e : Event} {notices : List Notice}
  {id : Nat} {es es' : List Entry} {x y : Entry}

/-! ## One event -/

/-- Why a session is not one of the pool any more: in a search it has been found dead among the
leased sessions, or it could not be used when the search came to it among the available ones, and
is closed. -/
inductive Loss (limits : PoolLimits) (x : Entry) (id : Nat) : Prop
  | dead {late l} (event : x.event = .serve late)
      (found : (l, .dead) ∈ findings x.look 0 x.desk.pool.leased) (session : l.session = id)
      (unclosed : .close id ∉ x.notices)
  | unfit {late i} (event : x.event = .serve late)
      (available : (x.desk.pool.tidied x.look).available[i]? = some id)
      (unfit : ¬FitsAt x.look limits (x.desk.pool.tidyLooks x.look)
        (x.desk.pool.tidied x.look).available i)
      (closed : .close id ∈ x.notices)

/-- A search is made when a call is served. -/
def Event.IsSearch (e : Event) : Prop := ∃ late, e = .serve late

/-- **What is closed could not be used** when a search came to it among the available sessions. -/
theorem Step.unfit (step : Step look limits d e d' notices) (closed : .close id ∈ notices) :
    e.IsSearch ∧ ∃ i, (d.pool.tidied look).available[i]? = some id ∧
      ¬FitsAt look limits (d.pool.tidyLooks look) (d.pool.tidied look).available i := by
  cases step
  case refuse | reuse | ask => exact ⟨⟨_, rfl⟩, unfit_of_closed (by simpa using closed)⟩
  all_goals simp at closed

/-- A search is made while no call is served. -/
theorem Step.free_of_search (step : Step look limits d e d' notices) (search : e.IsSearch) :
    d.served = none := by
  cases step
  case refuse free _ _ | reuse free _ _ | ask free _ _ => exact free
  all_goals (obtain ⟨late, event⟩ := search; cases event)

/-- **An event without a search loses nothing.** -/
theorem Step.perm (step : Step look limits d e d' notices) (quiet : ¬e.IsSearch) :
    (e.opened?.toList ++ d.pool.members).Perm d'.pool.members ∧ ∀ id, .close id ∉ notices := by
  refine ⟨?_, fun id closed => quiet (step.unfit closed).1⟩
  cases step
  case refuse | reuse | ask => exact absurd ⟨_, rfl⟩ quiet
  case arrive | expire | leave | fail | abandon => exact .refl _
  case receive session call served =>
    exact (Pool.members_lend d.pool session _ ▸ List.perm_append_comm)
  case done =>
    dsimp only [Event.opened?, Option.toList_none, List.nil_append]
    split
    · exact (Pool.giveBack_members ..).symm
    · exact .refl _

/-- What an event loses has been found dead among the leased sessions, or is closed. -/
theorem Step.dead_or_closed (step : Step look limits d e d' notices) (there : id ∈ d.pool.members)
    (gone : id ∉ d'.pool.members) :
    (e.IsSearch ∧ ∃ l, (l, .dead) ∈ findings look 0 d.pool.leased ∧ l.session = id) ∨
      .close id ∈ notices := by
  by_cases search : e.IsSearch
  · cases step
    case refuse | reuse | ask =>
      refine (dead_or_closed_of_seek there gone).imp (fun dead => ⟨search, dead⟩) fun closed => ?_
      exact List.mem_append_left _ (List.mem_map_of_mem closed)
    all_goals (obtain ⟨late, event⟩ := search; cases event)
  · exact absurd ((step.perm search).1.mem_iff.mp (List.mem_append_right _ there)) gone

/-- **Why an event loses a session.** -/
theorem Step.loss (step : Step x.look limits x.desk x.event x.next x.notices)
    (there : id ∈ x.desk.pool.members) (gone : id ∉ x.next.pool.members) : Loss limits x id := by
  by_cases closed : .close id ∈ x.notices
  · obtain ⟨⟨late, event⟩, i, available, unfit⟩ := step.unfit closed
    exact .unfit event available unfit closed
  · obtain ⟨⟨late, event⟩, l, found, same⟩ := (step.dead_or_closed there gone).resolve_right closed
    exact .dead event found same closed

/-! ## Any number of events -/

/-- A session that a stretch of events loses is lost by one of them. -/
theorem exists_lost_of_course (course : Course limits d es d') (there : id ∈ d.pool.members)
    (gone : id ∉ d'.pool.members) :
    ∃ before y after, es = before ++ y :: after ∧ id ∈ y.desk.pool.members ∧
      id ∉ y.next.pool.members := by
  induction course with
  | stop => exact absurd there gone
  | @step d look e notices d₁ es d' h more ih =>
    by_cases still : id ∈ d₁.pool.members
    · obtain ⟨before, y, after, rfl, lost⟩ := ih still gone
      exact ⟨_ :: before, y, after, rfl, lost⟩
    · exact ⟨[], _, es, rfl, there, still⟩

/-- A session that is not there and is not opened does not come back. -/
theorem not_mem_of_course (course : Course limits d es d') (gone : id ∉ d.pool.members)
    (fresh : id ∉ openedIn es) : id ∉ d'.pool.members := by
  induction course with
  | stop => exact gone
  | step h more ih =>
    rw [openedIn_cons, List.mem_append, not_or] at fresh
    refine ih (fun there => ?_) fresh.2
    obtain ⟨lost, perm, -⟩ := (books_of_step? h).members
    have there := perm.mem_iff.mpr (List.mem_append_left lost there)
    exact (List.mem_append.mp there).elim fresh.1 gone

/-- **A session that has been lost stays lost**, if sessions are opened once. -/
theorem not_mem_of_lost {before after : List Entry} (first : Course limits {} before y.desk)
    (later : Course limits y.next after d') (fresh : (openedIn (before ++ y :: after)).Nodup)
    (there : id ∈ y.desk.pool.members) (gone : id ∉ y.next.pool.members) :
    id ∉ d'.pool.members := by
  rw [openedIn_append, openedIn_cons] at fresh
  obtain ⟨fresh', -, apart⟩ := List.nodup_append.mp fresh
  obtain ⟨opened, accounts, perm⟩ := first.accounts fresh'
  have old : id ∈ openedIn before := perm.mem_iff.mp (accounts.opened_of_member id there)
  exact not_mem_of_course later gone fun again =>
    apart id old id (List.mem_append_right _ again) rfl

/-- **What becomes of the sessions of a pool**, whether calls fail or not. At any time, and in any
stretch of events from then on, if sessions are opened once:

* a session that is one of the pool at the beginning is so at the end, exactly once, and has not
  been closed; or it has been lost by a search, and is none any more;
* what is closed could not be used when a search came to it, and is none any more;
* no leased session is closed, unless the search has found it released;
* events without a search, by which a call loses its patience, fails to have a session opened, has
  used its session or is given up, lose nothing and close nothing;
* there is no search while a call is served. -/
theorem kept_or_lost_of_course (first : Course limits {} es d) (course : Course limits d es' d')
    (fresh : (openedIn (es ++ es')).Nodup) :
    (∀ id ∈ d.pool.members,
      d'.pool.members.count id = 1 ∧ (∀ y ∈ es', .close id ∉ y.notices) ∨
        id ∉ d'.pool.members ∧ ∃ y ∈ es', Loss limits y id) ∧
      ∀ y ∈ es',
        (∀ id, .close id ∈ y.notices → Loss limits y id ∧ id ∉ d'.pool.members) ∧
          (∀ l f, (l, f) ∈ findings y.look 0 y.desk.pool.leased → f ≠ .released →
            .close l.session ∉ y.notices) ∧
          (¬y.event.IsSearch →
            (y.event.opened?.toList ++ y.desk.pool.members).Perm y.next.pool.members ∧
              ∀ id, .close id ∉ y.notices) ∧
          (y.desk.served ≠ none → ¬y.event.IsSearch) := by
  -- an event of the stretch, with what has happened before it and after it
  have around : ∀ before y after, es' = before ++ y :: after →
      Step y.look limits y.desk y.event y.next y.notices ∧ y.desk.pool.members.Nodup ∧
        ∀ id ∈ y.desk.pool.members, id ∉ y.next.pool.members → id ∉ d'.pool.members := by
    rintro before y after rfl
    obtain ⟨begun, step, later⟩ := course.split
    have here := first.append begun
    rw [← List.append_assoc] at fresh
    have fresh' := fresh
    rw [openedIn_append] at fresh'
    obtain ⟨opened, accounts, -⟩ := here.accounts (List.nodup_append.mp fresh').1
    exact ⟨step_of_step? step, accounts.members_nodup,
      fun id there gone => not_mem_of_lost here later fresh there gone⟩
  have closed_lost : ∀ y ∈ es', ∀ id, .close id ∈ y.notices →
      Loss limits y id ∧ id ∉ d'.pool.members := by
    intro y hy id closed
    obtain ⟨before, after, split⟩ := List.append_of_mem hy
    obtain ⟨step, nodup, stays⟩ := around before y after split
    obtain ⟨there, gone⟩ := step.closed nodup closed
    exact ⟨step.loss there gone, stays id there gone⟩
  constructor
  · intro id there
    by_cases still : id ∈ d'.pool.members
    · obtain ⟨opened, accounts, -⟩ := (first.append course).accounts fresh
      refine .inl ⟨List.count_eq_one_of_mem accounts.members_nodup still, fun y hy closed => ?_⟩
      exact (closed_lost y hy id closed).2 still
    · obtain ⟨before, y, after, split, there, gone⟩ := exists_lost_of_course course there still
      have hy : y ∈ es' := split ▸ List.mem_append_right _ List.mem_cons_self
      exact .inr ⟨still, y, hy, (around before y after split).1.loss there gone⟩
  · intro y hy
    obtain ⟨before, after, split⟩ := List.append_of_mem hy
    obtain ⟨step, nodup, -⟩ := around before y after split
    refine ⟨closed_lost y hy, fun l f found other closed => ?_, step.perm, fun served search => ?_⟩
    · obtain ⟨-, i, available, -⟩ := step.unfit closed
      exact not_mem_tidied_of_finding nodup found other (List.mem_of_getElem? available)
    · exact served (step.free_of_search search)

/-- Three sessions are opened. -/
def threeCalls : List (Looks × Event) :=
  [7, 8, 9].flatMap fun id =>
    [(busy, .arrive (patient id)), (busy, .serve fun _ => false), (busy, .opened id)]

/-- Session 7 is dead, 8 is busy, and 9 is idle again after its tenth command. -/
def wornOut : Looks := fun _ id => ⟨id == 7, id == 9, if id = 9 then 10 else 0, 0⟩

/-- Four calls come to nothing. The first one is late when it has closed a session, no session can
be opened for the second one, the third one loses its patience meanwhile, and the fourth one is
given up. -/
def fourFailures : List (Looks × Event) :=
  [1, 2, 3, 4].map (fun number => (wornOut, .arrive (patient number))) ++
    [(wornOut, .serve (· == 1)), (wornOut, .serve fun _ => false), (wornOut, .expire 3),
      (wornOut, .notOpened .notConnected), (wornOut, .leave 4)]

theorem kept_or_lost_of_course_failures :
    ∃ es d es' d', Course ⟨5, 10, 10⟩ {} es d ∧ Course ⟨5, 10, 10⟩ d es' d' ∧
      d.pool.members = [7, 8, 9] ∧ d'.pool.members = [8] ∧
      es'.flatMap Entry.notices = [.close 9, .refused 1 .timeout, .open 2, .refused 3 .timeout,
        .refused 2 .notConnected] ∧
      (openedIn (es ++ es')).Nodup ∧
      (∀ id ∈ d.pool.members,
        d'.pool.members.count id = 1 ∧ (∀ y ∈ es', .close id ∉ y.notices) ∨
          id ∉ d'.pool.members ∧ ∃ y ∈ es', Loss ⟨5, 10, 10⟩ y id) ∧
      ∀ y ∈ es',
        (∀ id, .close id ∈ y.notices → Loss ⟨5, 10, 10⟩ y id ∧ id ∉ d'.pool.members) ∧
          (∀ l f, (l, f) ∈ findings y.look 0 y.desk.pool.leased → f ≠ .released →
            .close l.session ∉ y.notices) ∧
          (¬y.event.IsSearch →
            (y.event.opened?.toList ++ y.desk.pool.members).Perm y.next.pool.members ∧
              ∀ id, .close id ∉ y.notices) ∧
          (y.desk.served ≠ none → ¬y.event.IsSearch) := by
  have h : (play? ⟨5, 10, 10⟩ {} threeCalls).elim false (fun played =>
      played.2 = { pool := ⟨[], [⟨7, 0⟩, ⟨8, 0⟩, ⟨9, 0⟩]⟩ } ∧ openedIn played.1 = [7, 8, 9]) =
        true := by
    decide +kernel
  obtain ⟨es, d, first, -, h⟩ := exists_course_of_played h
  obtain ⟨rfl, opened⟩ := by simpa using h
  have h' : (play? ⟨5, 10, 10⟩ { pool := ⟨[], [⟨7, 0⟩, ⟨8, 0⟩, ⟨9, 0⟩]⟩ } fourFailures).elim false
      (fun played => played.2.pool.members = [8] ∧
        played.1.flatMap Entry.notices = [.close 9, .refused 1 .timeout, .open 2,
          .refused 3 .timeout, .refused 2 .notConnected] ∧
        openedIn played.1 = []) = true := by
    decide +kernel
  obtain ⟨es', d', course, -, h'⟩ := exists_course_of_played h'
  obtain ⟨members, notices, opened'⟩ := by simpa using h'
  have fresh : (openedIn (es ++ es')).Nodup := by
    rw [openedIn_append, opened, opened']
    decide
  exact ⟨es, _, es', d', first, course, rfl, members, notices, fresh,
    kept_or_lost_of_course first course fresh⟩

end Desk

end Icap
