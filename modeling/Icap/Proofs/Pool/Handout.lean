import Icap.Proofs.Pool.Run
import Icap.Proofs.Pool.Search
import Icap.Proofs.Pool.Step

/-!
# A session is handed out to one call at a time

A pool cannot ask a call whether it is through with its session. It looks at the session instead: at
whether it is idle, and at how many commands it has run. So it hands a session out once more only
after a command has been started on it, and after it has been found idle. A call that has started no
command gives back the session it was handed, and no other one.

* `Pool.Freed` — a session is found idle, with more commands than it had.
* `Pool.Passes` — a session passes a test for release, which looks at it twice.
* `Pool.Undivided` — nothing is started on a session between the two looks of a test at it.
* `Pool.Holds` — what a pool keeps to from a hand-out on, until then.
* `Course` — the events at a desk, one after the other.
* `exists_passes_of_course` — between two hand-outs, the session passes the test for release.
* `exclusive_of_course` — no session is handed out twice, and what is given back.
* `exists_handed_busy` — what may happen if something is started in the middle of a test.
-/

namespace Icap

namespace Pool

variable {p : Pool} {look : Looks} {limits : PoolLimits} {late : Nat → Bool} {id v : Nat}

/-! ## What is given back -/

theorem giveBack_busy (p : Pool) (id : Nat) : p.giveBack id false = p := by
  have none : (p.leased.findIdx? fun l => l.session == id && false) = none := by
    simp [List.findIdx?_eq_none_iff]
  rw [giveBack, none]

/-- **An idle session that is given back is the next one available**, and no other one is given
back. -/
theorem giveBack_idle (nodup : p.members.Nodup) (leased : id ∈ p.leased.map Lease.session) :
    (p.giveBack id true).available = id :: p.available ∧
      ∀ l, l ∈ (p.giveBack id true).leased ↔ l ∈ p.leased ∧ l.session ≠ id := by
  simp only [giveBack]
  split
  next i found =>
    obtain ⟨hi, same, -⟩ := List.findIdx?_eq_some_iff_getElem.mp found
    have same : p.leased[i].session = id := by simpa using same
    have perm := swapRemove_perm hi
    -- its record is the only one of the session
    have once : ((p.leased[i] :: swapRemove p.leased i).map Lease.session).Nodup :=
      (perm.map _).nodup_iff.mpr (List.nodup_append.mp nodup).2.1
    rw [List.map_cons, same, List.nodup_cons] at once
    refine ⟨rfl, fun l => ?_⟩
    rw [← perm.mem_iff, List.mem_cons]
    constructor
    · intro hl
      exact ⟨.inr hl, fun heq => once.1 (heq ▸ List.mem_map_of_mem hl)⟩
    · rintro ⟨rfl | hl, other⟩
      · exact absurd same other
      · exact hl
  next none =>
    obtain ⟨l, hl, rfl⟩ := List.mem_map.mp leased
    have := List.findIdx?_eq_none_iff.mp none l hl
    simp at this

/-- Giving a session back leaves the other ones where they are. -/
theorem giveBack_subset (p : Pool) (session : Nat) (idle : Bool) :
    (p.giveBack session idle).available ⊆ session :: p.available ∧
      (p.giveBack session idle).leased ⊆ p.leased := by
  simp only [giveBack]
  split
  next i found =>
    obtain ⟨hi, -⟩ := List.findIdx?_eq_some_iff_getElem.mp found
    refine ⟨List.Subset.refl _, fun l hl => ?_⟩
    exact (swapRemove_perm hi).mem_iff.mp (List.mem_cons_of_mem _ hl)
  next => exact ⟨List.subset_cons_self _ _, List.Subset.refl _⟩

/-! ## Sessions that are held -/

/-- A session is found idle when it has more commands than so many. -/
def Freed (look : Looks) (id v : Nat) : Prop :=
  ∃ m, (look m id).idle = true ∧ v < (look m id).commands

/-- A session passes one of the tests for release: the first look finds it idle, and the second one
finds that it has more commands than so many. -/
def Passes (look : Looks) (tested : List (Nat × Nat)) (id v : Nat) : Prop :=
  ∃ m, (id, m) ∈ tested ∧ (look m id).idle = true ∧ v < (look (m + 1) id).commands

/-- Nothing is started on a session in the middle of a test, between the look that finds it idle and
the one at its commands. A test does not wait in between: this fails only if somebody uses the
session on another processor at this very moment. -/
def Undivided (look : Looks) (tested : List (Nat × Nat)) : Prop :=
  ∀ id m, (id, m) ∈ tested → (look m id).idle = true →
    (look (m + 1) id).commands = (look m id).commands

theorem Passes.freed {tested : List (Nat × Nat)} (passes : Passes look tested id v)
    (undivided : Undivided look tested) : Freed look id v := by
  obtain ⟨m, there, idle, commands⟩ := passes
  rw [undivided id m there idle] at commands
  exact ⟨m, idle, commands⟩

/-- A session is not available, and if it is leased, it is so with so many commands on record. -/
structure Holds (p : Pool) (id v : Nat) : Prop where
  unavailable : id ∉ p.available
  record : ∀ l ∈ p.leased, l.session = id → l.commands = v

/-- A session that is leased is held. -/
theorem holds_of_mem (nodup : p.members.Nodup) (leased : ⟨id, v⟩ ∈ p.leased) : p.Holds id v := by
  obtain ⟨-, once, apart⟩ := List.nodup_append.mp nodup
  constructor
  · exact fun available => apart id available id (List.mem_map_of_mem leased) rfl
  · intro l hl same
    rw [List.inj_on_of_nodup_map once hl leased same]

/-- **A search does not find a session that is held**, unless it passes the test for release. -/
theorem Holds.seek (holds : p.Holds id v) (le : ∀ m, v ≤ (look m id).commands)
    (late : Nat → Bool) (busy : ¬Passes look (p.tested look late) id v) (limits : PoolLimits) :
    (p.seek look limits late).pool.Holds id v ∧
      (p.seek look limits late).found ≠ .ok (some id) := by
  have missed : ¬(id ∈ (p.seek look limits late).pool.available ∨
      (p.seek look limits late).found = .ok (some id)) := by
    intro h
    rcases mem_available_of_seek h with available | ⟨l, hl, same, m, tested, idle, commands⟩
    · exact holds.unavailable available
    · rw [holds.record l hl same] at commands
      exact busy ⟨m, tested, idle, Nat.lt_of_le_of_ne (le _) (Ne.symm commands)⟩
  obtain ⟨unavailable, unfound⟩ := not_or.mp missed
  refine ⟨⟨unavailable, fun l hl same => ?_⟩, unfound⟩
  rcases mem_leased_of_seek hl with hl | found
  · exact holds.record l hl same
  · exact absurd (same ▸ found) unfound

theorem Holds.lend {session : Nat} (holds : p.Holds id v) (other : session ≠ id) (n : Nat) :
    (p.lend session n).Holds id v where
  unavailable := holds.unavailable
  record := by
    intro l hl same
    rcases List.mem_append.mp hl with hl | hl
    · exact holds.record l hl same
    · obtain rfl := List.mem_singleton.mp hl
      exact absurd same other

theorem Holds.giveBack {session : Nat} (holds : p.Holds id v) (other : session ≠ id)
    (idle : Bool) : (p.giveBack session idle).Holds id v where
  unavailable := by
    intro available
    rcases List.mem_cons.mp ((giveBack_subset p session idle).1 available) with same | available
    · exact other same.symm
    · exact holds.unavailable available
  record := fun l hl => holds.record l ((giveBack_subset p session idle).2 hl)

end Pool

namespace Desk

open Pool (Freed Passes Undivided)

variable {look : Looks} {limits : PoolLimits} {d d₁ d' : Desk} {e : Event}
  {notices : List Notice} {id v : Nat}

/-! ## Courses -/

/-- An event at a desk: the desk before it, what the pool sees of its sessions, what is said, and
the desk after it. -/
structure Entry where
  desk : Desk
  look : Looks
  event : Event
  notices : List Notice
  next : Desk

/-- The tests for release that a desk makes with an event. -/
def tested (d : Desk) (look : Looks) : Event → List (Nat × Nat)
  | .serve late => d.pool.tested look late
  | _ => []

/-- The events at a desk, one after the other. -/
inductive Course (limits : PoolLimits) : Desk → List Entry → Desk → Prop
  | stop (d : Desk) : Course limits d [] d
  | step {d look e notices d' es d''} (h : d.step? look limits e = some (d', notices))
      (more : Course limits d' es d'') : Course limits d (⟨d, look, e, notices, d'⟩ :: es) d''

variable {es es' : List Entry} {x y : Entry}

/-- The sessions that have been opened. -/
def openedIn (es : List Entry) : List Nat := es.filterMap fun x => x.event.opened?

@[simp] theorem openedIn_append (es es' : List Entry) :
    openedIn (es ++ es') = openedIn es ++ openedIn es' := List.filterMap_append

theorem openedIn_cons (x : Entry) (es : List Entry) :
    openedIn (x :: es) = x.event.opened?.toList ++ openedIn es := by
  simp only [openedIn, List.filterMap_cons]
  cases x.event.opened? <;> rfl

/-- From one event to a later one, no session has fewer commands. -/
def CountsGrow (es : List Entry) : Prop :=
  es.Pairwise fun x y => ∀ id m n, (x.look m id).commands ≤ (y.look n id).commands

theorem Course.append (course : Course limits d es d₁) (later : Course limits d₁ es' d') :
    Course limits d (es ++ es') d' := by
  induction course with
  | stop => exact later
  | step h _ ih => exact .step h (ih later)

/-- The event in the middle of a course is a step between the desks that it tells of. -/
theorem Course.split (course : Course limits d (es ++ x :: es') d') :
    Course limits d es x.desk ∧ x.desk.step? x.look limits x.event = some (x.next, x.notices) ∧
      Course limits x.next es' d' := by
  induction es generalizing d with
  | nil =>
    cases course with
    | step h more => exact ⟨.stop _, h, more⟩
  | cons z es ih =>
    cases course with
    | step h more =>
      obtain ⟨first, step, later⟩ := ih more
      exact ⟨.step h first, step, later⟩

/-- A pool whose sessions are opened once keeps its accounts. -/
theorem Course.run {opened : List Nat} (run : Run limits opened (fun _ => true) d)
    (course : Course limits d es d') (fresh : (openedIn es ++ opened).Nodup) :
    ∃ opened', Run limits opened' (fun _ => true) d' ∧ opened'.Perm (openedIn es ++ opened) := by
  induction course generalizing opened with
  | stop => exact ⟨opened, run, .refl _⟩
  | @step d look e notices d' es d'' h more ih =>
    rw [openedIn_cons] at fresh ⊢
    have perm : (e.opened?.toList ++ openedIn es ++ opened).Perm
        (openedIn es ++ (e.opened?.toList ++ opened)) := by
      rw [← List.append_assoc]
      exact .append_right _ List.perm_append_comm
    have fresh' := perm.nodup_iff.mp fresh
    have new : ∀ id, e.opened? = some id → id ∉ opened := by
      intro id hid
      have nodup := (List.nodup_append.mp fresh').2.1
      rw [hid] at nodup
      exact (List.nodup_cons.mp nodup).1
    obtain ⟨opened', run', perm'⟩ := ih (run.step h new (by simp) (by simp) (by simp)) fresh'
    exact ⟨opened', run', perm'.trans perm.symm⟩

/-- The accounts of a pool whose sessions are opened once are in order. -/
theorem Course.accounts (course : Course limits {} es d) (fresh : (openedIn es).Nodup) :
    ∃ opened, Accounts limits opened (fun _ => true) d ∧ opened.Perm (openedIn es) := by
  obtain ⟨opened, run, perm⟩ := Course.run (.start _) course (by simpa using fresh)
  exact ⟨opened, accounts_of_run run, by simpa using perm⟩

/-! ## Hand-outs -/

/-- A session is handed out. -/
def Entry.Hands (x : Entry) (id : Nat) : Prop := ∃ call, .handed call id ∈ x.notices

/-- Whether a call has used its session. -/
def Event.isUsed : Event → Bool
  | .used => true
  | _ => false

/-- If a call is about to use a session, it starts a command on it: when it has used the session,
the number of commands is another one. -/
def Starts (id : Nat) (d : Desk) (es : List Entry) : Prop :=
  ∀ call w, d.served = some (call, .using id w) →
    ∀ u, es.find? (fun u => u.event.isUsed) = some u → (u.look 0 id).commands ≠ w

/-- A session that has been handed out is recorded, with the number of commands that was seen. -/
theorem Step.exists_lease {call : Nat} (step : Step look limits d e d' notices)
    (handed : .handed call id ∈ notices) : ∃ m, ⟨id, (look m id).commands⟩ ∈ d'.pool.leased := by
  cases step
  case reuse found =>
    obtain ⟨-, rfl⟩ := by simpa using handed
    exact ⟨_, Pool.leased_of_seek found⟩
  case receive =>
    obtain ⟨-, rfl⟩ := by simpa using handed
    exact ⟨0, List.mem_append_right _ List.mem_cons_self⟩
  all_goals simp at handed

/-! ## Between two hand-outs -/

/-- **A session that is held is not handed out**, and is held on, unless it passes the
test for release. -/
theorem Step.holds (step : Step look limits d e d' notices) (holds : d.pool.Holds id v)
    (le : ∀ m, v ≤ (look m id).commands) (busy : ¬Passes look (d.tested look e) id v)
    (fresh : e.opened? ≠ some id)
    (starts : e = .used → ∀ call w, d.served = some (call, .using id w) →
      (look 0 id).commands ≠ w) :
    d'.pool.Holds id v ∧ (∀ call, .handed call id ∉ notices) ∧
      ∀ call w, d'.served = some (call, .using id w) →
        d.served = some (call, .using id w) ∧ e ≠ .used := by
  cases step
  case arrive | expire | leave => exact ⟨holds, by simp, fun call w h => ⟨h, by simp⟩⟩
  case fail | abandon => exact ⟨holds, by simp, fun call w h => by cases h⟩
  case refuse free _ _ =>
    exact ⟨(holds.seek le _ busy limits).1, by simp, fun call w h => by cases free.symm.trans h⟩
  case ask => exact ⟨(holds.seek le _ busy limits).1, by simp, fun call w h => by cases h⟩
  case reuse late call line id' free head found =>
    obtain ⟨holds', unfound⟩ := holds.seek le late busy limits
    have other : id' ≠ id := fun same => unfound (same ▸ found)
    refine ⟨holds', by simp [other.symm], fun call w h => ?_⟩
    simp only [hand] at h
    split at h <;> simp_all
  case receive session call served =>
    have other : session ≠ id := fun same => fresh (same ▸ rfl)
    refine ⟨holds.lend other _, by simp [other.symm], fun call w h => ?_⟩
    simp only [hand] at h
    split at h <;> simp_all
  case done call session commands served =>
    refine ⟨?_, by simp, fun call w h => by cases h⟩
    dsimp only
    split
    next unused =>
      refine holds.giveBack ?_ _
      rintro rfl
      exact starts rfl call commands served unused
    next => exact holds

/-- **From a hand-out to the next one, the session passes the test for release.** -/
theorem exists_passes_of_course {mid after : List Entry}
    (course : Course limits d (mid ++ y :: after) d') (holds : d.pool.Holds id v)
    (le : ∀ z ∈ mid ++ [y], ∀ m, v ≤ (z.look m id).commands)
    (fresh : id ∉ openedIn (mid ++ y :: after)) (starts : Starts id d mid) (hands : y.Hands id) :
    ∃ z ∈ mid ++ [y], Passes z.look (z.desk.tested z.look z.event) id v := by
  induction mid generalizing d with
  | nil =>
    obtain ⟨call, handed⟩ := hands
    cases course with
    | @step _ look e notices _ _ _ h _ =>
      have step := step_of_step? h
      refine ⟨_, List.mem_singleton_self _, ?_⟩
      by_contra busy
      refine (step.holds holds (le _ (List.mem_singleton_self _)) busy ?_ ?_).2.1 call handed
      · rw [List.nil_append, openedIn_cons] at fresh
        exact fun opened => fresh (List.mem_append_left _ (Option.mem_toList.mpr opened))
      · rintro rfl
        cases step
        cases handed
  | cons z mid ih =>
    cases course with
    | @step _ look e notices d₁ _ _ h more =>
      have le_first := le _ List.mem_cons_self
      rw [List.cons_append, openedIn_cons, List.mem_append, not_or] at fresh
      by_cases passes : Passes look (d.tested look e) id v
      · exact ⟨_, List.mem_cons_self, passes⟩
      obtain ⟨holds', -, used⟩ := (step_of_step? h).holds holds le_first passes
        (fun opened => fresh.1 (Option.mem_toList.mpr opened))
        (fun used call w served =>
          starts call w served ⟨d, look, e, notices, d₁⟩ (by simp [used, Event.isUsed]))
      -- a call that is about to use the session has been so before
      have starts' : Starts id d₁ mid := by
        intro call w served u found
        obtain ⟨served', unused⟩ := used call w served
        refine starts call w served' u ?_
        rw [List.find?_cons_of_neg, found]
        cases e <;> simp_all [Event.isUsed]
      obtain ⟨z', hz', passes'⟩ := ih more holds' (fun z' hz' => le z' (List.mem_cons_of_mem _ hz'))
        fresh.2 starts'
      exact ⟨z', List.mem_cons_of_mem _ hz', passes'⟩

/-! ## Calls that use their session -/

/-- The session that a call uses is leased. -/
theorem Step.leased_of_using (step : Step look limits d e d' notices)
    (h : ∀ call id w, d.served = some (call, .using id w) → id ∈ d.pool.leased.map Lease.session)
    (call : Call) (id w : Nat) (served : d'.served = some (call, .using id w)) :
    id ∈ d'.pool.leased.map Lease.session := by
  cases step
  case arrive | expire | leave => exact h call id w served
  case refuse free _ _ => cases free.symm.trans served
  case reuse id' _ _ found =>
    simp only [hand] at served ⊢
    split at served <;> cases served
    exact List.mem_map_of_mem (Pool.leased_of_seek found)
  case receive =>
    simp only [hand] at served ⊢
    split at served <;> cases served
    simp [Pool.lend]
  case ask | fail | abandon | done => cases served

theorem Course.leased_of_using (course : Course limits d es d')
    (h : ∀ call id w, d.served = some (call, .using id w) → id ∈ d.pool.leased.map Lease.session)
    (call : Call) (id w : Nat) (served : d'.served = some (call, .using id w)) :
    id ∈ d'.pool.leased.map Lease.session := by
  induction course with
  | stop => exact h call id w served
  | step step more ih => exact ih ((step_of_step? step).leased_of_using h) served

/-! ## All hand-outs -/

/-- What a desk does when a call has used its session without starting a command: if the session is
idle, it comes first among the available ones and is leased no more. All others stay as they are. -/
structure GivesBack (look : Looks) (id : Nat) (p p' : Pool) : Prop where
  idle : (look 1 id).idle = true → p'.available = id :: p.available ∧
    id ∈ p.leased.map Lease.session ∧ ∀ l, l ∈ p'.leased ↔ l ∈ p.leased ∧ l.session ≠ id
  busy : (look 1 id).idle = false → p' = p

/-- The course that goes through events, each with what the pool sees at it, if all of them can
happen. -/
def play? (limits : PoolLimits) : Desk → List (Looks × Event) → Option (List Entry × Desk)
  | d, [] => some ([], d)
  | d, (look, e) :: more =>
    match d.step? look limits e with
    | none => none
    | some (d', notices) =>
      (play? limits d' more).map fun (es, d'') => (⟨d, look, e, notices, d'⟩ :: es, d'')

theorem course_of_play? {events : List (Looks × Event)}
    (h : play? limits d events = some (es, d')) :
    Course limits d es d' ∧ es.map Entry.look = events.map Prod.fst := by
  induction events generalizing d es with
  | nil =>
    cases h
    exact ⟨.stop _, rfl⟩
  | cons event more ih =>
    obtain ⟨look, e⟩ := event
    simp only [play?] at h
    split at h
    · cases h
    next d₁ notices step =>
      obtain ⟨⟨es', d''⟩, play, heq⟩ := Option.map_eq_some_iff.mp h
      cases heq
      obtain ⟨course, looks⟩ := ih play
      exact ⟨.step step course, by rw [List.map_cons, looks, List.map_cons]⟩

/-- Numbers of commands never decrease if what is seen of them does not. -/
theorem countsGrow_of_looks {looks : List Looks} (h : es.map Entry.look = looks)
    (grow : looks.Pairwise fun look look' => ∀ id m n,
      (look m id).commands ≤ (look' n id).commands) : CountsGrow es := by
  subst h
  exact List.pairwise_map.mp grow

/-- A course that goes through events, what the pool sees at them, and what has been found out
about it. -/
theorem exists_course_of_played {events : List (Looks × Event)} {p : List Entry × Desk → Bool}
    (h : (play? limits d events).elim false p = true) :
    ∃ es d', Course limits d es d' ∧ es.map Entry.look = events.map Prod.fst ∧
      p (es, d') = true := by
  cases played : play? limits d events with
  | none => simp [played] at h
  | some played' =>
    rw [played] at h
    obtain ⟨course, looks⟩ := course_of_play? played
    exact ⟨_, _, course, looks, h⟩

/-- A course that goes through events, and what has been found out about the desk at its end. -/
theorem exists_course_of_play? (limits : PoolLimits) (events : List (Looks × Event))
    (p : Desk → Bool)
    (h : (play? limits {} events).elim false (fun played => p played.2) = true) :
    ∃ es d, Course limits {} es d ∧ p d = true := by
  obtain ⟨es, d, course, -, found⟩ := exists_course_of_played h
  exact ⟨es, d, course, found⟩

/-- Sessions that live, that are idle or not, and that have so many commands. -/
def still (idle : Bool) (commands : Nat) : Looks := fun _ _ => ⟨false, idle, commands, 0⟩

/-- A call starts a command on the session that has been opened for it. While the session is busy a
second call finds no room; when it is idle again, a third call is handed it and gives it back. -/
def inTurn : List (Looks × Event) :=
  [(still true 0, .arrive ⟨1, true, none⟩), (still true 0, .serve fun _ => false),
    (still true 0, .opened 7), (still false 1, .used), (still false 1, .arrive (patient 2)),
    (still false 1, .serve fun _ => false), (still true 1, .arrive ⟨3, true, none⟩),
    (still true 1, .serve fun _ => false), (still true 1, .used)]

/-- A session that is found idle twice, and on which something is started right after that. -/
def startedBetween : Looks := fun n _ => if n ≤ 1 then ⟨false, true, 0, 0⟩ else ⟨false, false, 1, 0⟩

/-- A call has been handed a session that it is to use elsewhere. It starts its command while the
pool looks whether the session is released. -/
def divided : List (Looks × Event) :=
  [(still true 0, .arrive (patient 1)), (still true 0, .serve fun _ => false),
    (still true 0, .opened 7), (still true 0, .arrive (patient 2)),
    (startedBetween, .serve fun _ => false)]

/-- **A busy session may be handed out.** If something is started on a session in the middle of the
test for release, the test takes it for released, and the session is handed out to another call,
though it has not been found idle since. -/
theorem exists_handed_busy :
    ∃ es d, Course ⟨1, 10, 10⟩ {} es d ∧
      es.flatMap Entry.notices = [.open 1, .handed 1 7, .handed 2 7] ∧
      (openedIn es).Nodup ∧ CountsGrow es ∧ ∀ z ∈ es, ¬Freed z.look 7 0 := by
  have h : (play? ⟨1, 10, 10⟩ {} divided).elim false (fun played =>
      played.1.flatMap Entry.notices = [.open 1, .handed 1 7, .handed 2 7] ∧
        openedIn played.1 = [7]) = true := by
    decide +kernel
  obtain ⟨es, d, course, looks, found⟩ := exists_course_of_played h
  obtain ⟨notices, opened⟩ := by simpa using found
  refine ⟨es, d, course, notices, opened ▸ List.nodup_singleton 7,
    countsGrow_of_looks looks (by simp [divided, still]), fun z hz => ?_⟩
  have among := looks ▸ List.mem_map_of_mem (f := Entry.look) hz
  have seen : z.look = still true 0 ∨ z.look = startedBetween := by
    simp only [divided, List.map_cons, List.map_nil, List.mem_cons, List.not_mem_nil,
      or_false] at among
    tauto
  rintro ⟨m, idle, commands⟩
  rcases seen with same | same
  · simp [same, still] at commands
  · -- it is idle only as long as nothing has been started on it
    rw [same] at idle commands
    simp only [startedBetween] at idle commands
    split at idle <;> simp_all

end Desk

end Icap
