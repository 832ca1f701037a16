import Icap.Proofs.Pool.Readings
import Icap.Proofs.Pool.Service

/-!
# How far the deadline of a call reaches

A call has its deadline from the time at which it gets in line. It loses its patience in line no
sooner than that, and the search for a session gives up if the deadline has passed at a reading of
the clock. But the clock is read while sessions are looked over, and at no other time: whether a
session is to be opened is decided without a look at it, and while the session is being opened the
deadline is not heeded any more.

* `Timed`, `OnClock` — events at a desk that take their time.
* `SearchedInTime` — what is certain of a call that has not been refused by the search for it.
* `deadlines_of_course` — what the deadline does for a call, and where it ends.
* `exists_handed_late` — a session that is handed out late, and one that is asked for late.
-/

namespace Icap

/-- A deadline that has passed stays so. -/
theorem Deadline.isPast_mono {deadline : Deadline} {t u : Instant} (le : t ≤ u)
    (past : deadline.isPast t = true) : deadline.isPast u = true := by
  cases deadline with
  | none => cases past
  | some due =>
    simp only [isPast, Option.any_some, decide_eq_true_eq] at past ⊢
    exact Nat.le_trans past le

namespace Desk

open Duration (ofSeconds)
open Pool (found_timeout_iff)

variable {look : Looks} {limits : PoolLimits} {d d' : Desk} {e : Event} {notices : List Notice}
  {es : List Entry} {call : Call} {n id : Nat}

/-! ## What a step tells a call -/

/-- A search is made for a call, and comes to this. -/
def Finds (look : Looks) (limits : PoolLimits) (d : Desk) (e : Event) (call : Call)
    (found : Except ScanFault (Option Nat)) : Prop :=
  ∃ late, e = .serve late ∧ d.line.head? = some call ∧ (d.pool.seek look limits late).found = found

/-- A call is handed the session that has been found for it, or the one that has been opened. -/
theorem Step.finds_or_opened (step : Step look limits d e d' notices)
    (handed : .handed n id ∈ notices) :
    ∃ call, call.number = n ∧
      (Finds look limits d e call (.ok (some id)) ∨
        e = .opened id ∧ d.served = some (call, .opening)) := by
  cases step
  case reuse late call line id' free head found =>
    obtain ⟨rfl, rfl⟩ : n = call.number ∧ id = id' := by simpa using handed
    exact ⟨call, rfl, .inl ⟨late, rfl, by rw [head]; rfl, found⟩⟩
  case receive session call served =>
    obtain ⟨rfl, rfl⟩ : n = call.number ∧ id = session := by simpa using handed
    exact ⟨call, rfl, .inr ⟨rfl, served⟩⟩
  all_goals simp at handed

/-- A session is asked for if the search for one has found none and there is room. -/
theorem Step.finds_of_open (step : Step look limits d e d' notices) (asked : .open n ∈ notices) :
    ∃ call, call.number = n ∧ Finds look limits d e call (.ok none) := by
  cases step
  case ask late call line free head found =>
    obtain rfl : n = call.number := by simpa using asked
    exact ⟨call, rfl, late, rfl, by rw [head]; rfl, found⟩
  all_goals simp at asked

/-- A session is being opened for a call from when it is asked for. -/
theorem Step.asked_of_opening (step : Step look limits d e d' notices)
    (opening : d'.served = some (call, .opening)) :
    d.served = some (call, .opening) ∨
      Finds look limits d e call (.ok none) ∧ .open call.number ∈ notices := by
  cases step
  case arrive | expire | leave => exact .inl opening
  case refuse => exact .inl opening
  case ask late call' line free head found =>
    obtain rfl : call' = call := by simpa using opening
    exact .inr ⟨⟨late, rfl, by rw [head]; rfl, found⟩, by simp⟩
  case reuse | receive =>
    simp only [hand] at opening
    split at opening <;> cases opening
  case fail | abandon | done => cases opening

/-- A call is refused for its time if the search gives up, if it loses its patience in line, or if
no session could be opened in time. -/
theorem Step.refused_timeout (step : Step look limits d e d' notices)
    (refused : .refused n .timeout ∈ notices) :
    e = .notOpened .timeout ∨ e = .expire n ∨
      ∃ call, call.number = n ∧ Finds look limits d e call (.error .timeout) := by
  cases step
  case refuse late call line fault free head found =>
    obtain ⟨rfl, rfl⟩ : n = call.number ∧ .timeout = fault := by simpa using refused
    exact .inr (.inr ⟨call, rfl, late, rfl, by rw [head]; rfl, found⟩)
  case fail fault call served =>
    obtain ⟨-, rfl⟩ : n = call.number ∧ .timeout = fault := by simpa using refused
    exact .inl rfl
  case expire number waits =>
    obtain rfl : n = number := by simpa using refused
    exact .inr (.inl rfl)
  all_goals simp at refused

/-- A call is refused when the search for it gives up; it is not handed a session, and none is asked
for. -/
theorem Step.notices_of_timeout (step : Step look limits d e d' notices)
    (gaveUp : Finds look limits d e call (.error .timeout)) :
    .refused call.number .timeout ∈ notices ∧ (∀ n id, .handed n id ∉ notices) ∧
      ∀ n, .open n ∉ notices := by
  obtain ⟨late, rfl, first, gaveUp⟩ := gaveUp
  cases step
  case refuse call' line fault free head found =>
    obtain rfl : call' = call := by simpa [head] using first
    obtain rfl : .timeout = fault := Except.error.inj (gaveUp.symm.trans found)
    exact ⟨by simp, by simp, by simp⟩
  case reuse found => cases gaveUp.symm.trans found
  case ask found => cases gaveUp.symm.trans found

/-! ## Any number of events -/

theorem mem_arrived : call ∈ e.arrived ↔ e = .arrive call := by
  cases e <;> simp [Event.arrived, eq_comm]

/-- A call at a desk has been there at first, or has arrived. -/
theorem Course.arrived (course : Course limits d es d') (there : call ∈ d'.calls) :
    call ∈ d.calls ∨ ∃ w ∈ es, w.event = .arrive call := by
  induction course with
  | stop => exact .inl there
  | step h more ih =>
    rcases ih there with there | ⟨w, hw, event⟩
    · obtain ⟨gone, perm, -⟩ := (step_of_step? h).calls
      have there := perm.mem_iff.mpr (List.mem_append_right gone there)
      rcases List.mem_append.mp there with there | arrived
      · exact .inl there
      · exact .inr ⟨_, List.mem_cons_self, mem_arrived.mp arrived⟩
    · exact .inr ⟨w, List.mem_cons_of_mem _ hw, event⟩

/-- A session that is being opened was being opened at first, or has been asked for. -/
theorem Course.asked (course : Course limits d es d')
    (opening : d'.served = some (call, .opening)) :
    d.served = some (call, .opening) ∨
      ∃ z ∈ es, Finds z.look limits z.desk z.event call (.ok none) ∧
        .open call.number ∈ z.notices := by
  induction course with
  | stop => exact .inl opening
  | step h more ih =>
    rcases ih opening with opening | ⟨z, hz, asked⟩
    · refine ((step_of_step? h).asked_of_opening opening).imp id fun asked => ?_
      exact ⟨_, List.mem_cons_self, asked⟩
    · exact .inr ⟨z, List.mem_cons_of_mem _ hz, asked⟩

/-! ## Deadlines -/

/-- An event at a desk, and the time that it takes. -/
structure Timed extends Entry where
  begun : Instant
  /-- What the clock tells at its readings, one after the other. -/
  clock : Nat → Instant
  ended : Instant

/-- The clock does not go back while an event takes its time. -/
structure Timed.Forward (x : Timed) : Prop where
  begun_le : x.begun ≤ x.clock 0
  clock_le : ∀ m n, m ≤ n → x.clock m ≤ x.clock n
  le_ended : ∀ k, x.clock k ≤ x.ended

/-- One event is over when the next one begins. A search is late at a reading of the clock if the
deadline of the call has passed by then, and a call does not lose its patience sooner. -/
structure OnClock (ts : List Timed) : Prop where
  forward : ∀ x ∈ ts, x.Forward
  order : ts.Pairwise fun x y => x.ended ≤ y.begun
  late_eq : ∀ x ∈ ts, ∀ late call, x.event = .serve late → x.desk.line.head? = some call →
    ∀ k, late k = call.patience.isPast (x.clock k)
  expired : ∀ x ∈ ts, ∀ n, x.event = .expire n →
    ∃ call ∈ x.desk.line, call.number = n ∧ call.patience.isPast x.begun = true

/-- The number of times that the clock is read in a search that does not give up. -/
def Timed.readings (x : Timed) (limits : PoolLimits) : Nat := x.desk.pool.readings x.look limits

/-- A search is made for a call. -/
def Timed.SearchesFor (x : Timed) (call : Call) : Prop :=
  (∃ late, x.event = .serve late) ∧ x.desk.line.head? = some call

/-- A call has arrived, and its deadline lies ahead whenever the clock is read in the search that is
made for it; if it is read at all, the deadline lies ahead as the search begins. -/
structure SearchedInTime (limits : PoolLimits) (ts : List Timed) (z : Timed) (call : Call) :
    Prop where
  arrived : ∃ w ∈ ts, w.event = .arrive call ∧ w.ended ≤ z.begun
  search : z.SearchesFor call
  ahead : ∀ k < z.readings limits, call.patience.isPast (z.clock k) = false
  begun : 0 < z.readings limits → call.patience.isPast z.begun = false

variable {ts before after : List Timed} {x y z : Timed}

/-- The event in the middle of a course is a step of the desk; all that comes before it is over. -/
theorem OnClock.split (clock : OnClock (before ++ x :: after))
    (course : Course limits {} ((before ++ x :: after).map Timed.toEntry) d) :
    Course limits {} (before.map Timed.toEntry) x.desk ∧
      Step x.look limits x.desk x.event x.next x.notices ∧ ∀ w ∈ before, w.ended ≤ x.begun := by
  rw [List.map_append, List.map_cons] at course
  obtain ⟨first, step, -⟩ := course.split
  obtain ⟨-, -, order⟩ := List.pairwise_append.mp clock.order
  exact ⟨first, step_of_step? step, fun w hw => order w hw x List.mem_cons_self⟩

/-- A search that has not given up has been in time. -/
theorem OnClock.searchedInTime (clock : OnClock ts)
    (course : Course limits {} (ts.map Timed.toEntry) d) (hz : z ∈ ts)
    {found : Except ScanFault (Option Nat)} (finds : Finds z.look limits z.desk z.event call found)
    (inTime : found ≠ .error .timeout) : SearchedInTime limits ts z call := by
  obtain ⟨late, event, first, rfl⟩ := finds
  have ahead : ∀ k < z.readings limits, call.patience.isPast (z.clock k) = false := by
    intro k hk
    by_contra past
    refine inTime (found_timeout_iff.mpr ⟨k, hk, ?_⟩)
    rw [clock.late_eq z hz late call event first k]
    simpa using past
  refine ⟨?_, ⟨⟨late, event⟩, first⟩, ahead, fun read => ?_⟩
  · obtain ⟨before, after, rfl⟩ := List.append_of_mem hz
    obtain ⟨course', -, earlier⟩ := clock.split course
    have there : call ∈ z.desk.calls := List.mem_append_right _ (List.mem_of_head? first)
    obtain ⟨_, arrival, arrived⟩ := (course'.arrived there).resolve_left List.not_mem_nil
    obtain ⟨w, hw, rfl⟩ := List.mem_map.mp arrival
    exact ⟨w, List.mem_append_left _ hw, arrived, earlier w hw⟩
  · by_contra past
    have past := Deadline.isPast_mono (clock.forward z hz).begun_le (by simpa using past)
    exact absurd past (by simp [ahead 0 read])

/-- **What the deadline of a call does, and where it ends.** Whatever happens at a desk, and however
long each event takes:

* a call is handed a session that has been found by a search in time, or one that has been opened
  after a search in time, however long that has taken;
* a session is asked for only by a search in time;
* a call is refused for its time if its deadline has passed at a reading of the clock, or while it
  stands in line, or because the opening of a session has failed in this way;
* a call whose deadline has passed at a reading of the clock is refused, is handed nothing and asks
  for nothing. -/
theorem deadlines_of_course (course : Course limits {} (ts.map Timed.toEntry) d)
    (clock : OnClock ts) :
    ∀ x ∈ ts,
      (∀ n id, .handed n id ∈ x.notices → ∃ call, call.number = n ∧
        (SearchedInTime limits ts x call ∨
          x.event = .opened id ∧ ∃ z ∈ ts, SearchedInTime limits ts z call ∧
            .open n ∈ z.notices ∧ z.ended ≤ x.begun)) ∧
      (∀ n, .open n ∈ x.notices → ∃ call, call.number = n ∧ SearchedInTime limits ts x call) ∧
      (∀ n, .refused n .timeout ∈ x.notices →
        x.event = .notOpened .timeout ∨ ∃ call, call.number = n ∧
          (x.SearchesFor call ∧
              (∃ k < x.readings limits, call.patience.isPast (x.clock k) = true) ∨
            x.event = .expire n ∧ call ∈ x.desk.line ∧ call.patience.isPast x.begun = true)) ∧
      ∀ call, x.SearchesFor call →
        (∃ k < x.readings limits, call.patience.isPast (x.clock k) = true) →
          .refused call.number .timeout ∈ x.notices ∧ (∀ n id, .handed n id ∉ x.notices) ∧
            ∀ n, .open n ∉ x.notices := by
  intro x hx
  obtain ⟨before, after, split⟩ := List.append_of_mem hx
  have ⟨first, step, earlier⟩ := (split ▸ clock).split (split ▸ course)
  refine ⟨fun n id handed => ?_, fun n asked => ?_, fun n refused => ?_, ?_⟩
  · obtain ⟨call, number, finds | ⟨event, opening⟩⟩ := step.finds_or_opened handed
    · exact ⟨call, number, .inl (clock.searchedInTime course hx finds (by simp))⟩
    · obtain ⟨_, search, finds, asked⟩ := (first.asked opening).resolve_left (by simp)
      obtain ⟨z, hz, rfl⟩ := List.mem_map.mp search
      have hz' : z ∈ ts := split ▸ List.mem_append_left _ hz
      exact ⟨call, number, .inr ⟨event, z, hz', clock.searchedInTime course hz' finds (by simp),
        number ▸ asked, earlier z hz⟩⟩
  · obtain ⟨call, number, finds⟩ := step.finds_of_open asked
    exact ⟨call, number, clock.searchedInTime course hx finds (by simp)⟩
  · rcases step.refused_timeout refused with event | event |
      ⟨call, number, late, event, head, found⟩
    · exact .inl event
    · obtain ⟨call, there, number, past⟩ := clock.expired x hx n event
      exact .inr ⟨call, number, .inr ⟨event, there, past⟩⟩
    · obtain ⟨k, hk, isLate⟩ := found_timeout_iff.mp found
      rw [clock.late_eq x hx late call event head k] at isLate
      exact .inr ⟨call, number, .inl ⟨⟨⟨late, event⟩, head⟩, k, hk, isLate⟩⟩
  · rintro call ⟨⟨late, event⟩, head⟩ ⟨k, hk, past⟩
    rw [← clock.late_eq x hx late call event head k] at past
    exact step.notices_of_timeout ⟨late, event, head, found_timeout_iff.mpr ⟨k, hk, past⟩⟩

/-! ### Three calls that are late -/

/-- A call that gets in line after so many seconds and may take so many. -/
def caller (number begun timeout : Nat) : Call :=
  ⟨number, false, Instant.after? (ofSeconds begun) (ofSeconds timeout)⟩

/-- Sessions that are dead. -/
def gone : Looks := fun _ _ => ⟨true, false, 0, 0⟩

/-- An event that goes on for a while; all readings of the clock are at its end. -/
def taking (begun ended : Nat) (x : Entry) : Timed :=
  ⟨x, ofSeconds begun, fun _ => ofSeconds ended, ofSeconds ended⟩

/-- A session is opened for the first call, which has one second, within five seconds. The second
call has no time at all, but a session is asked for, since the first one is dead. The third call has
one second, and its search takes two. -/
def lateCalls : List Timed :=
  let first := caller 1 0 1
  let second := caller 2 5 0
  let third := caller 3 7 1
  let one : Pool := ⟨[], [⟨7, 0⟩]⟩
  let other : Pool := ⟨[], [⟨8, 0⟩]⟩
  [taking 0 0 ⟨{}, busy, .arrive first, [], { line := [first] }⟩,
    taking 0 0 ⟨{ line := [first] }, busy, .serve fun _ => false, [.open 1],
      { served := some (first, .opening) }⟩,
    taking 5 5 ⟨{ served := some (first, .opening) }, busy, .opened 7, [.handed 1 7],
      { pool := one }⟩,
    taking 5 5 ⟨{ pool := one }, gone, .arrive second, [], { pool := one, line := [second] }⟩,
    taking 5 6 ⟨{ pool := one, line := [second] }, gone, .serve fun _ => true, [.open 2],
      { served := some (second, .opening) }⟩,
    taking 6 6 ⟨{ served := some (second, .opening) }, busy, .opened 8, [.handed 2 8],
      { pool := other }⟩,
    taking 7 7 ⟨{ pool := other }, busy, .arrive third, [], { pool := other, line := [third] }⟩,
    taking 7 9 ⟨{ pool := other, line := [third] }, busy, .serve fun _ => true,
      [.refused 3 .timeout], { pool := other }⟩]

theorem course_lateCalls :
    Course two {} (lateCalls.map Timed.toEntry) { pool := ⟨[], [⟨8, 0⟩]⟩ } := by
  simp only [lateCalls, taking, List.map_cons, List.map_nil]
  refine .step ?_ (.step ?_ (.step ?_ (.step ?_ (.step ?_ (.step ?_ (.step ?_ (.step ?_
    (.stop _)))))))) <;> decide +kernel

theorem forward_taking {begun ended : Nat} (le : begun ≤ ended) (x : Entry) :
    (taking begun ended x).Forward :=
  ⟨Nat.mul_le_mul_right _ le, fun _ _ _ => Nat.le_refl _, fun _ => Nat.le_refl _⟩

theorem onClock_lateCalls : OnClock lateCalls := by
  constructor
  case forward =>
    simp only [lateCalls, List.forall_mem_cons]
    refine ⟨?_, ?_, ?_, ?_, ?_, ?_, ?_, ?_, by simp⟩ <;> exact forward_taking (by decide) _
  case order => simp [lateCalls, taking, ofSeconds]
  case late_eq =>
    simp only [lateCalls, List.forall_mem_cons]
    refine ⟨?_, ?_, ?_, ?_, ?_, ?_, ?_, ?_, by simp⟩ <;> rintro late call event first k
    · cases event
    · cases event
      cases first
      rfl
    · cases event
    · cases event
    · cases event
      cases first
      rfl
    · cases event
    · cases event
    · cases event
      cases first
      rfl
  case expired => simp [lateCalls, taking]

theorem deadlines_of_course_lateCalls :
    ∃ d, Course two {} (lateCalls.map Timed.toEntry) d ∧ OnClock lateCalls ∧
      ∀ x ∈ lateCalls,
        (∀ n id, .handed n id ∈ x.notices → ∃ call, call.number = n ∧
          (SearchedInTime two lateCalls x call ∨
            x.event = .opened id ∧ ∃ z ∈ lateCalls, SearchedInTime two lateCalls z call ∧
              .open n ∈ z.notices ∧ z.ended ≤ x.begun)) ∧
        (∀ n, .open n ∈ x.notices →
          ∃ call, call.number = n ∧ SearchedInTime two lateCalls x call) ∧
        (∀ n, .refused n .timeout ∈ x.notices →
          x.event = .notOpened .timeout ∨ ∃ call, call.number = n ∧
            (x.SearchesFor call ∧
                (∃ k < x.readings two, call.patience.isPast (x.clock k) = true) ∨
              x.event = .expire n ∧ call ∈ x.desk.line ∧ call.patience.isPast x.begun = true)) ∧
        ∀ call, x.SearchesFor call →
          (∃ k < x.readings two, call.patience.isPast (x.clock k) = true) →
            .refused call.number .timeout ∈ x.notices ∧ (∀ n id, .handed n id ∉ x.notices) ∧
              ∀ n, .open n ∉ x.notices :=
  ⟨_, course_lateCalls, onClock_lateCalls, deadlines_of_course course_lateCalls onClock_lateCalls⟩

/-- **A call can be handed a session after its deadline**, and a session can be asked for that late:
a call that may take one second is handed a session after five, and one that may take no time has a
session opened. -/
theorem exists_handed_late :
    ∃ ts d, Course two {} (ts.map Timed.toEntry) d ∧ OnClock ts ∧
      (∃ w ∈ ts, ∃ x ∈ ts, ∃ call id, w.event = .arrive call ∧
        call.patience = Instant.after? w.begun (ofSeconds 1) ∧ .handed call.number id ∈ x.notices ∧
        w.begun + ofSeconds 1 < x.begun) ∧
      ∃ w ∈ ts, ∃ x ∈ ts, ∃ call, w.event = .arrive call ∧
        call.patience = Instant.after? w.begun (ofSeconds 0) ∧ .open call.number ∈ x.notices ∧
        call.patience.isPast x.begun = true ∧ w.begun + ofSeconds 0 < x.ended := by
  refine ⟨lateCalls, _, course_lateCalls, onClock_lateCalls, ?_, ?_⟩
  · simp [lateCalls, taking, caller, ofSeconds]
  · have past : Deadline.isPast (Instant.after? 5000000000 0) 5000000000 = true := rfl
    simp [lateCalls, taking, caller, ofSeconds, past]

end Desk

end Icap
