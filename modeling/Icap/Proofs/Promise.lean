import Icap.Promise
import Icap.Time.Instant

/-!
# A promise keeps its word

The outcome of a scan is on its way, is kept by the promise, or has been handed out. The caller
looks for it in five ways, in any order and as often as it likes, and the outcome arrives, or is
lost, in between any two of these looks. It is handed out once all the same.

A wait looks more than once: each look either ends the wait or lets it go on.

* `Look`, `looks` — the ways to look for an outcome, and any number of looks.
* `look_of_awaited` — nothing happens before the outcome has been settled.
* `look_of_holds`, `look_of_spent` — a look from then on, before the outcome has been handed out and
  after it.
* `handed_out_once` — any number of looks.
* `waitUntil`, `blockFor?` — a thread that waits up to a time, and when its time is over.
-/

namespace Icap

namespace Promise

variable {p : Promise} {d : Delivery} {o : Outcome}

/-- A way to look for an outcome. The waits with a time look once more when it has `expired`. -/
inductive Look
  | isDone
  | poll
  | wait (expired : Bool)
  | blockFor (expired : Bool)
  | block
  deriving DecidableEq, Repr

/-- Whether a look may take the outcome. -/
def Look.takes : Look → Bool
  | .isDone => false
  | _ => true

/-- What a look comes to. -/
inductive Finding
  /-- Whether the outcome is there. -/
  | done (isDone : Bool)
  /-- The wait goes on. -/
  | pending
  /-- The wait has ended. -/
  | ended (result : Except WaitFault Verdict)
  deriving Repr

/-- What a wait comes to. -/
def Finding.ofResult : Option (Except WaitFault Verdict) → Finding
  | some result => .ended result
  | none => .pending

/-- What a wait has ended with. -/
def Finding.ended? : Finding → Option (Except WaitFault Verdict)
  | .ended result => some result
  | _ => none

/-- A look for the outcome. What a poll finds is shown as what a wait would end with. A thread that
waits up to a time asks again and again whether the outcome is there, until it is or the time is
over. -/
def look (p : Promise) (d : Delivery) : Look → Promise × Finding
  | .isDone => ((p.isDone d).2, .done (p.isDone d).1)
  | .poll => ((p.poll d).2, .ofResult ((p.poll d).1.map waited))
  | .wait expired => ((p.wait d expired).2, .ofResult (p.wait d expired).1)
  | .blockFor expired =>
    if (p.isDone d).1 ∨ expired then ((p.block d true).2, .ofResult (p.block d true).1)
    else ((p.isDone d).2, .pending)
  | .block => ((p.block d false).2, .ofResult (p.block d false).1)

/-- Looks for the outcome, one after the other, and what they come to. -/
def looks (p : Promise) (d : Delivery) : List Look → Promise × List Finding
  | [] => (p, [])
  | l :: ls => ((looks (p.look d l).1 d ls).1, (p.look d l).2 :: (looks (p.look d l).1 d ls).2)

/-! ## One look -/

/-- A finding that tells of no outcome. -/
def Finding.IsEarly (x : Finding) : Prop :=
  x = .done false ∨ x = .pending ∨ x = .ended (.error .expired)

/-- **Before the outcome has been settled a look changes nothing**, and has no outcome to tell. -/
theorem look_of_awaited (l : Look) :
    (awaiting.look .awaited l).1 = awaiting ∧ (awaiting.look .awaited l).2.IsEarly := by
  cases l with
  | isDone => exact ⟨rfl, .inl rfl⟩
  | poll => exact ⟨rfl, .inr (.inl rfl)⟩
  | wait expired | blockFor expired =>
    cases expired with
    | false => exact ⟨rfl, .inr (.inl rfl)⟩
    | true => exact ⟨rfl, .inr (.inr rfl)⟩
  | block => exact ⟨rfl, .inr (.inl rfl)⟩

/-- A promise that has its outcome still to hand out: it is kept, or there to be received. -/
def Holds (d : Delivery) (o : Outcome) (p : Promise) : Prop :=
  p = ready o ∨ p = awaiting ∧ received d = some o

/-- A promise that has handed its outcome out. -/
def spent : Promise := ⟨false, none⟩

/-- **The outcome is there once it has been settled**: asking for it does not lose it, and a wait
ends with it. -/
theorem look_of_holds (h : Holds d o p) (l : Look) :
    p.look d l = if l.takes then (spent, .ended (waited o)) else (ready o, .done true) := by
  rcases h with rfl | ⟨rfl, received⟩
  · cases l <;> rfl
  · cases l <;>
      simp [look, Look.takes, isDone, poll, wait, block, take, awaiting, received, ready, spent,
        Finding.ofResult]

/-- **An outcome is not handed out twice.** -/
theorem look_of_spent (d : Delivery) (l : Look) :
    spent.look d l =
      if l.takes then (spent, .ended (waited emptied)) else (spent, .done true) := by
  cases l <;> rfl

/-! ## Any number of looks -/

/-- What waits end with that find an outcome still to be handed out. -/
def handedOut (o : Outcome) : Nat → List (Except WaitFault Verdict)
  | 0 => []
  | later + 1 => waited o :: List.replicate later (waited emptied)

/-- Findings that tell of an outcome that has been settled: it is there whenever somebody asks, and
no wait goes on. -/
structure AreLate (findings : List Finding) (results : List (Except WaitFault Verdict)) : Prop where
  done : ∀ isDone, .done isDone ∈ findings → isDone = true
  ended : .pending ∉ findings
  results_eq : findings.filterMap Finding.ended? = results

namespace AreLate

variable {findings : List Finding} {results : List (Except WaitFault Verdict)}

theorem nil : AreLate [] [] where
  done := by simp
  ended := List.not_mem_nil
  results_eq := rfl

theorem cons_done (h : AreLate findings results) : AreLate (.done true :: findings) results where
  done := by
    intro isDone hmem
    rcases List.mem_cons.mp hmem with here | later
    · cases here
      rfl
    · exact h.done isDone later
  ended := by simpa using h.ended
  results_eq := h.results_eq

theorem cons_ended (h : AreLate findings results) (result : Except WaitFault Verdict) :
    AreLate (.ended result :: findings) (result :: results) where
  done := by simpa using h.done
  ended := by simpa using h.ended
  results_eq := by
    show result :: findings.filterMap Finding.ended? = _
    rw [h.results_eq]

end AreLate

theorem looks_of_awaited (ls : List Look) :
    (looks awaiting .awaited ls).1 = awaiting ∧
      ∀ x ∈ (looks awaiting .awaited ls).2, x.IsEarly := by
  induction ls with
  | nil => exact ⟨rfl, by simp [looks]⟩
  | cons l ls ih =>
    obtain ⟨same, early⟩ := look_of_awaited l
    rw [looks, same]
    exact ⟨ih.1, List.forall_mem_cons.mpr ⟨early, ih.2⟩⟩

theorem looks_of_spent (d : Delivery) (ls : List Look) :
    AreLate (looks spent d ls).2 (List.replicate (ls.countP Look.takes) (waited emptied)) := by
  induction ls with
  | nil => exact .nil
  | cons l ls ih =>
    rw [looks, look_of_spent]
    cases takes : l.takes with
    | true =>
      rw [List.countP_cons_of_pos takes]
      exact ih.cons_ended _
    | false =>
      rw [List.countP_cons_of_neg (by simp [takes])]
      exact ih.cons_done

theorem looks_of_holds (h : Holds d o p) (ls : List Look) :
    AreLate (looks p d ls).2 (handedOut o (ls.countP Look.takes)) := by
  induction ls generalizing p with
  | nil => exact .nil
  | cons l ls ih =>
    rw [looks, look_of_holds h]
    cases takes : l.takes with
    | true =>
      -- from here on the promise has nothing to hand out
      rw [List.countP_cons_of_pos takes]
      exact (looks_of_spent d ls).cons_ended _
    | false =>
      rw [List.countP_cons_of_neg (by simp [takes])]
      exact (ih (.inl rfl)).cons_done

/-- Waits on a thread up to a deadline. At each turn the thread finds what has become of the outcome
by then, and if it is not there, the time. -/
def waitUntil (p : Promise) (deadline : Instant) : List (Delivery × Instant) → Promise × Finding
  | [] => (p, .pending)
  | (d, now) :: later =>
    match p.look d (.blockFor (decide (deadline ≤ now))) with
    | (p, .pending) => p.waitUntil deadline later
    | ended => ended

/-- Waits on a thread for so long. The deadline is reckoned when the wait begins; there is no such
wait if the clock cannot tell it. -/
def blockFor? (p : Promise) (begun : Instant) (patience : Duration)
    (turns : List (Delivery × Instant)) : Option (Promise × Finding) :=
  (Instant.after? begun patience).map fun deadline => p.waitUntil deadline turns

/-- **A wait for so long** can be begun exactly if the clock can tell its end. -/
theorem isSome_blockFor? {p : Promise} {begun : Instant} {patience : Duration}
    {turns : List (Delivery × Instant)} :
    (p.blockFor? begun patience turns).isSome = true ↔ begun + patience < Instant.bound := by
  rw [blockFor?, Option.isSome_map, Instant.isSome_after?]

end Promise

end Icap
