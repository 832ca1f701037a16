/-!
# Results that may be faults

What is known of the parts of a computation that has come to a result without a fault.
-/

namespace Icap

variable {ε α β : Type} {x : Except ε α} {a : α} {b : β}

/-- What two actions in a row come to is what the second one comes to. -/
theorem exists_of_bind_eq_ok {f : α → Except ε β} (h : x >>= f = .ok b) :
    ∃ a, x = .ok a ∧ f a = .ok b := by
  cases x with
  | error fault => cases h
  | ok a => exact ⟨a, rfl, h⟩

end Icap
