/-!
# Ranges of characters

A property of characters as ranges of code points. Ranges ascend, and one may run over code points
that no character has.

All tables of properties are those of Unicode 17.0.
-/

namespace Icap.Unicode

/-- Ranges of code points, each with its first and its last one. -/
abbrev Ranges := List (Nat × Nat)

namespace Ranges

/-- Whether a character lies in one of the ranges. -/
def covers (ranges : Ranges) (c : Char) : Bool :=
  ranges.any fun (first, last) => first ≤ c.toNat && c.toNat ≤ last

/-- Whether each range ends where it begins or later, and before the next one begins. -/
def ascending : Ranges → Bool
  | [] => true
  | [(first, last)] => first ≤ last
  | (first, last) :: (first', last') :: rest =>
    first ≤ last && last < first' && ascending ((first', last') :: rest)

end Ranges

end Icap.Unicode
