/-!
# Pieces of a text

Extracts for error messages, and the ways a text is taken apart: at the first occurrence of a
character, at all of them, or at its line ends.

The two splitters are right folds, so each has one equation per character.
-/

namespace Icap.Text

/-! ## Extracts -/

/-- The first ten characters of a list: what an error shows of a value that it refuses. -/
def excerptChars (cs : List Char) : String := String.ofList (cs.take 10)

/-- The first ten characters of a text. -/
def excerpt (s : String) : String := excerptChars s.toList

/-! ## Cutting at a character -/

/-- The parts of a list before and after the first `c`, unless there is none. -/
def cutAt? (c : Char) (cs : List Char) : Option (List Char × List Char) :=
  match cs.dropWhile (· != c) with
  | [] => none
  | _ :: rest => some (cs.takeWhile (· != c), rest)

/-- Puts a character in front of the first piece. -/
def consFirst (x : Char) : List (List Char) → List (List Char)
  | [] => [[x]]
  | p :: ps => (x :: p) :: ps

/-- The pieces of a list between the `c`s of it, at least one. -/
def piecesBy (c : Char) (cs : List Char) : List (List Char) :=
  cs.foldr (fun x ps => if x = c then [] :: ps else consFirst x ps) [[]]

@[simp] theorem piecesBy_nil (c : Char) : piecesBy c [] = [[]] := rfl

theorem piecesBy_cons (c x : Char) (xs : List Char) :
    piecesBy c (x :: xs) =
      if x = c then [] :: piecesBy c xs else consFirst x (piecesBy c xs) := rfl

/-- Puts a character in front of the first line, where a carriage return before a line feed ends a
line of its own instead. -/
def consLine (x : Char) : List (List Char) → List (List Char)
  | ('\n' :: p) :: ps => if x = '\r' then [] :: p :: ps else (x :: '\n' :: p) :: ps
  | ps => consFirst x ps

/-- The lines of a text, at least one: what stands between its line ends, which are a carriage
return and a line feed each. -/
def lines (cs : List Char) : List (List Char) := cs.foldr consLine [[]]

@[simp] theorem lines_nil : lines [] = [[]] := rfl

theorem lines_cons (x : Char) (xs : List Char) : lines (x :: xs) = consLine x (lines xs) := rfl

theorem consLine_ne_nil (x : Char) (ps : List (List Char)) : consLine x ps ≠ [] := by
  unfold consLine
  split
  · split <;> simp
  · cases ps <;> simp [consFirst]

theorem lines_ne_nil (cs : List Char) : lines cs ≠ [] := by
  cases cs with
  | nil => simp
  | cons x xs => exact consLine_ne_nil x (lines xs)

end Icap.Text
