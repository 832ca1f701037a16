import Icap.Failure
import Icap.Text.Blank
import Icap.Text.Letter
import Icap.Text.Pieces

/-!
# Header fields

A field is a name and a value with a colon between them. The lines of a head are kept as they
arrive, the status line first, and a field is looked up by its name among the lines after that one.
Lines without a colon are no fields and are passed over.
-/

namespace Icap

open Text

/-- A field of a head. -/
structure Field where
  name : String
  value : String
  deriving DecidableEq, Repr

namespace Field

/-- Reads a line as a field. -/
def read (line : String) : Except LineFault Field :=
  match cutAt? ':' line.toList with
  | none => .error (.noDelimiter ':')
  | some ([], _) => .error .noName
  | some (name, value) =>
    .ok ⟨String.ofList (trimEnd name), String.ofList (trimChars value)⟩

/-- Whether a line is a field with a name. -/
def isNamed (name line : String) : Bool :=
  match read line with
  | .ok f => sameLetters f.name name
  | .error _ => false

/-- The first field with a name among numbered lines, and its number. -/
def findFrom (name : String) (index : Nat) : List String → Option (Nat × Field)
  | [] => none
  | line :: more =>
    match read line with
    | .ok f => if sameLetters f.name name then some (index, f) else findFrom name (index + 1) more
    | .error _ => findFrom name (index + 1) more

/-- The first field with a name in a head, and the number of its line. The status line has number
zero and is never a field. -/
def find? (head : List String) (name : String) : Option (Nat × Field) :=
  findFrom name 1 head.tail

end Field

end Icap
