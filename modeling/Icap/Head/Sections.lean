import Icap.Failure
import Icap.Text.Blank
import Icap.Text.Letter
import Icap.Text.Pieces
import Icap.Text.Numeral

/-!
# Encapsulated sections

The value of an `Encapsulated` field lists the sections of what a message carries, each with the
offset at which it begins. Sections with other names must have an offset as well, but are not kept.
-/

namespace Icap

open Text

/-- The offsets of the sections that a message announces. -/
structure Sections where
  reqHdr : Option Nat := none
  reqBody : Option Nat := none
  resHdr : Option Nat := none
  resBody : Option Nat := none
  nullBody : Option Nat := none
  deriving DecidableEq, Repr

namespace Sections

/-- Sets the offset of the section with a name, if it is one of the five. -/
def set (s : Sections) (name : List Char) (offset : Nat) : Sections :=
  if name = "req-hdr".toList then { s with reqHdr := some offset }
  else if name = "req-body".toList then { s with reqBody := some offset }
  else if name = "res-hdr".toList then { s with resHdr := some offset }
  else if name = "res-body".toList then { s with resBody := some offset }
  else if name = "null-body".toList then { s with nullBody := some offset }
  else s

/-- Reads a part of the list that is not blank: the name of a section in small letters, and its
offset. -/
def readPart (part : List Char) : Except ParseFault (List Char × Nat) :=
  match cutAt? '=' part with
  | none => .error (.invalidValue .encapsulated (excerptChars part))
  | some (name, offset) =>
    match wholeDecimal? word (trimChars offset) with
    | none => .error (.invalidValue .encapsulated (excerptChars (trimChars offset)))
    | some n => .ok (foldCase (trimChars name), n)

/-- Reads parts onto the sections found so far; blank parts are passed over. -/
def readParts (s : Sections) : List (List Char) → Except ParseFault Sections
  | [] => .ok s
  | part :: more =>
    if trimChars part = [] then readParts s more
    else
      match readPart (trimChars part) with
      | .error fault => .error fault
      | .ok (name, offset) => readParts (s.set name offset) more

/-- Reads the value of an `Encapsulated` field. -/
def read (value : String) : Except ParseFault Sections :=
  readParts {} (piecesBy ',' value.toList)

end Sections

end Icap
