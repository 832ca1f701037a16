import Icap.Settings.Document
import Icap.Text.Letter
import Icap.Time.Duration

/-!
# Values of settings

What a document may give for a setting, by the kind of the setting. A number may be written as a
number or as a text; so may a duration, a number standing for seconds.
-/

namespace Icap

open Text

/-- What a setting takes. -/
inductive ValueKind
  | duration
  | size
  | count
  | flag
  | text
  deriving DecidableEq, Repr

namespace ValueKind

/-- The name of a kind. -/
def name : ValueKind → String
  | .duration => "humanize duration"
  | .size => "usize"
  | .count => "u64"
  | .flag => "bool"
  | .text => "string"

/-- The types of values that a kind takes. -/
def expectation : ValueKind → String
  | .duration => "humanize duration should be 'string' or 'integer'"
  | .size => "'usize' should be 'string' or 'integer'"
  | .count => "'u64' should be 'string' or 'integer'"
  | .flag => "'bool' should be 'boolean' / 'string' / 'integer'"
  | .text => "string should be 'string' or 'integer'"

end ValueKind

/-- Why a value is not of a kind. -/
inductive ValueFault
  | wrongType (kind : ValueKind)
  | numeral (fault : NumeralFault)
  | negative
  | duration (fault : Duration.Fault)
  | negativeDuration
  | flag (given : String)
  deriving DecidableEq, Repr

/-- The text of a fault. -/
def ValueFault.message : ValueFault → String
  | .wrongType kind => "yaml value type for " ++ kind.expectation
  | .numeral fault => fault.message
  | .negative => "number too small to fit in target type"
  | .duration fault => fault.message
  | .negativeDuration => "unsupported duration value"
  | .flag given => "invalid yaml string value for 'bool': " ++ given

namespace Document

/-- A value as a duration. -/
def asDuration : Document → Except ValueFault Duration
  | .text s =>
    match Duration.read s with
    | .ok d => .ok d
    | .error fault => .error (.duration fault)
  | .int i => if i < 0 then .error .negativeDuration else .ok (Duration.ofSeconds i.toNat)
  | _ => .error (.wrongType .duration)

/-- A value as a number of a kind. -/
def asNumber (kind : ValueKind) : Document → Except ValueFault Nat
  | .text s =>
    match readWhole word s.toList with
    | .ok n => .ok n
    | .error fault => .error (.numeral fault)
  | .int i => if i < 0 then .error .negative else .ok i.toNat
  | _ => .error (.wrongType kind)

/-- The flag that a word stands for, whatever the case of its letters. No such word has a letter
that another script's capital could fold to, so folding ASCII is enough. -/
def flag? (given : String) : Option Bool :=
  let key := String.ofList (foldCase given.toList)
  if ["on", "true", "yes", "1"].contains key then some true
  else if ["off", "false", "no", "0"].contains key then some false
  else none

/-- A value as a flag. -/
def asFlag : Document → Except ValueFault Bool
  | .text s =>
    match flag? s with
    | some b => .ok b
    | none => .error (.flag s)
  | .bool b => .ok b
  | .int i => .ok (i != 0)
  | _ => .error (.wrongType .flag)

/-- An integer in decimal. -/
def intText (i : Int) : String :=
  if i < 0 then "-" ++ decimal i.natAbs else decimal i.natAbs

/-- A value as a text. -/
def asText : Document → Except ValueFault String
  | .text s => .ok s
  | .int i => .ok (intText i)
  | _ => .error (.wrongType .text)

end Document

end Icap
