import Icap.Text.Blank
import Icap.Text.Numeral

/-!
# Durations

Lengths of time in nanoseconds, and the way settings write them: numbers with units one after the
other, as in `1h 30m`. A number without a unit counts seconds if it is the whole text.
-/

namespace Icap

open Text

/-- A length of time in nanoseconds. -/
abbrev Duration := Nat

namespace Duration

/-! ## Units -/

/-- So many seconds. -/
def ofSeconds (n : Nat) : Duration := n * 1000000000

/-- So many milliseconds. -/
def ofMillis (n : Nat) : Duration := n * 1000000

/-- The whole seconds of a duration. -/
def seconds (d : Duration) : Nat := d / 1000000000

/-- The nanoseconds of a duration beyond its whole seconds. -/
def subsecond (d : Duration) : Nat := d % 1000000000

/-- The length of a unit. -/
def unit? (name : String) : Option Duration :=
  match name with
  | "ns" => some 1
  | "us" => some 1000
  | "ms" => some (ofMillis 1)
  | "s" => some (ofSeconds 1)
  | "m" => some (ofSeconds 60)
  | "h" => some (ofSeconds 3600)
  | "d" => some (ofSeconds 86400)
  | _ => none

/-! ## Reading -/

/-- Why a text is no duration. -/
inductive Fault
  | empty
  | noValue
  | badUnit
  | overflow
  /-- A number at the end has no unit and is not the whole text. -/
  | noUnit
  deriving DecidableEq, Repr

/-- The text of a fault. -/
def Fault.message : Fault → String
  | .empty => "invalid humanize duration string: empty input"
  | .noValue => "invalid humanize duration string: missing value"
  | .badUnit => "invalid humanize duration string: invalid unit"
  | .overflow => "invalid humanize duration string: value overflow"
  | .noUnit => "invalid duration string"

/-- What follows the unit at the start of a list. -/
def afterUnit (cs : List Char) : List Char := cs.dropWhile fun c => (decimal? c).isNone

/-- Reads a number and its unit. Only the end of the text leaves a number without a unit: blanks
before another number are a unit that is none. -/
def readPart (cs : List Char) : Except Fault Duration :=
  let value := leadingValue 10 decimal? cs
  let unit := (afterDigits decimal? cs).takeWhile fun c => (decimal? c).isNone
  if digitRun decimal? cs = [] then .error .noValue
  else if word ≤ value then .error .overflow
  else if afterDigits decimal? cs = [] then .error .noUnit
  else
    match unit? (String.ofList (trimChars unit)) with
    | none => .error .badUnit
    | some length => .ok (value * length)

/-- What follows the number and the unit at the start of a list. -/
def afterPart (cs : List Char) : List Char := afterUnit (afterDigits decimal? cs)

theorem length_afterUnit_le (cs : List Char) : (afterUnit cs).length ≤ cs.length :=
  (List.dropWhile_sublist _).length_le

theorem length_afterDigits_lt {digit? : Char → Option Nat} {cs : List Char}
    (h : digitRun digit? cs ≠ []) : (afterDigits digit? cs).length < cs.length := by
  have := congrArg List.length (digitRun_append_afterDigits digit? cs)
  have := List.length_pos_iff.2 h
  simp only [List.length_append] at *
  omega

theorem length_afterPart_lt {cs : List Char} {d : Duration} (h : readPart cs = .ok d) :
    (afterPart cs).length < cs.length := by
  have hd : digitRun decimal? cs ≠ [] := by
    intro hd
    simp [readPart, hd] at h
  exact Nat.lt_of_le_of_lt (length_afterUnit_le _) (length_afterDigits_lt hd)

/-- Reads numbers with units, to be added to `total`. Sums are bounded by a 64 bit word. -/
def readParts (total : Duration) (cs : List Char) : Except Fault Duration :=
  match _h : readPart cs with
  | .error fault => .error fault
  | .ok d =>
    if word ≤ total + d then .error .overflow
    else if afterPart cs = [] then .ok (total + d)
    else readParts (total + d) (afterPart cs)
termination_by cs.length
decreasing_by exact length_afterPart_lt _h

/-- The duration that a text writes. -/
def read (s : String) : Except Fault Duration :=
  let cs := trimChars s.toList
  if cs = [] then .error .empty
  else if cs = ['0'] then .ok 0
  else
    match readParts 0 cs with
    | .error .noUnit =>
      match readWhole word s.toList with
      | .ok n => .ok (ofSeconds n)
      | .error _ => .error .noUnit
    | r => r

end Duration

end Icap
