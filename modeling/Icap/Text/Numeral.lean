/-!
# Numerals

Numbers as texts write them: runs of decimal or hexadecimal digits with a bound on the value, whole
numbers with an optional plus sign, and the two printers.

A 64 bit word bounds the numbers of the protocol (`Numeral.word`); a status code has a bound of
16 bits.
-/

namespace Icap.Text

/-- One more than the greatest 64 bit number. -/
def word : Nat := UInt64.size

/-! ## Digits -/

/-- The value of a decimal digit. -/
def decimal? (c : Char) : Option Nat :=
  if '0' ≤ c ∧ c ≤ '9' then some (c.toNat - 48) else none

/-- The value of a hexadecimal digit of either case. -/
def hex? (c : Char) : Option Nat :=
  if '0' ≤ c ∧ c ≤ '9' then some (c.toNat - 48)
  else if 'a' ≤ c ∧ c ≤ 'f' then some (c.toNat - 87)
  else if 'A' ≤ c ∧ c ≤ 'F' then some (c.toNat - 55)
  else none

/-- The number that digits write in a base, the first digit weighing most. -/
def valueOf (base : Nat) (digits : List Nat) : Nat :=
  digits.foldl (fun n d => n * base + d) 0

/-- The run of digits that a list starts with. -/
def digitRun (digit? : Char → Option Nat) (cs : List Char) : List Char :=
  cs.takeWhile fun c => (digit? c).isSome

/-- What follows the run of digits that a list starts with. -/
def afterDigits (digit? : Char → Option Nat) (cs : List Char) : List Char :=
  cs.dropWhile fun c => (digit? c).isSome

/-- The number that the run of digits at the start of a list writes. -/
def leadingValue (base : Nat) (digit? : Char → Option Nat) (cs : List Char) : Nat :=
  valueOf base ((digitRun digit? cs).filterMap digit?)

theorem digitRun_append_afterDigits (digit? : Char → Option Nat) (cs : List Char) :
    digitRun digit? cs ++ afterDigits digit? cs = cs :=
  List.takeWhile_append_dropWhile

/-- A list that is a decimal numeral below `bound` and nothing else. -/
def wholeDecimal? (bound : Nat) (cs : List Char) : Option Nat :=
  let n := leadingValue 10 decimal? cs
  if cs ≠ [] ∧ afterDigits decimal? cs = [] ∧ n < bound then some n else none

/-! ## Whole numbers -/

/-- Why a text is no whole number. -/
inductive NumeralFault
  | empty
  | badDigit
  | tooLarge
  deriving DecidableEq, Repr

/-- The text of a fault. -/
def NumeralFault.message : NumeralFault → String
  | .empty => "cannot parse integer from empty string"
  | .badDigit => "invalid digit found in string"
  | .tooLarge => "number too large to fit in target type"

/-- Reads decimal digits onto the number `n`. The first character that is no digit or takes the
number to the bound decides the fault; a character that does both is a bad digit. -/
def readDecimal (bound n : Nat) : List Char → Except NumeralFault Nat
  | [] => .ok n
  | c :: cs =>
    match decimal? c with
    | none => .error .badDigit
    | some d => if n * 10 + d < bound then readDecimal bound (n * 10 + d) cs else .error .tooLarge

/-- The number below `bound` that a text writes in decimal, after a plus sign if it likes. -/
def readWhole (bound : Nat) (cs : List Char) : Except NumeralFault Nat :=
  match cs with
  | [] => .error .empty
  | ['+'] => .error .badDigit
  | '+' :: rest => readDecimal bound 0 rest
  | _ => readDecimal bound 0 cs

/-! ## Printing -/

/-- The digit of a value below sixteen, small letters from ten on. -/
def hexDigit (d : Nat) : Char :=
  if d < 10 then Char.ofNat (48 + d) else Char.ofNat (87 + d)

/-- The digits of a number in a base of at least two, in front of `tail`. -/
def digitsOnto (base : Nat) (h : 2 ≤ base) (n : Nat) (tail : List Char) : List Char :=
  if n < base then hexDigit n :: tail
  else digitsOnto base h (n / base) (hexDigit (n % base) :: tail)
termination_by n
decreasing_by exact Nat.div_lt_self (by omega) h

/-- A number in decimal. -/
def decimal (n : Nat) : String := String.ofList (digitsOnto 10 (by decide) n [])

/-- A number in hexadecimal, with small letters and no leading zero. -/
def hex (n : Nat) : String := String.ofList (digitsOnto 16 (by decide) n [])

example : hex 0 = "0" ∧ hex 255 = "ff" ∧ hex 4096 = "1000" := by
  refine ⟨?_, ?_, ?_⟩ <;> cbv
example : decimal 0 = "0" ∧ decimal 1344 = "1344" := by
  refine ⟨?_, ?_⟩ <;> cbv
example : readWhole word "+12".toList = .ok 12 := by cbv
example : readWhole word "99999999999999999999x".toList = .error .tooLarge := by cbv
example : readWhole word "9x999999999999999999999".toList = .error .badDigit := by cbv

end Icap.Text
