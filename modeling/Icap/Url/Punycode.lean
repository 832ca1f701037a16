import Icap.Text.Numeral

/-!
# Punycode

The reader of Punycode, which spells a text in ASCII: the ASCII characters of the text come first,
then a hyphen if there are any, then a number for each of the other characters. A number says how
far the reader goes on from one place in the text to the next, and from one character to the next
when it comes to the end of the text.

Numbers have digits of 36 values, the lowest first, and end with the first digit that lies below a
threshold. Thresholds follow a bias that is adapted to the numbers read so far. All numbers are
bounded by a word of 32 bits.
-/

namespace Icap.Url.Punycode

open Text

/-- One more than the greatest number. -/
def halfWord : Nat := UInt32.size

/-- The value of a digit: letters of either case, then decimal digits. -/
def digit? (c : Char) : Option Nat :=
  if 'a' ≤ c ∧ c ≤ 'z' then some (c.toNat - 97)
  else if 'A' ≤ c ∧ c ≤ 'Z' then some (c.toNat - 65)
  else (decimal? c).map (26 + ·)

/-- The threshold of a digit at the position `k`, which counts in steps of 36. -/
def threshold (bias k : Nat) : Nat := max 1 (min 26 (k - bias))

/-! ## Bias -/

/-- How often a number has to be divided by 35 to get below 456, in steps of 36 onto `k`, and what
is left of it. -/
def scaledDown (n k : Nat) : Nat × Nat :=
  if 455 < n then scaledDown (n / 35) (k + 36) else (n, k)
termination_by n
decreasing_by omega

/-- The bias after a number by which a text has grown to `length` characters. The first number is
damped more than the others. -/
def adapted (n length : Nat) (isFirst : Bool) : Nat :=
  let damped := if isFirst then n / 700 else n / 2
  let (left, k) := scaledDown (damped + damped / length) 0
  k + 36 * left / (left + 38)

/-! ## Numbers -/

/-- Reads a number onto `n`, from the digit at position `k` with this weight on. -/
def readNumber (bias k weight n : Nat) : List Char → Option (Nat × List Char)
  | [] => none
  | c :: cs =>
    match digit? c with
    | none => none
    | some d =>
      if halfWord ≤ n + d * weight then none
      else if d < threshold bias k then some (n + d * weight, cs)
      else if halfWord ≤ weight * (36 - threshold bias k) then none
      else readNumber bias (k + 36) (weight * (36 - threshold bias k)) (n + d * weight) cs

theorem length_lt_of_readNumber {bias k weight n m : Nat} {cs rest : List Char}
    (h : readNumber bias k weight n cs = some (m, rest)) : rest.length < cs.length := by
  induction cs generalizing k weight n with
  | nil => simp [readNumber] at h
  | cons c cs ih =>
    rw [readNumber] at h
    split at h
    · simp at h
    · split at h
      · simp at h
      · split at h
        · obtain ⟨-, rfl⟩ := Prod.mk.inj (Option.some.inj h)
          simp
        · split at h
          · simp at h
          · exact Nat.lt_succ_of_lt (ih h)

/-! ## Texts -/

/-- Where a reader is: the text so far, the place for the next character, and the code point from
which it goes on. -/
structure Place where
  text : List Char
  index : Nat
  code : Nat
  bias : Nat

/-- Puts characters into the text of a place. -/
def insertFrom (p : Place) (cs : List Char) : Option (List Char) :=
  if cs = [] then some p.text
  else
    match _h : readNumber p.bias 36 1 p.index cs with
    | none => none
    | some (n, rest) =>
      let length := p.text.length + 1
      let code := p.code + n / length
      if code.isValidChar then
        insertFrom ⟨p.text.insertIdx (n % length) (Char.ofNat code), n % length + 1, code,
          adapted (n - p.index) length (p.index = 0)⟩ rest
      else none
termination_by cs.length
decreasing_by exact length_lt_of_readNumber _h

/-- What stands before and after the last hyphen. A hyphen with nothing before it is a digit, and
a bad one. -/
def cutAtHyphen (cs : List Char) : List Char × List Char :=
  match cs.reverse.dropWhile (· != '-') with
  | _ :: c :: before => ((c :: before).reverse, (cs.reverse.takeWhile (· != '-')).reverse)
  | _ => ([], cs)

/-- The text that Punycode spells. -/
def read? (cs : List Char) : Option (List Char) :=
  let (ascii, numbers) := cutAtHyphen cs
  if ascii.all (·.toNat < 0x80) then insertFrom ⟨ascii, 0, 0x80, 72⟩ numbers else none

example : read? "mnchen-3ya".toList = some "münchen".toList := by cbv
example : read? "fiqs8s".toList = some "中国".toList := by cbv
example : read? "-fiqs8s".toList = none := by cbv

end Icap.Url.Punycode
