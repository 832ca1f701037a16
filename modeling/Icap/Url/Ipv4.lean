import Icap.Text.Numeral

/-!
# IPv4 addresses

The text form of an IPv4 address inside a URL: one to four numbers between points, each decimal,
octal after a zero, or hexadecimal after `0x`. All but the last number are one byte each; the last
one fills the bytes that are left.

A host whose last label is such a number has to be an address.
-/

namespace Icap

namespace Ipv4

open Text

/-- The value of an octal digit. -/
def octal? (c : Char) : Option Nat := (decimal? c).filter (· < 8)

/-- The number that digits and nothing else write; no digits write zero. -/
def whole? (base : Nat) (digit? : Char → Option Nat) (cs : List Char) : Option Nat :=
  if afterDigits digit? cs = [] then some (leadingValue base digit? cs) else none

/-- A number of an address. -/
def number? : List Char → Option Nat
  | [] => none
  | '0' :: 'x' :: digits | '0' :: 'X' :: digits => whole? 16 hex? digits
  | '0' :: d :: digits => whole? 8 octal? (d :: digits)
  | digits => whole? 10 decimal? digits

/-- Labels without an empty one at the end. -/
def dropRoot (labels : List (List Char)) : List (List Char) :=
  if labels.getLast? = some [] then labels.dropLast else labels

/-- Whether a host with these labels has to be an address: the last of them is a number, or would
be one if its digits were right. -/
def endsInNumber (labels : List (List Char)) : Bool :=
  match (dropRoot labels).getLast? with
  | none | some [] => false
  | some last => afterDigits decimal? last == [] || (number? last).isSome

/-- The address of numbers. -/
def ofNumbers? (numbers : List Nat) : Option Nat :=
  let bytes := numbers.dropLast
  let last := numbers.getLast?.getD 0
  if numbers.length ≤ 4 ∧ (∀ b ∈ bytes, b < 256) ∧ last < 1 <<< (8 * (4 - bytes.length)) then
    some (valueOf 256 bytes <<< (8 * (4 - bytes.length)) + last)
  else none

/-- The address that labels write. -/
def read? (labels : List (List Char)) : Option Nat :=
  ((dropRoot labels).mapM number?).bind ofNumbers?

/-- The text of an address. -/
def print (address : Nat) : String :=
  String.intercalate "." ([16777216, 65536, 256, 1].map fun unit => decimal (address / unit % 256))

example : (read? ["0x7f".toList, "1".toList]).map print = some "127.0.0.1" := by cbv
example : read? ["1".toList, "2".toList, "3".toList, "256".toList] = none := by cbv
example : endsInNumber ["a".toList, "09".toList, []] = true := by cbv

end Ipv4

end Icap
