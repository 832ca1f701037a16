import Icap.Text.Utf8
import Icap.Text.Numeral

/-!
# Percent escapes

A URL writes a character that its part does not allow as the percent escapes of the character's
bytes. Each part of a URL has its own set of characters to escape; all of them escape controls and
everything beyond ASCII.
-/

namespace Icap.Url

open Text

/-- A hexadecimal digit in capital letters. -/
def capitalDigit (d : Nat) : Char := if d < 10 then Char.ofNat (48 + d) else Char.ofNat (55 + d)

/-- The escape of a byte. -/
def escapeByte (b : UInt8) : List Char :=
  ['%', capitalDigit (b.toNat / 16), capitalDigit (b.toNat % 16)]

/-- A character as a part of a URL writes it, where `reserved` holds the printable ASCII characters
that the part escapes. -/
def escapeChar (reserved : List Char) (c : Char) : List Char :=
  if c.toNat < 0x20 ∨ 0x7F ≤ c.toNat ∨ c ∈ reserved then (Utf8.encodeChar c).flatMap escapeByte
  else [c]

/-- A text as a part of a URL writes it. -/
def escape (reserved : List Char) (cs : List Char) : List Char := cs.flatMap (escapeChar reserved)

/-- What a fragment escapes: blank, quotation marks, angle brackets and the grave accent. -/
def fragmentReserved : List Char := [' ', '"', '<', '>', '\x60']

/-- What a path escapes. -/
def pathReserved : List Char := fragmentReserved ++ ['#', '?', '{', '}']

/-- What a query escapes. -/
def queryReserved : List Char := [' ', '"', '#', '<', '>']

/-- The bytes of a text whose escapes are undone. A percent sign that begins no escape stands for
itself. -/
def unescape : List Char → Bytes
  | [] => []
  | '%' :: a :: b :: cs =>
    match hex? a, hex? b with
    | some m, some n => UInt8.ofNat (m * 16 + n) :: unescape cs
    | _, _ => Utf8.encodeChar '%' ++ unescape (a :: b :: cs)
  | c :: cs => Utf8.encodeChar c ++ unescape cs

example : unescape "%41%4".toList = Utf8.encode "A%4" := by cbv
example : escape pathReserved "a é".toList = "a%20%C3%A9".toList := by cbv

end Icap.Url
