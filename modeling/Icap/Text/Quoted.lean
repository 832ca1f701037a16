import Icap.Text.Numeral
import Icap.Unicode.Mark
import Icap.Unicode.Unassigned

/-!
# Quoted texts

A text in quotation marks, as diagnostics show it. Quotation marks and backslashes are escaped, and
so is what a reader would not see by itself: controls, blanks other than the space, format
characters, code points without a character, the fillers of Hangul, and the marks that combine with
the character before them.
-/

namespace Icap.Text

open Unicode

/-- Controls, format characters and blanks. -/
def formatting : Ranges :=
  [(0x0, 0x20), (0x7F, 0xA0), (0xAD, 0xAD), (0x600, 0x605), (0x61C, 0x61C), (0x6DD, 0x6DD),
   (0x70F, 0x70F), (0x890, 0x891), (0x8E2, 0x8E2), (0x1680, 0x1680), (0x180E, 0x180E),
   (0x2000, 0x200F), (0x2028, 0x202F), (0x205F, 0x2064), (0x2066, 0x206F), (0x3000, 0x3000),
   (0xFEFF, 0xFEFF), (0xFFF9, 0xFFFB), (0x110BD, 0x110BD), (0x110CD, 0x110CD), (0x13430, 0x1343F),
   (0x1BCA0, 0x1BCA3), (0x1D173, 0x1D17A), (0xE0001, 0xE0001), (0xE0020, 0xE007F)]

/-- Letters of Hangul that fill a place and show nothing. -/
def fillers : Ranges := [(0x115F, 0x1160), (0x3164, 0x3164), (0xFFA0, 0xFFA0)]

/-- Whether a character shows by itself. -/
def isSeen (c : Char) : Bool :=
  c == ' ' || !([formatting, fillers, nonspacing, extending, unassigned].any (·.covers c))

/-- A character between quotation marks. -/
def quotedChar (c : Char) : String :=
  if c = '"' then "\\\""
  else if c = '\\' then "\\\\"
  else if c = '\n' then "\\n"
  else if c = '\r' then "\\r"
  else if c = '\t' then "\\t"
  else if c = '\x00' then "\\0"
  else if isSeen c then c.toString
  else "\\u\x7b" ++ hex c.toNat ++ "\x7d"

/-- A text in quotation marks. -/
def quoted (s : String) : String := "\"" ++ String.join (s.toList.map quotedChar) ++ "\""

example : formatting.ascending = true := by decide +kernel

end Icap.Text
