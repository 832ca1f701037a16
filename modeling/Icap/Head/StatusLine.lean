import Icap.Failure
import Icap.Text.Blank
import Icap.Text.Pieces
import Icap.Text.Numeral

/-!
# Status lines

The first line of a response: a protocol version, a code of three digits and a reason. The same
form serves ICAP and the HTTP response that an ICAP response may carry; they differ in the
versions that they accept, and only an ICAP status line has a least length.
-/

namespace Icap

open Text

/-- What a status line says. -/
structure StatusLine where
  code : Nat
  reason : String
  deriving DecidableEq, Repr

namespace StatusLine

/-- The protocol version of ICAP. -/
def icapVersion : String := "ICAP/1.0"

/-- The protocol versions of HTTP. -/
def httpVersions : List String := ["HTTP/1.0", "HTTP/1.1"]

/-- The least length of an ICAP status line in bytes: a version, a blank and a code. -/
def leastLength : Nat := 12

/-- Reads what follows the version: blanks, exactly three digits, and then the end or a space. -/
def readCode (cs : List Char) : Except LineFault StatusLine :=
  let cs := trimStart cs
  if (digitRun decimal? cs).length = 3 then
    match afterDigits decimal? cs with
    | [] => .ok ⟨leadingValue 10 decimal? cs, ""⟩
    | ' ' :: reason =>
      .ok ⟨leadingValue 10 decimal? cs, String.ofList (trimChars (' ' :: reason))⟩
    | _ => .error .statusCode
  else .error .statusCode

/-- Reads the first line of an ICAP response. -/
def readIcap (line : String) : Except LineFault StatusLine :=
  if (Utf8.encode line).length < leastLength then .error .tooShort
  else
    match cutAt? ' ' line.toList with
    | none => .error (.noDelimiter ' ')
    | some (version, rest) =>
      if version = icapVersion.toList then readCode rest else .error .icapVersion

/-- Reads the first line of an HTTP response. -/
def readHttp (line : String) : Except LineFault StatusLine :=
  match cutAt? ' ' line.toList with
  | none => .error (.noDelimiter ' ')
  | some (version, rest) =>
    if httpVersions.contains (String.ofList version) then readCode rest else .error .httpVersion

end StatusLine

end Icap
