import Icap.Failure
import Icap.Text.Blank
import Icap.Text.Numeral

/-!
# Chunk sizes

The line in front of a chunk: its size in hexadecimal, and after a semicolon an extension.
-/

namespace Icap

open Text

/-- What the line in front of a chunk says. -/
structure ChunkSize where
  size : Nat
  extension : Option String
  deriving DecidableEq, Repr

/-- Reads the line in front of a chunk, without its line end. -/
def ChunkSize.read (line : List Char) : Except LineFault ChunkSize :=
  let size := leadingValue 16 hex? line
  if digitRun hex? line = [] ∨ word ≤ size then .error .chunkSize
  else
    match afterDigits hex? line with
    | [] => .ok ⟨size, none⟩
    | ';' :: extension => .ok ⟨size, some (String.ofList (trimChars extension))⟩
    | _ => .error .chunkSize

end Icap
