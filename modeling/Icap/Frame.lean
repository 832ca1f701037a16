import Icap.Failure
import Icap.Text.Numeral

/-!
# Frames

A frame gathers bytes until a delimiter ends them, over any number of reads. The part of the
delimiter that has been met at the end of the bytes so far is kept as a count, so that a delimiter
may be split between reads. Bytes after the delimiter stay where they are.

* `Frame.scan` — how far the search for the delimiter comes in the bytes at hand.
* `Frame.feed` — one read, with the limit on the size of what is gathered.
-/

namespace Icap

/-- The end of a line: a carriage return and a line feed. -/
def crlf : Bytes := [13, 10]

/-- The end of a head: the end of its last line and an empty line. -/
def blankLine : Bytes := [13, 10, 13, 10]

/-- Bytes gathered so far, of which the last `matched` ones may begin a delimiter. -/
structure Frame where
  line : Bytes := []
  matched : Nat := 0
  deriving DecidableEq, Repr, Inhabited

namespace Frame

/-! ## Searching -/

/-- The number of bytes of the delimiter that have been met after one byte more. -/
def advance (delimiter : Bytes) (matched : Nat) (b : UInt8) : Nat :=
  if delimiter[matched]? = some b then matched + 1
  else if delimiter.head? = some b then 1
  else 0

/-- How a search ends: after `taken` bytes, with `matched` bytes of the delimiter met. -/
structure Search where
  taken : Nat
  matched : Nat
  rest : Bytes
  found : Bool
  deriving DecidableEq, Repr

/-- Searches for the end of the delimiter, of which `matched` bytes have been met, in bytes that
stand `taken` bytes into the read. -/
def scan (delimiter : Bytes) (taken matched : Nat) : Bytes → Search
  | [] => ⟨taken, matched, [], false⟩
  | b :: rest =>
    let m := advance delimiter matched b
    if m = delimiter.length then ⟨taken + 1, m, rest, true⟩
    else scan delimiter (taken + 1) m rest

/-! ## Feeding -/

/-- What one read does to a frame and to the bytes of the read. -/
structure Fed where
  frame : Frame
  left : Bytes
  /-- Whether the delimiter is complete, or the limit that has been passed. -/
  outcome : Except ParseFault Bool

/-- The length of `gathered` bytes without the last `cut` ones. It is a 64 bit word: should more be
cut than has been gathered, it wraps around. -/
def lengthWithout (gathered cut : Nat) : Nat :=
  if cut ≤ gathered then gathered - cut else Text.word + gathered - cut

theorem lengthWithout_of_le {gathered cut : Nat} (h : cut ≤ gathered) :
    lengthWithout gathered cut = gathered - cut := by
  simp [lengthWithout, h]

@[simp] theorem lengthWithout_zero (gathered : Nat) : lengthWithout gathered 0 = gathered := by
  simp [lengthWithout]

/-- Gathers the bytes of a read up to the end of the delimiter, which is not kept. What is gathered
may not be longer than `limit`; if it is, neither the bytes gathered nor the read change. The bytes
of the delimiter that were met stay counted, so the delimiter can turn out longer than all that has
been gathered when the read is tried again. -/
def feed (f : Frame) (delimiter : Bytes) (limit : Nat) (buf : Bytes) : Fed :=
  let s := scan delimiter 0 f.matched buf
  let gathered := f.line.length + s.taken
  let length := lengthWithout gathered (if s.found then delimiter.length else 0)
  if limit < length then
    ⟨{ f with matched := s.matched }, buf, .error (.headerTooLarge limit)⟩
  else if s.found then ⟨⟨(f.line ++ buf).take (min gathered length), 0⟩, s.rest, .ok true⟩
  else ⟨⟨f.line ++ buf, s.matched⟩, s.rest, .ok false⟩

/-- Whether nothing has been gathered. -/
def isEmpty (f : Frame) : Bool := f.line.isEmpty

end Frame

end Icap
