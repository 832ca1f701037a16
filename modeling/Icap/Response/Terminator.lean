import Icap.Text.Utf8

/-!
# The end of a chunked body

A body of one chunk ends with the end of the chunk, a chunk of size zero and an empty line. A
response counts as complete without those bytes, so they may arrive late; what is still owed of
them is a number, and `Terminator.skip` drops them from the bytes that come next.
-/

namespace Icap.Terminator

/-- What ends a body of one chunk. -/
def bytes : Bytes := [13, 10, 48, 13, 10, 13, 10]

/-- The last `owed` bytes of the terminator. -/
def rest (owed : Nat) : Bytes := bytes.drop (bytes.length - owed)

/-- The number of bytes that two strings have in common at their start. -/
def common : Bytes → Bytes → Nat
  | a :: as, b :: bs => if a = b then common as bs + 1 else 0
  | _, _ => 0

/-- What is owed once bytes have arrived, and what remains of those bytes. A terminator that other
bytes interrupt is given up. -/
def skip (owed : Nat) (buf : Bytes) : Nat × Bytes :=
  let n := common (rest owed) buf
  (if n = buf.length then (rest owed).length - n else 0, buf.drop n)

theorem length_rest_le (owed : Nat) : (rest owed).length ≤ 7 := by
  simp [rest, bytes]

theorem skip_le (owed : Nat) (buf : Bytes) : (skip owed buf).1 ≤ 7 := by
  have := length_rest_le owed
  simp only [skip]
  split <;> omega

@[simp] theorem rest_zero : rest 0 = [] := rfl

end Icap.Terminator
