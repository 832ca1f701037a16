/-!
# UTF-8

Bytes, and the text that they spell.

* `Utf8.encode` writes a text, one to four bytes for each character.
* `Utf8.decode` reads bytes back, one byte at a time, and says where and how they stop being
  UTF-8.

Both work with the numbers that the bytes hold and need no bit operation, so that what they do to
one character is a fact of linear arithmetic.
-/

namespace Icap

/-- A string of bytes as it travels on a connection. -/
abbrev Bytes := List UInt8

namespace Utf8

/-! ## Writing -/

/-- The bytes of one character. -/
def encodeChar (c : Char) : Bytes :=
  let n := c.toNat
  if n < 0x80 then [UInt8.ofNat n]
  else if n < 0x800 then
    [UInt8.ofNat (0xC0 + n / 64), UInt8.ofNat (0x80 + n % 64)]
  else if n < 0x10000 then
    [UInt8.ofNat (0xE0 + n / 4096), UInt8.ofNat (0x80 + n / 64 % 64), UInt8.ofNat (0x80 + n % 64)]
  else
    [UInt8.ofNat (0xF0 + n / 262144), UInt8.ofNat (0x80 + n / 4096 % 64),
      UInt8.ofNat (0x80 + n / 64 % 64), UInt8.ofNat (0x80 + n % 64)]

/-- The bytes of a list of characters. -/
def encodeChars (cs : List Char) : Bytes := cs.flatMap encodeChar

/-- The bytes of a text. -/
def encode (s : String) : Bytes := encodeChars s.toList

@[simp] theorem encodeChars_nil : encodeChars [] = [] := rfl

@[simp] theorem encodeChars_cons (c : Char) (cs : List Char) :
    encodeChars (c :: cs) = encodeChar c ++ encodeChars cs := rfl

@[simp] theorem encodeChars_append (a b : List Char) :
    encodeChars (a ++ b) = encodeChars a ++ encodeChars b := by
  simp [encodeChars]

@[simp] theorem encode_append (s t : String) : encode (s ++ t) = encode s ++ encode t := by
  simp [encode]

/-! ## Reading -/

/-- Where bytes stop being UTF-8: the index of the first byte of the character that fails, and the
number of its bytes that could still have been one, unless the bytes end inside the character. -/
structure Fault where
  index : Nat
  length : Option Nat
  deriving DecidableEq, Repr

/-- The text of a fault. -/
def Fault.message (f : Fault) : String :=
  match f.length with
  | some n =>
    "invalid utf-8 sequence of " ++ toString n ++ " bytes from index " ++ toString f.index
  | none => "incomplete utf-8 byte sequence from index " ++ toString f.index

/-- A character that has been read in part: `seen` bytes of it hold the number `code`, `owed` more
must follow, and the next of them lies between `low` and `high`. -/
structure Partial where
  owed : Nat
  low : Nat
  high : Nat
  code : Nat
  seen : Nat
  deriving DecidableEq, Repr

/-- What the first byte of a character of two or more bytes announces. Bytes that could only begin
a character spelled too long, a surrogate or a number above the last character are ruled out by
the bounds on the byte after them. -/
def lead? (b : Nat) : Option Partial :=
  if 0xC2 ≤ b ∧ b ≤ 0xDF then some ⟨1, 0x80, 0xBF, b - 0xC0, 1⟩
  else if b = 0xE0 then some ⟨2, 0xA0, 0xBF, 0, 1⟩
  else if b = 0xED then some ⟨2, 0x80, 0x9F, 0xD, 1⟩
  else if 0xE1 ≤ b ∧ b ≤ 0xEF then some ⟨2, 0x80, 0xBF, b - 0xE0, 1⟩
  else if b = 0xF0 then some ⟨3, 0x90, 0xBF, 0, 1⟩
  else if b = 0xF4 then some ⟨3, 0x80, 0x8F, 4, 1⟩
  else if 0xF1 ≤ b ∧ b ≤ 0xF3 then some ⟨3, 0x80, 0xBF, b - 0xF0, 1⟩
  else none

/-- Reads on from the byte at `index`, inside the character `open?` if there is one. The
characters read so far are in `done`, the last one first. -/
def decodeFrom (index : Nat) (done : List Char) (open? : Option Partial) :
    Bytes → Except Fault (List Char)
  | [] =>
    match open? with
    | none => .ok done.reverse
    | some p => .error ⟨index - p.seen, none⟩
  | b :: rest =>
    match open? with
    | none =>
      if b.toNat < 0x80 then decodeFrom (index + 1) (Char.ofNat b.toNat :: done) none rest
      else
        match lead? b.toNat with
        | some p => decodeFrom (index + 1) done (some p) rest
        | none => .error ⟨index, some 1⟩
    | some p =>
      if p.low ≤ b.toNat ∧ b.toNat ≤ p.high then
        let code := p.code * 64 + (b.toNat - 0x80)
        if p.owed ≤ 1 then decodeFrom (index + 1) (Char.ofNat code :: done) none rest
        else decodeFrom (index + 1) done (some ⟨p.owed - 1, 0x80, 0xBF, code, p.seen + 1⟩) rest
      else .error ⟨index - p.seen, some p.seen⟩

/-- The characters that bytes spell. -/
def decodeChars (bs : Bytes) : Except Fault (List Char) := decodeFrom 0 [] none bs

/-- The text that bytes spell. -/
def decode (bs : Bytes) : Except Fault String := (decodeChars bs).map String.ofList

@[simp] theorem decodeChars_nil : decodeChars [] = .ok [] := rfl

example : decode (encode "aé測😀") = .ok "aé測😀" := by cbv
example : decode [0x61, 0xC3] = .error ⟨1, none⟩ := by cbv
example : decode [0x61, 0xE2, 0x82, 0x61] = .error ⟨1, some 2⟩ := by cbv
example : decode [0xED, 0xA0, 0x80] = .error ⟨0, some 1⟩ := by cbv

end Utf8

end Icap
