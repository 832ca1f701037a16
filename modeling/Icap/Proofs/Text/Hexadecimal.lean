import Icap.Proofs.Head.Checked
import Icap.Proofs.Text.Printed
import Icap.Text.Letter

/-!
# Hexadecimal numerals

A numeral is a run of digits of either case, at least one, and zeros in front do not change the
number that it spells. Where a text begins with one, a reader of its bytes finds the digits one by
one. The number that they spell may outgrow the 64 bits that there are for it; the digits behind are
part of the run all the same.

* `spells_iff` — the numerals of a number.
* `spells_of_foldCase_eq` — a number as it is printed, with zeros and in letters of either case.
* `IsHexReader` — what is asked of a reader of numbers, and `readHex`, which is one.
* `IsHexReader.length_encodeChars`, `IsHexReader.number_encodeChars` — what it finds in a text.
-/

namespace Icap.Text

variable {d k n : Nat} {c : Char} {cs : List Char} {b : UInt8} {w : UInt64}
  {reader : Bytes → Option UInt64 × Nat}

/-! ## Digits -/

/-- **The digits** are those of the printer, and their capitals. -/
theorem hex?_eq_some_iff : hex? c = some d ↔ IsHexDigit c d := by
  have small : ∀ k < 0x80, ∀ d ∈ hex? (Char.ofNat k),
      d < 16 ∧ (Char.ofNat k = hexDigit d ∨ Char.ofNat k = (hexDigit d).toUpper) := by
    decide
  constructor
  · intro h
    have hc := toNat_lt_of_hex? (c := c) (by simp [h])
    have digit := small c.toNat hc d
    rw [Char.ofNat_toNat] at digit
    exact digit h
  · exact IsHexDigit.hex?_eq

/-- A letter is a digit of the same value in either case. -/
theorem hex?_toLower (c : Char) : hex? c.toLower = hex? c := by
  have small : ∀ k < 0x80, hex? (Char.ofNat k).toLower = hex? (Char.ofNat k) := by decide
  by_cases hc : c.toNat < 0x80
  · have same := small c.toNat hc
    rwa [Char.ofNat_toNat] at same
  · -- other characters have one case only
    have hcase : ¬(c.val ≥ 'A'.val ∧ c.val ≤ 'Z'.val) := by
      intro capital
      exact hc (Nat.lt_of_le_of_lt (show c.toNat ≤ 90 from capital.2) (by decide))
    have same : c.toLower = c := dif_neg hcase
    rw [same]

/-! ## Numerals -/

/-- **The numerals of a number** are runs of digits, at least one, that have it for their value. -/
theorem spells_iff : Spells cs n ↔
    cs ≠ [] ∧ (∀ c ∈ cs, (hex? c).isSome = true) ∧ valueOf 16 (cs.filterMap hex?) = n := by
  constructor
  · intro h
    exact ⟨h.ne_nil, h.isSome_hex?, h.valueOf_eq⟩
  · rintro ⟨nonempty, isDigit, rfl⟩
    refine spells_valueOf nonempty fun c hc => ?_
    obtain ⟨d, hd⟩ := Option.isSome_iff_exists.mp (isDigit c hc)
    exact ⟨d, hex?_eq_some_iff.mp hd⟩

/-- The digits that a text begins with spell their value. -/
theorem spells_digitRun (h : digitRun hex? cs ≠ []) :
    Spells (digitRun hex? cs) (leadingValue 16 hex? cs) :=
  spells_iff.mpr ⟨h, fun _ => isSome_of_mem_digitRun, rfl⟩

theorem valueOf_zeros_append (base k : Nat) (ds : List Nat) :
    valueOf base (List.replicate k 0 ++ ds) = valueOf base ds := by
  induction k with
  | zero => rfl
  | succ k ih =>
    rw [← ih, List.replicate_succ, List.cons_append, valueOf, List.foldl_cons, Nat.zero_mul]
    rfl

/-- Zeros in front do not change a number. -/
theorem Spells.zeros_append (h : Spells cs n) (k : Nat) :
    Spells (List.replicate k '0' ++ cs) n := by
  have zero : hex? '0' = some 0 := by decide
  obtain ⟨nonempty, isDigit, value⟩ := spells_iff.mp h
  refine spells_iff.mpr ⟨by simp [nonempty], ?_, ?_⟩
  · rw [List.forall_mem_append]
    refine ⟨fun c hc => ?_, isDigit⟩
    rw [List.eq_of_mem_replicate hc, zero]
    rfl
  · rw [List.filterMap_append, List.filterMap_replicate_of_some zero, valueOf_zeros_append, value]

/-- Nor does the case of letters. -/
theorem spells_foldCase_iff : Spells (foldCase cs) n ↔ Spells cs n := by
  have same : (foldCase cs).filterMap hex? = cs.filterMap hex? := by
    rw [foldCase, List.filterMap_map]
    exact List.filterMap_congr fun c _ => hex?_toLower c
  rw [spells_iff, spells_iff, same]
  simp [foldCase, hex?_toLower]

/-- **A number as it is printed,** zeros in front and letters of either case, is a numeral of the
number. -/
theorem spells_of_foldCase_eq (h : foldCase cs = List.replicate k '0' ++ (hex n).toList) :
    Spells cs n := by
  rw [← spells_foldCase_iff, h]
  exact (spells_hex n).zeros_append k

/-! ## Numbers of 64 bits -/

/-- A number with a digit more, where neither the product nor the sum outgrows 64 bits. -/
def push? (w : UInt64) (d : Nat) : Option UInt64 := do
  let shifted ← word? (w.toNat * 16)
  word? (shifted.toNat + d)

/-- **A number that has outgrown 64 bits** does not come back to them with a digit more, and others
are carried on as they are. -/
theorem word?_bind_push? (n d : Nat) :
    ((word? n).bind fun w => push? w d) = word? (n * 16 + d) := by
  by_cases fits : n < word
  · obtain ⟨w, eq, number⟩ := exists_word?_of_lt fits
    rw [eq, Option.bind_some, push?, number]
    by_cases shifted : n * 16 < word
    · obtain ⟨w', eq', product⟩ := exists_word?_of_lt shifted
      rw [eq', Option.bind_eq_bind, Option.bind_some, product]
    · rw [word?_of_le (Nat.not_lt.mp shifted), word?_of_le (by omega)]
      rfl
  · rw [word?_of_le (Nat.not_lt.mp fits), word?_of_le (by omega)]
    rfl

/-! ## Bytes -/

/-- The value of the hexadecimal digit that a byte is. -/
def hexByte? (b : UInt8) : Option Nat := hex? (Char.ofNat b.toNat)

/-- The run of digits that bytes begin with. -/
def hexRun (bytes : Bytes) : Bytes := bytes.takeWhile fun b => (hexByte? b).isSome

/-- What is asked of a reader of numbers: it counts the digits that the bytes begin with, and finds
the number that they write, if this has 64 bits. -/
structure IsHexReader (reader : Bytes → Option UInt64 × Nat) : Prop where
  length : ∀ bytes, (reader bytes).2 = (hexRun bytes).length
  number : ∀ bytes w,
    (reader bytes).1 = some w ↔ w.toNat = valueOf 16 ((hexRun bytes).filterMap hexByte?)

/-- Reads digits onto a number, after `count` digits. The first byte that is none ends the run. -/
def readHexOnto (number : Option UInt64) (count : Nat) : Bytes → Option UInt64 × Nat
  | [] => (number, count)
  | b :: more =>
    match hexByte? b with
    | none => (number, count)
    | some d => readHexOnto (number.bind fun w => push? w d) (count + 1) more

/-- Reads the number that bytes begin with, digit by digit. -/
def readHex (bytes : Bytes) : Option UInt64 × Nat := readHexOnto (some 0) 0 bytes

theorem hexRun_cons_of_none (h : hexByte? b = none) (more : Bytes) : hexRun (b :: more) = [] :=
  List.takeWhile_cons_of_neg (by simp [h])

theorem hexRun_cons_of_some (h : hexByte? b = some d) (more : Bytes) :
    hexRun (b :: more) = b :: hexRun more :=
  List.takeWhile_cons_of_pos (by simp [h])

/-- Digits are read onto a number as long as it has 64 bits, and counted to the end of the run. -/
theorem readHexOnto_eq (bytes : Bytes) (n count : Nat) :
    readHexOnto (word? n) count bytes =
      (word? (((hexRun bytes).filterMap hexByte?).foldl (fun n d => n * 16 + d) n),
        count + (hexRun bytes).length) := by
  -- what is carried is the value of the digits so far, or nothing once it has outgrown 64 bits
  induction bytes generalizing n count with
  | nil => rfl
  | cons b more ih =>
    rw [readHexOnto]
    cases hb : hexByte? b with
    | none => simp [hexRun_cons_of_none hb]
    | some d =>
      simp only [hexRun_cons_of_some hb, List.filterMap_cons_some hb, List.foldl_cons,
        List.length_cons]
      rw [word?_bind_push?, ih, Nat.add_assoc, Nat.add_comm 1]

/-- **Reading digit by digit** finds the number of the run. -/
theorem isHexReader_readHex : IsHexReader readHex := by
  have whole (bytes : Bytes) : readHex bytes =
      (word? (valueOf 16 ((hexRun bytes).filterMap hexByte?)), 0 + (hexRun bytes).length) :=
    readHexOnto_eq bytes 0 0
  constructor
  · intro bytes
    rw [whole, Nat.zero_add]
  · intro bytes w
    rw [whole, word?_eq_some_iff]

/-! ## Texts -/

/-- A byte is the number of a character. -/
theorem toNat_ofNat_byte (b : UInt8) : (Char.ofNat b.toNat).toNat = b.toNat := by
  have valid : b.toNat.isValidChar := .inl (Nat.lt_trans b.toNat_lt (by decide))
  have char : Char.ofNat b.toNat = Char.ofNatAux b.toNat valid := dif_pos valid
  rw [char]
  rfl

/-- A byte of a character that is no digit is none either. -/
theorem hexByte?_of_mem_encodeChar (hc : hex? c = none) (hb : b ∈ Utf8.encodeChar c) :
    hexByte? b = none := by
  rw [hexByte?]
  by_contra digit
  have small := toNat_lt_of_hex? (Option.isSome_iff_ne_none.mpr digit)
  rw [toNat_ofNat_byte] at small
  have char : Char.ofNat b.toNat ∈ [c] :=
    Utf8.mem_of_mem_encodeChars small (by simpa using hb)
  rw [List.mem_singleton.mp char] at digit
  exact digit hc

theorem hexByte?_ofNat (small : c.toNat < 0x80) : hexByte? (UInt8.ofNat c.toNat) = hex? c := by
  rw [hexByte?, Utf8.toNat_ofNat_of_lt (Nat.lt_trans small (by decide)), Char.ofNat_toNat]

/-- **The digits that the bytes of a text begin with** are the bytes of those that the text begins
with. -/
theorem hexRun_encodeChars (cs : List Char) :
    hexRun (Utf8.encodeChars cs) = Utf8.encodeChars (digitRun hex? cs) := by
  induction cs with
  | nil => rfl
  | cons c cs ih =>
    rw [Utf8.encodeChars_cons, digitRun]
    cases hc : hex? c with
    | none =>
      obtain ⟨first, more, bytes⟩ := List.exists_cons_of_ne_nil (Utf8.encodeChar_ne_nil c)
      have hfirst : hexByte? first = none := hexByte?_of_mem_encodeChar hc (by simp [bytes])
      rw [bytes, List.cons_append, hexRun_cons_of_none hfirst,
        List.takeWhile_cons_of_neg (by simp [hc])]
      rfl
    | some d =>
      have small := toNat_lt_of_hex? (c := c) (by simp [hc])
      have hbyte := (hexByte?_ofNat small).trans hc
      rw [Utf8.encodeChar_of_lt small, List.singleton_append, hexRun_cons_of_some hbyte, ih,
        List.takeWhile_cons_of_pos (by simp [hc]), Utf8.encodeChars_cons,
        Utf8.encodeChar_of_lt small]
      rfl

/-- The bytes of digits have the values of the digits. -/
theorem filterMap_encodeChars (isDigit : ∀ c ∈ cs, (hex? c).isSome = true) :
    (Utf8.encodeChars cs).filterMap hexByte? = cs.filterMap hex? := by
  induction cs with
  | nil => rfl
  | cons c cs ih =>
    obtain ⟨first, others⟩ := List.forall_mem_cons.mp isDigit
    have small := toNat_lt_of_hex? first
    rw [Utf8.encodeChars_cons, Utf8.encodeChar_of_lt small, List.singleton_append,
      List.filterMap_cons, List.filterMap_cons, hexByte?_ofNat small, ih others]

namespace IsHexReader

/-- In a text a reader counts the digits that the text begins with. -/
theorem length_encodeChars (h : IsHexReader reader) (cs : List Char) :
    (reader (Utf8.encodeChars cs)).2 = (digitRun hex? cs).length := by
  rw [h.length, hexRun_encodeChars]
  exact byteLength_digitRun (fun _ => toNat_lt_of_hex?) cs

/-- In a text a reader finds the value of these digits. -/
theorem number_encodeChars (h : IsHexReader reader) (cs : List Char) (w : UInt64) :
    (reader (Utf8.encodeChars cs)).1 = some w ↔ w.toNat = leadingValue 16 hex? cs := by
  rw [h.number, hexRun_encodeChars, filterMap_encodeChars fun _ => isSome_of_mem_digitRun]
  rfl

end IsHexReader

end Icap.Text
