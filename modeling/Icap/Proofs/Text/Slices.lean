import Icap.Proofs.Text.Cuts
import Icap.Proofs.Text.Utf8

/-!
# Checked slices

Bytes and texts as they lie in memory: a part is taken by its positions, which count bytes. Nothing
is behind the last position, and a text cannot be cut inside a character, which may have several
bytes. The functions here are `none` in these cases, and so are those elsewhere that are built from
them, called checked: each does what its namesake does, but by positions.

* `less?`, `front?`, `behind?`, `slice?` — numbers and lists.
* `cutAtByte?` — texts; `cutAtByte?_eq_some_iff` says where they can be cut.
* `findIdx?_encodeChars_of_cutAt?` — the position of a character that is a byte.
* `excerptChecked` — the first characters of a text by their position.
-/

namespace Icap.Text

variable {α : Type} {a b cs : List Char} {c : Char} {n m : Nat} {xs : List α}

/-! ## Numbers and lists -/

/-- A number less another one, which must not be greater. -/
def less? (n m : Nat) : Option Nat := if m ≤ n then some (n - m) else none

/-- What stands in front of a position in a list. -/
def front? (xs : List α) (n : Nat) : Option (List α) :=
  if n ≤ xs.length then some (xs.take n) else none

/-- What stands behind a position in a list. -/
def behind? (xs : List α) (n : Nat) : Option (List α) :=
  if n ≤ xs.length then some (xs.drop n) else none

/-- What stands between two positions in a list. -/
def slice? (xs : List α) (n m : Nat) : Option (List α) := do behind? (← front? xs m) n

theorem less?_of_le (h : m ≤ n) : less? n m = some (n - m) := if_pos h

theorem less?_of_lt (h : n < m) : less? n m = none := if_neg (Nat.not_le.mpr h)

theorem front?_of_le (h : n ≤ xs.length) : front? xs n = some (xs.take n) := if_pos h

theorem behind?_of_le (h : n ≤ xs.length) : behind? xs n = some (xs.drop n) := if_pos h

theorem slice?_of_le (h : n ≤ m) (h' : m ≤ xs.length) :
    slice? xs n m = some ((xs.drop n).take (m - n)) := by
  rw [slice?, front?_of_le h', Option.bind_eq_bind, Option.bind_some, behind?_of_le, List.drop_take]
  rwa [List.length_take, Nat.min_eq_left h']

/-! ## Texts -/

/-- The number of bytes that characters take. -/
def byteLength (cs : List Char) : Nat := (Utf8.encodeChars cs).length

@[simp] theorem byteLength_nil : byteLength [] = 0 := rfl

@[simp] theorem byteLength_cons (c : Char) (cs : List Char) :
    byteLength (c :: cs) = (Utf8.encodeChar c).length + byteLength cs := by
  simp [byteLength]

@[simp] theorem byteLength_append (a b : List Char) :
    byteLength (a ++ b) = byteLength a + byteLength b := by
  simp [byteLength]

/-- The parts of a text in front of a byte and from it on, if a character begins there or the text
ends. -/
def cutAtByte? : Nat → List Char → Option (List Char × List Char)
  | 0, cs => some ([], cs)
  | _ + 1, [] => none
  | n + 1, c :: cs =>
    if (Utf8.encodeChar c).length ≤ n + 1 then
      (cutAtByte? (n + 1 - (Utf8.encodeChar c).length) cs).map fun parts => (c :: parts.1, parts.2)
    else none

theorem cutAtByte?_append (a b : List Char) : cutAtByte? (byteLength a) (a ++ b) = some (a, b) := by
  induction a with
  | nil => rw [byteLength_nil, List.nil_append, cutAtByte?]
  | cons c a ih =>
    obtain ⟨n, size⟩ : ∃ n, (Utf8.encodeChar c).length = n + 1 :=
      Nat.exists_eq_add_one.mpr (List.length_pos_iff.mpr (Utf8.encodeChar_ne_nil c))
    have total : byteLength (c :: a) = n + byteLength a + 1 := by
      rw [byteLength_cons, size]
      omega
    rw [total, List.cons_append, cutAtByte?, size, if_pos (by omega),
      show n + byteLength a + 1 - (n + 1) = byteLength a by omega, ih]
    rfl

theorem eq_append_of_cutAtByte? (h : cutAtByte? n cs = some (a, b)) :
    cs = a ++ b ∧ n = byteLength a := by
  induction cs generalizing n a with
  | nil =>
    cases n <;> cases h
    exact ⟨rfl, rfl⟩
  | cons c cs ih =>
    cases n with
    | zero =>
      cases h
      exact ⟨rfl, rfl⟩
    | succ n =>
      rw [cutAtByte?] at h
      split at h
      next fits =>
        obtain ⟨⟨a', b'⟩, cut, heq⟩ := Option.map_eq_some_iff.mp h
        cases heq
        obtain ⟨rfl, rest⟩ := ih cut
        refine ⟨rfl, ?_⟩
        rw [byteLength_cons, ← rest]
        omega
      · cases h

/-- **A text can be cut behind any of its characters,** and nowhere else. -/
theorem cutAtByte?_eq_some_iff :
    cutAtByte? n cs = some (a, b) ↔ cs = a ++ b ∧ n = byteLength a := by
  refine ⟨eq_append_of_cutAtByte?, ?_⟩
  rintro ⟨rfl, rfl⟩
  exact cutAtByte?_append a b

/-! ## Characters that are bytes -/

theorem byteLength_of_small (small : ∀ c ∈ cs, c.toNat < 0x80) : byteLength cs = cs.length := by
  induction cs with
  | nil => rfl
  | cons c cs ih =>
    rw [List.forall_mem_cons] at small
    rw [byteLength_cons, Utf8.encodeChar_of_lt small.1, ih small.2, List.length_cons]
    simp [Nat.add_comm]

/-- Behind a character that is a byte a text can be cut at the next byte. -/
theorem cutAtByte?_behind (small : c.toNat < 0x80) (a b : List Char) :
    cutAtByte? (byteLength a + 1) (a ++ c :: b) = some (a ++ [c], b) := by
  refine cutAtByte?_eq_some_iff.mpr ⟨List.append_cons a c b, ?_⟩
  rw [byteLength_append, byteLength_of_small (List.forall_mem_singleton.mpr small)]
  rfl

/-- A byte that is a character of its own is none of the bytes of a text without it. -/
theorem ofNat_notMem_encodeChars (small : c.toNat < 0x80) (h : c ∉ cs) :
    UInt8.ofNat c.toNat ∉ Utf8.encodeChars cs := by
  have size := Utf8.toNat_ofNat_of_lt (Nat.lt_trans small (show 0x80 < 256 by decide))
  intro there
  have char := Utf8.mem_of_mem_encodeChars (by rw [size]; exact small) there
  rw [size, Char.ofNat_toNat] at char
  exact h char

/-- The byte with which a character begins that is a byte, or is none, tells which. -/
theorem exists_getElem?_encodeChars (small : c.toNat < 0x80) (a b : List Char) (x : Char) :
    ∃ first, (Utf8.encodeChars (a ++ x :: b))[byteLength a]? = some first ∧
      (first = UInt8.ofNat c.toNat ↔ x = c) := by
  obtain ⟨first, more, bytes⟩ := List.exists_cons_of_ne_nil (Utf8.encodeChar_ne_nil x)
  refine ⟨first, by simp [byteLength, bytes], ?_⟩
  constructor
  · rintro rfl
    by_contra other
    have absent : UInt8.ofNat c.toNat ∉ Utf8.encodeChars [x] :=
      ofNat_notMem_encodeChars small (by simpa using Ne.symm other)
    exact absent (by simp [bytes])
  · rintro rfl
    rw [Utf8.encodeChar_of_lt small] at bytes
    exact (List.cons.inj bytes).1.symm

/-- Where a text is cut at a character that is a byte, there this byte stands for the first time. -/
theorem findIdx?_encodeChars_of_cutAt? (small : c.toNat < 0x80) (h : cutAt? c cs = some (a, b)) :
    (Utf8.encodeChars cs).findIdx? (· == UInt8.ofNat c.toNat) = some (byteLength a) := by
  obtain ⟨rfl, first⟩ := cutAt?_eq_some_iff.mp h
  have other := ofNat_notMem_encodeChars small first
  rw [Utf8.encodeChars_append, Utf8.encodeChars_cons, Utf8.encodeChar_of_lt small,
    List.findIdx?_append, List.findIdx?_eq_none_iff.mpr fun b hb => by
      rw [beq_eq_false_iff_ne]
      rintro rfl
      exact other hb]
  simp [byteLength, List.findIdx?_cons]

theorem findIdx?_encodeChars_of_cutAt?_none (small : c.toNat < 0x80) (h : cutAt? c cs = none) :
    (Utf8.encodeChars cs).findIdx? (· == UInt8.ofNat c.toNat) = none := by
  have other := ofNat_notMem_encodeChars small (cutAt?_eq_none_iff.mp h)
  refine List.findIdx?_eq_none_iff.mpr fun b hb => ?_
  rw [beq_eq_false_iff_ne]
  rintro rfl
  exact other hb

/-! ## Extracts -/

/-- The first ten characters of a list, cut off in front of the byte with which the next one
begins. -/
def excerptChecked (cs : List Char) : Option String :=
  if 10 < cs.length then
    (cutAtByte? (byteLength (cs.take 10)) cs).map fun parts => String.ofList parts.1
  else some (String.ofList cs)

theorem excerptChecked_eq (cs : List Char) : excerptChecked cs = some (excerptChars cs) := by
  rw [excerptChecked, excerptChars]
  split
  next long =>
    have cut := cutAtByte?_eq_some_iff.mpr ⟨(List.take_append_drop 10 cs).symm, rfl⟩
    rw [cut]
    rfl
  next short => rw [List.take_of_length_le (Nat.not_lt.mp short)]

end Icap.Text
