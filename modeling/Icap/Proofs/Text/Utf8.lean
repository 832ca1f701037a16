import Icap.Text.Utf8

/-!
# Text written and read back

What is written as UTF-8 is read back as it was. And bytes below 128 are characters of their own
wherever they stand in a text: none of them is inside another character, so a text that is cut in
front of one is cut between two characters.

* `decodeChars_encodeChars` — reading is the inverse of writing.
* `exists_of_encodeChars_append` — small bytes in a text are characters.
-/

namespace Icap.Utf8

variable {c : Char} {cs done : List Char} {bs rest x y : Bytes} {b : UInt8} {n index : Nat}

/-! ## One character -/

theorem toNat_ofNat_of_lt (h : n < 256) : (UInt8.ofNat n).toNat = n := by
  simp [Nat.mod_eq_of_lt h]

theorem encodeChar_of_lt (h : c.toNat < 0x80) : encodeChar c = [UInt8.ofNat c.toNat] := by
  simp [encodeChar, h]

/-- The numbers of characters leave out the surrogates. -/
theorem toNat_valid (c : Char) : c.toNat < 0xD800 ∨ 0xDFFF < c.toNat ∧ c.toNat < 0x110000 :=
  c.valid

/-- A byte that opens a character of several. -/
theorem decodeFrom_lead {p : Partial} (hn : 0x80 ≤ n) (hn' : n < 256) (h : lead? n = some p) :
    decodeFrom index done none (UInt8.ofNat n :: rest) =
      decodeFrom (index + 1) done (some p) rest := by
  simp [decodeFrom, toNat_ofNat_of_lt hn', Nat.not_lt.mpr hn, h]

/-- A byte inside a character, after which others are owed. -/
theorem decodeFrom_more {owed low high code seen : Nat} (h : low ≤ 0x80 + n % 64)
    (h' : 0x80 + n % 64 ≤ high) :
    decodeFrom index done (some ⟨owed + 2, low, high, code, seen⟩)
        (UInt8.ofNat (0x80 + n % 64) :: rest) =
      decodeFrom (index + 1) done (some ⟨owed + 1, 0x80, 0xBF, code * 64 + n % 64, seen + 1⟩)
        rest := by
  simp [decodeFrom, Nat.mod_eq_of_lt (show 0x80 + n % 64 < 256 by omega), h, h']

/-- The last byte of a character. -/
theorem decodeFrom_last {low high code seen : Nat} (h : low ≤ 0x80 + n % 64)
    (h' : 0x80 + n % 64 ≤ high) :
    decodeFrom index done (some ⟨1, low, high, code, seen⟩)
        (UInt8.ofNat (0x80 + n % 64) :: rest) =
      decodeFrom (index + 1) (Char.ofNat (code * 64 + n % 64) :: done) none rest := by
  simp [decodeFrom, Nat.mod_eq_of_lt (show 0x80 + n % 64 < 256 by omega), h, h']

theorem lead?_two (h : 0x80 ≤ n) (h' : n < 0x800) :
    lead? (0xC0 + n / 64) = some ⟨1, 0x80, 0xBF, n / 64, 1⟩ := by
  rw [lead?, if_pos (by omega), Nat.add_sub_cancel_left]

/-- The first byte of a character of three bytes bounds the second one, which keeps to it. -/
theorem exists_lead?_three (h : 0x800 ≤ n) (h' : n < 0x10000) (valid : n < 0xD800 ∨ 0xDFFF < n) :
    ∃ low high, lead? (0xE0 + n / 4096) = some ⟨2, low, high, n / 4096, 1⟩ ∧
      low ≤ 0x80 + n / 64 % 64 ∧ 0x80 + n / 64 % 64 ≤ high := by
  by_cases h0 : n / 4096 = 0
  · exact ⟨0xA0, 0xBF, by simp [lead?, h0], by omega, by omega⟩
  by_cases hd : n / 4096 = 0xD
  · exact ⟨0x80, 0x9F, by simp [lead?, hd], by omega, by omega⟩
  · refine ⟨0x80, 0xBF, ?_, by omega, by omega⟩
    rw [lead?, if_neg (by omega), if_neg (by omega), if_neg (by omega), if_pos (by omega),
      Nat.add_sub_cancel_left]

/-- The first byte of a character of four bytes bounds the second one, which keeps to it. -/
theorem exists_lead?_four (h : 0x10000 ≤ n) (h' : n < 0x110000) :
    ∃ low high, lead? (0xF0 + n / 262144) = some ⟨3, low, high, n / 262144, 1⟩ ∧
      low ≤ 0x80 + n / 4096 % 64 ∧ 0x80 + n / 4096 % 64 ≤ high := by
  by_cases h0 : n / 262144 = 0
  · exact ⟨0x90, 0xBF, by simp [lead?, h0], by omega, by omega⟩
  by_cases h4 : n / 262144 = 4
  · exact ⟨0x80, 0x8F, by simp [lead?, h4], by omega, by omega⟩
  · refine ⟨0x80, 0xBF, ?_, by omega, by omega⟩
    rw [lead?, if_neg (by omega), if_neg (by omega), if_neg (by omega), if_neg (by omega),
      if_neg (by omega), if_neg (by omega), if_pos (by omega), Nat.add_sub_cancel_left]

/-- **A character that is written is read back.** -/
theorem decodeFrom_encodeChar (c : Char) (index : Nat) (done : List Char) (rest : Bytes) :
    decodeFrom index done none (encodeChar c ++ rest) =
      decodeFrom (index + (encodeChar c).length) (c :: done) none rest := by
  have valid := toNat_valid c
  have back : Char.ofNat c.toNat = c := Char.ofNat_toNat c
  generalize hn : c.toNat = n at valid back
  by_cases h1 : n < 0x80
  · rw [encodeChar_of_lt (by omega), hn]
    simp [decodeFrom, Nat.mod_eq_of_lt (show n < 256 by omega), h1, back]
  by_cases h2 : n < 0x800
  · have code : n / 64 * 64 + n % 64 = n := by omega
    simp only [encodeChar, hn, if_neg h1, if_pos h2, List.cons_append, List.nil_append]
    rw [decodeFrom_lead (by omega) (by omega) (lead?_two (by omega) h2),
      decodeFrom_last (by omega) (by omega), code, back]
    rfl
  by_cases h3 : n < 0x10000
  · have code : (n / 4096 * 64 + n / 64 % 64) * 64 + n % 64 = n := by omega
    obtain ⟨low, high, lead, hlow, hhigh⟩ := exists_lead?_three (by omega) h3 (by omega)
    simp only [encodeChar, hn, if_neg h1, if_neg h2, if_pos h3, List.cons_append, List.nil_append]
    rw [decodeFrom_lead (by omega) (by omega) lead, decodeFrom_more hlow hhigh,
      decodeFrom_last (by omega) (by omega), code, back]
    rfl
  · have code : ((n / 262144 * 64 + n / 4096 % 64) * 64 + n / 64 % 64) * 64 + n % 64 = n := by
      omega
    obtain ⟨low, high, lead, hlow, hhigh⟩ := exists_lead?_four (n := n) (by omega) (by omega)
    simp only [encodeChar, hn, if_neg h1, if_neg h2, if_neg h3, List.cons_append, List.nil_append]
    rw [decodeFrom_lead (by omega) (by omega) lead, decodeFrom_more hlow hhigh,
      decodeFrom_more (by omega) (by omega), decodeFrom_last (by omega) (by omega), code, back]
    rfl

/-! ## Texts -/

theorem decodeFrom_encodeChars : ∀ (cs done : List Char) (index : Nat),
    decodeFrom index done none (encodeChars cs) = .ok (done.reverse ++ cs)
  | [], done, index => by simp [decodeFrom]
  | c :: cs, done, index => by
    rw [encodeChars_cons, decodeFrom_encodeChar, decodeFrom_encodeChars cs]
    simp

/-- **A text that is written is read back.** -/
theorem decodeChars_encodeChars (cs : List Char) : decodeChars (encodeChars cs) = .ok cs :=
  decodeFrom_encodeChars cs [] 0

/-! ## Small bytes -/

/-- What has been read does not change any more. -/
theorem prefix_of_decodeFrom : ∀ {bs : Bytes} {index : Nat} {done : List Char}
    {open? : Option Partial} {text : List Char},
    decodeFrom index done open? bs = .ok text → done.reverse <+: text
  | [], _, _, none, _, h => by
    cases h
    exact List.prefix_refl _
  | [], _, _, some _, _, h => by cases h
  | b :: bs, _, done, none, _, h => by
    rw [decodeFrom] at h
    split at h
    · exact (List.reverse_cons ▸ List.prefix_append _ _ : done.reverse <+: _).trans
        (prefix_of_decodeFrom h)
    · split at h
      · exact prefix_of_decodeFrom h
      · cases h
  | b :: bs, _, done, some p, _, h => by
    rw [decodeFrom] at h
    split at h
    · dsimp only at h
      split at h
      · exact (List.reverse_cons ▸ List.prefix_append _ _ : done.reverse <+: _).trans
          (prefix_of_decodeFrom h)
      · exact prefix_of_decodeFrom h
    · cases h

/-- A text that begins with a small byte begins with its character. -/
theorem exists_cons_of_decodeChars {text : List Char} (hb : b.toNat < 0x80)
    (h : decodeChars (b :: bs) = .ok text) : ∃ t, text = Char.ofNat b.toNat :: t := by
  rw [decodeChars, decodeFrom, if_pos hb] at h
  obtain ⟨t, rfl⟩ := prefix_of_decodeFrom h
  exact ⟨t, rfl⟩

/-- The bytes of a character are none below 128, unless it is one of them. -/
theorem encodeChar_of_le (h : 0x80 ≤ c.toNat) : ∀ b ∈ encodeChar c, 0x80 ≤ b.toNat := by
  have valid := toNat_valid c
  simp only [encodeChar, if_neg (Nat.not_lt.mpr h)]
  split
  · simp only [List.forall_mem_cons, List.not_mem_nil, false_imp_iff, implies_true, and_true]
    constructor <;> rw [toNat_ofNat_of_lt (by omega)] <;> omega
  split
  · simp only [List.forall_mem_cons, List.not_mem_nil, false_imp_iff, implies_true, and_true]
    refine ⟨?_, ?_, ?_⟩ <;> rw [toNat_ofNat_of_lt (by omega)] <;> omega
  · simp only [List.forall_mem_cons, List.not_mem_nil, false_imp_iff, implies_true, and_true]
    refine ⟨?_, ?_, ?_, ?_⟩ <;> rw [toNat_ofNat_of_lt (by omega)] <;> omega

/-- A small byte in a text is a character, and the text may be cut in front of it. -/
theorem exists_of_encodeChars_eq (hb : b.toNat < 0x80) : ∀ {cs : List Char} {x : Bytes},
    encodeChars cs = x ++ b :: y →
      ∃ cs₁ cs₂, cs = cs₁ ++ Char.ofNat b.toNat :: cs₂ ∧ encodeChars cs₁ = x ∧ encodeChars cs₂ = y
  | [], x, h => by simp at h
  | c :: cs, x, h => by
    rw [encodeChars_cons] at h
    rcases List.append_eq_append_iff.mp h with ⟨z, rfl, hz⟩ | ⟨z, hc, hz⟩
    -- the byte comes after the first character
    · obtain ⟨cs₁, cs₂, rfl, rfl, hy⟩ := exists_of_encodeChars_eq hb hz
      exact ⟨c :: cs₁, cs₂, rfl, rfl, hy⟩
    · cases z with
      | nil =>
        obtain ⟨cs₁, cs₂, rfl, hx, hy⟩ := exists_of_encodeChars_eq hb (x := []) hz.symm
        refine ⟨c :: cs₁, cs₂, rfl, ?_, hy⟩
        rw [encodeChars_cons, hx, hc, List.append_nil, List.append_nil]
      | cons b' z =>
        -- the byte belongs to the first character, which is no more than the byte
        obtain ⟨rfl, rfl⟩ := List.cons.inj hz
        have small : c.toNat < 0x80 := Nat.lt_of_not_le fun large => by
          have := encodeChar_of_le large b (by simp [hc])
          omega
        rw [encodeChar_of_lt small] at hc
        obtain ⟨rfl, hc⟩ : x = [] ∧ [UInt8.ofNat c.toNat] = b :: z := by
          cases x with
          | nil => exact ⟨rfl, hc⟩
          | cons => simp at hc
        obtain ⟨rfl, rfl⟩ := List.cons.inj hc
        refine ⟨[], cs, ?_, rfl, rfl⟩
        rw [toNat_ofNat_of_lt (by omega), Char.ofNat_toNat]
        rfl

theorem mem_of_mem_encodeChars (hb : b.toNat < 0x80) (h : b ∈ encodeChars cs) :
    Char.ofNat b.toNat ∈ cs := by
  obtain ⟨u, v, split⟩ := List.append_of_mem h
  obtain ⟨cs₁, cs₂, rfl, -⟩ := exists_of_encodeChars_eq hb split
  exact List.mem_append_right _ List.mem_cons_self

theorem eq_nil_of_encodeChars (h : encodeChars cs = []) : cs = [] := by
  have read := decodeChars_encodeChars cs
  rw [h, decodeChars_nil] at read
  exact (Except.ok.inj read).symm

/-- **Small bytes in a text are characters**, and the text may be cut in front of them and behind
them. -/
theorem exists_of_encodeChars_append : ∀ {w cs : List Char} {x : Bytes}, w ≠ [] →
    (∀ c ∈ w, c.toNat < 0x80) → encodeChars cs = x ++ (encodeChars w ++ y) →
      ∃ cs₁ cs₂, cs = cs₁ ++ (w ++ cs₂) ∧ encodeChars cs₁ = x ∧ encodeChars cs₂ = y
  | [], _, _, hne, _, _ => absurd rfl hne
  | c :: w, cs, x, _, hsmall, h => by
    rw [List.forall_mem_cons] at hsmall
    have byte : (UInt8.ofNat c.toNat).toNat = c.toNat :=
      toNat_ofNat_of_lt (Nat.lt_trans hsmall.1 (by decide))
    rw [encodeChars_cons, encodeChar_of_lt hsmall.1, List.append_assoc, List.singleton_append] at h
    obtain ⟨cs₁, cs₂, rfl, rfl, hcs₂⟩ := exists_of_encodeChars_eq (by omega) h
    rw [byte, Char.ofNat_toNat]
    cases w with
    | nil => exact ⟨cs₁, cs₂, rfl, rfl, hcs₂⟩
    | cons c' w =>
      obtain ⟨d, cs₃, rfl, hd, hy⟩ := exists_of_encodeChars_append (x := [])
        (List.cons_ne_nil c' w) hsmall.2 hcs₂
      rw [eq_nil_of_encodeChars hd]
      exact ⟨cs₁, cs₃, rfl, rfl, hy⟩

/-! ## Lengths -/

theorem length_encodeChar_le (c : Char) : (encodeChar c).length ≤ 4 := by
  unfold encodeChar
  dsimp only
  split
  · simp
  · split
    · simp
    · split <;> simp

theorem length_encodeChars_le (cs : List Char) : (encodeChars cs).length ≤ 4 * cs.length := by
  induction cs with
  | nil => simp
  | cons c cs ih =>
    have := length_encodeChar_le c
    rw [encodeChars_cons, List.length_append, List.length_cons]
    omega

/-- A character takes a byte or more. -/
theorem encodeChar_ne_nil (c : Char) : encodeChar c ≠ [] := by
  unfold encodeChar
  dsimp only
  repeat' split
  all_goals exact List.cons_ne_nil _ _

theorem le_length_encodeChars (cs : List Char) : cs.length ≤ (encodeChars cs).length := by
  induction cs with
  | nil => simp
  | cons c cs ih =>
    have := List.length_pos_iff.mpr (encodeChar_ne_nil c)
    rw [encodeChars_cons, List.length_append, List.length_cons]
    omega

end Icap.Utf8
