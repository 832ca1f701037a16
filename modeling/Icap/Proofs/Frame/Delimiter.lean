import Icap.Proofs.Frame.Pieces
import Mathlib.Data.List.Infix

/-!
# The first delimiter

The search for a delimiter keeps no more than a count, and after a byte that does not fit it goes
back to one byte or to none. For the two delimiters of a response that is enough: the search stops
where the delimiter stands for the first time.

* `EndsWithFirst` — a text at whose end the delimiter stands for the first time.
* `scan_of_suffix`, `scan_of_not_suffix` — the search in such a text, and in a part of it.
* `feed_of_endsWithFirst`, `feed_of_part` — the same of a frame.
* `exists_endsWithFirst_of_feed` — a frame is complete for no other reason.
-/

namespace Icap.Frame

variable {d t : Bytes} {m : Nat} {b : UInt8}

/-! ## Counting -/

/-- The count of a search: of what a text ends with, how many bytes begin the delimiter. -/
structure Counts (d t : Bytes) (m : Nat) : Prop where
  ends : d.take m <:+ t
  longest : ∀ k ≤ d.length, d.take k <:+ t → k ≤ m

/-- A delimiter that can be searched for with a count: wherever a shorter beginning ends a longer
one, both go on with the same byte, unless the shorter one is empty. -/
def IsPlain (d : Bytes) : Prop :=
  d ≠ [] ∧ ∀ m < d.length, ∀ k < m, d.take k <:+ d.take m → k = 0 ∨ d[k]? = d[m]?

instance (d : Bytes) : Decidable (IsPlain d) :=
  inferInstanceAs (Decidable (_ ∧ ∀ m < _, ∀ k < m, _))

theorem isPlain_crlf : IsPlain crlf := by decide

theorem isPlain_blankLine : IsPlain blankLine := by decide

/-- A beginning of the delimiter that a text with one byte more ends with. -/
theorem take_succ_suffix_concat {k : Nat} (hk : k < d.length) :
    d.take (k + 1) <:+ t ++ [b] ↔ d.take k <:+ t ∧ d[k]? = some b := by
  rw [List.take_succ_eq_append_getElem hk, List.getElem?_eq_getElem hk]
  constructor
  · rintro ⟨x, hx⟩
    rw [← List.append_assoc] at hx
    obtain ⟨hx, hb⟩ := List.append_inj' hx rfl
    exact ⟨⟨x, hx⟩, congrArg some (List.singleton_inj.mp hb)⟩
  · rintro ⟨⟨x, rfl⟩, hb⟩
    exact ⟨x, by rw [Option.some.inj hb, List.append_assoc]⟩

theorem Counts.start (d : Bytes) : Counts d [] 0 where
  ends := by simp
  longest := by
    intro k hk hs
    have := hs.length_le
    simp only [List.length_take, List.length_nil] at this
    omega

/-- **One byte more.** The count goes on, or begins again with the byte, or is lost. -/
theorem Counts.advance (h : Counts d t m) (plain : IsPlain d) (hm : m < d.length) (b : UInt8) :
    Counts d (t ++ [b]) (advance d m b) := by
  -- a beginning that can be one byte longer is empty, or goes on like the longest one
  have next : ∀ k < d.length, d.take (k + 1) <:+ t ++ [b] →
      k = 0 ∧ d[0]? = some b ∨ k ≤ m ∧ d[m]? = some b := by
    intro k hk hs
    obtain ⟨hs, hb⟩ := (take_succ_suffix_concat hk).mp hs
    rcases Nat.eq_or_lt_of_le (h.longest k (Nat.le_of_lt hk) hs) with rfl | hlt
    · exact .inr ⟨Nat.le_refl k, hb⟩
    · have inner : d.take k <:+ d.take m :=
        List.suffix_of_suffix_length_le hs h.ends (by simp only [List.length_take]; omega)
      rcases plain.2 m hm k hlt inner with rfl | same
      · exact .inl ⟨rfl, hb⟩
      · exact .inr ⟨Nat.le_of_lt hlt, same ▸ hb⟩
  unfold Frame.advance
  rw [List.head?_eq_getElem?]
  split
  next hb =>
    refine ⟨(take_succ_suffix_concat hm).mpr ⟨h.ends, hb⟩, ?_⟩
    rintro (_ | k) hk hs
    · exact Nat.zero_le _
    · rcases next k hk hs with ⟨rfl, -⟩ | ⟨hkm, -⟩ <;> omega
  next hm' =>
    split
    next hb =>
      refine ⟨(take_succ_suffix_concat (List.length_pos_iff.mpr plain.1)).mpr ⟨by simp, hb⟩, ?_⟩
      rintro (_ | k) hk hs
      · exact Nat.zero_le _
      · rcases next k hk hs with ⟨rfl, -⟩ | ⟨-, hb⟩
        · exact Nat.le_refl _
        · exact absurd hb hm'
    next h0 =>
      refine ⟨by simp, ?_⟩
      rintro (_ | k) hk hs
      · exact Nat.le_refl _
      · rcases next k hk hs with ⟨-, hb⟩ | ⟨-, hb⟩
        · exact absurd hb h0
        · exact absurd hb hm'

theorem advance_le (hm : m < d.length) (b : UInt8) : advance d m b ≤ d.length := by
  unfold Frame.advance
  split
  · exact hm
  · split <;> omega

/-- The count is full where the delimiter stands, and nowhere else. -/
theorem Counts.eq_length_iff (h : Counts d t m) (hm : m ≤ d.length) : m = d.length ↔ d <:+ t := by
  constructor
  · rintro rfl
    simpa using h.ends
  · intro hs
    have := h.longest d.length (Nat.le_refl _) (by simpa using hs)
    omega

/-! ## Searching -/

/-- A text at whose end the delimiter stands, for the first time. -/
def EndsWithFirst (d s : Bytes) : Prop := d <:+ s ∧ ∀ p, p <+: s → d <:+ p → p = s

instance (d s : Bytes) : Decidable (EndsWithFirst d s) :=
  decidable_of_iff (d <:+ s ∧ ∀ p ∈ s.inits, d <:+ p → p = s) (by simp [EndsWithFirst])

/-- A search in bytes in which the delimiter does not stand. -/
theorem scan_of_not_suffix (plain : IsPlain d) : ∀ {y t : Bytes} {m : Nat} (k : Nat), Counts d t m →
    m < d.length → (∀ p, p <+: y → ¬d <:+ t ++ p) → (scan d k m y).found = false
  | [], _, _, _, _, _, _ => rfl
  | b :: y, t, m, k, h, hm, hno => by
    have hb := h.advance plain hm b
    have hlt : Frame.advance d m b ≠ d.length := by
      rw [Ne, hb.eq_length_iff (advance_le hm b)]
      exact hno [b] (by simp)
    simp only [scan, if_neg hlt]
    refine scan_of_not_suffix plain (k + 1) hb (Nat.lt_of_le_of_ne (advance_le hm b) hlt) ?_
    intro p hp
    rw [List.append_assoc]
    exact hno (b :: p) (List.cons_prefix_cons.mpr ⟨rfl, hp⟩)

/-- A search without success has counted all bytes. -/
theorem Counts.scan (plain : IsPlain d) : ∀ {y t : Bytes} {m : Nat} (k : Nat), Counts d t m →
    m < d.length → (scan d k m y).found = false →
      Counts d (t ++ y) (scan d k m y).matched ∧ (scan d k m y).matched < d.length
  | [], t, m, _, h, hm, _ => by
    rw [List.append_nil]
    exact ⟨h, hm⟩
  | b :: y, t, m, k, h, hm, hno => by
    have hb := h.advance plain hm b
    by_cases hfull : Frame.advance d m b = d.length
    · simp [Frame.scan, hfull] at hno
    · simp only [Frame.scan, if_neg hfull] at hno ⊢
      have more := Counts.scan plain (k + 1) hb (Nat.lt_of_le_of_ne (advance_le hm b) hfull) hno
      rwa [List.append_assoc] at more

/-- A search in bytes at whose end the delimiter stands for the first time stops there. -/
theorem scan_of_suffix (plain : IsPlain d) (rest : Bytes) : ∀ {y t : Bytes} {m : Nat} (k : Nat),
    Counts d t m → m < d.length → d <:+ t ++ y → (∀ p, p <+: y → d <:+ t ++ p → p = y) →
      scan d k m (y ++ rest) = ⟨k + y.length, d.length, rest, true⟩
  | [], t, m, k, h, hm, hs, _ => by
    rw [List.append_nil, ← h.eq_length_iff (Nat.le_of_lt hm)] at hs
    omega
  | b :: y, t, m, k, h, hm, hs, hfirst => by
    have hb := h.advance plain hm b
    have hle := advance_le hm b
    simp only [List.cons_append, scan]
    by_cases hfull : Frame.advance d m b = d.length
    -- the delimiter stands here, which is nowhere but at the end
    · have hy := hfirst [b] (by simp) ((hb.eq_length_iff hle).mp hfull)
      obtain rfl : y = [] := by simpa using hy.symm
      simp [hfull]
    · rw [if_neg hfull, scan_of_suffix plain rest (k + 1) hb (Nat.lt_of_le_of_ne hle hfull)]
      · simp only [List.length_cons]
        congr 1
        omega
      · simpa using hs
      · intro p hp hsp
        rw [List.append_assoc] at hsp
        exact (List.cons.inj (hfirst (b :: p) (List.cons_prefix_cons.mpr ⟨rfl, hp⟩) hsp)).2

/-- A search in bytes in which the delimiter stands succeeds. -/
theorem found_of_suffix (plain : IsPlain d) : ∀ {y t p : Bytes} {m : Nat} (k : Nat), Counts d t m →
    m < d.length → p <+: y → d <:+ t ++ p → (scan d k m y).found = true
  | _, t, [], m, _, h, hm, _, hs => by
    rw [List.append_nil, ← h.eq_length_iff (Nat.le_of_lt hm)] at hs
    omega
  | b :: y, t, b' :: p, m, k, h, hm, hp, hs => by
    obtain ⟨rfl, hpy⟩ := List.cons_prefix_cons.mp hp
    have hb := h.advance plain hm b'
    by_cases hfull : Frame.advance d m b' = d.length
    · simp [scan, hfull]
    · simp only [scan, if_neg hfull]
      exact found_of_suffix plain (k + 1) hb (Nat.lt_of_le_of_ne (advance_le hm b') hfull) hpy
        (by simpa using hs)

/-- A search that succeeds has met the delimiter, and stopped where it stands for the first time. -/
theorem exists_first_of_found (plain : IsPlain d) : ∀ {y t : Bytes} {m : Nat} (k : Nat),
    Counts d t m → m < d.length → (scan d k m y).found = true →
      ∃ s rest, y = s ++ rest ∧ d <:+ t ++ s ∧ ∀ p, p <+: s → d <:+ t ++ p → p = s
  | b :: y, t, m, k, h, hm, hfound => by
    have hb := h.advance plain hm b
    have hle := advance_le hm b
    have hnone : ¬d <:+ t := fun hs => Nat.ne_of_lt hm ((h.eq_length_iff (Nat.le_of_lt hm)).mpr hs)
    by_cases hfull : Frame.advance d m b = d.length
    · refine ⟨[b], y, rfl, (hb.eq_length_iff hle).mp hfull, ?_⟩
      rintro (_ | ⟨a, p⟩) hp hs
      · exact absurd (by simpa using hs) hnone
      · exact hp.eq_of_length_le (by simp)
    · simp only [scan, if_neg hfull] at hfound
      obtain ⟨s, rest, rfl, hs, hfirst⟩ :=
        exists_first_of_found plain (k + 1) hb (Nat.lt_of_le_of_ne hle hfull) hfound
      refine ⟨b :: s, rest, rfl, by simpa using hs, ?_⟩
      rintro (_ | ⟨a, p⟩) hp hsp
      · exact absurd (by simpa using hsp) hnone
      · obtain ⟨rfl, hps⟩ := List.cons_prefix_cons.mp hp
        rw [hfirst p hps (by simpa using hsp)]

/-! ## Feeding -/

variable {s p : Bytes} {limit : Nat}

/-- **A text with its delimiter** completes a frame. -/
theorem feed_of_endsWithFirst (plain : IsPlain d) (h : EndsWithFirst d s)
    (hl : s.length ≤ limit + d.length) (rest : Bytes) :
    Frame.feed {} d limit (s ++ rest) = ⟨⟨s.take (s.length - d.length), 0⟩, rest, .ok true⟩ := by
  have hd : 0 < d.length := List.length_pos_iff.mpr plain.1
  have hs := scan_of_suffix plain rest 0 (Counts.start d) hd (by simpa using h.1)
    (by simpa using h.2)
  have hle : d.length ≤ s.length := h.1.length_le
  simp only [Frame.feed, hs, Nat.zero_add, List.length_nil, if_true, lengthWithout_of_le hle]
  rw [if_neg (by omega), List.nil_append, List.take_append_of_le_length (by omega)]
  congr 3
  omega

/-- A read completes a frame with a text and its delimiter, which fit the limit. -/
theorem exists_endsWithFirst_of_feed (plain : IsPlain d) {y : Bytes}
    (h : (Frame.feed {} d limit y).outcome = .ok true) :
    ∃ s rest, y = s ++ rest ∧ EndsWithFirst d s ∧ s.length ≤ limit + d.length := by
  have hd : 0 < d.length := List.length_pos_iff.mpr plain.1
  obtain ⟨hfound, hl⟩ := found_of_feed h
  obtain ⟨s, rest, rfl, hs⟩ := exists_first_of_found plain 0 (Counts.start d) hd hfound
  rw [scan_of_suffix plain rest 0 (Counts.start d) hd hs.1 hs.2] at hl
  refine ⟨s, rest, rfl, hs, ?_⟩
  rw [lengthWithout_of_le (by simpa using hs.1.length_le)] at hl
  simp only [List.length_nil] at hl
  omega

/-- **A part of a text with its delimiter** leaves a frame waiting. -/
theorem feed_of_part (plain : IsPlain d) (h : EndsWithFirst d s) (hl : s.length ≤ limit)
    (hp : p <+: s) (hne : p ≠ s) :
    Frame.feed {} d limit p = ⟨⟨p, (scan d 0 0 p).matched⟩, [], .ok false⟩ := by
  have hd : 0 < d.length := List.length_pos_iff.mpr plain.1
  have hno : (scan d 0 0 p).found = false := by
    refine scan_of_not_suffix plain 0 (Counts.start d) hd fun q hq hs => hne ?_
    obtain rfl := h.2 q (hq.trans hp) hs
    exact hp.eq_of_length_le hq.length_le
  have hlen := hp.length_le
  rw [feed_of_not_found hno, if_neg (by simp; omega)]
  rfl

end Icap.Frame
