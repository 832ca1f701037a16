import Icap.Response.Terminator
import Mathlib.Data.List.Infix

/-!
# Skipping the end of a chunked body

`Terminator.skip` is told how much of the terminator is owed and drops it from the bytes that come
next. It may be told of those bytes in any pieces.

* `skip_append` — two reads are skipped like one.
* `skip_of_part_append` — what is skipped of a read inside the terminator, and of one that goes
  beyond it.
* `skipAll` — any number of reads.
* `flatten_skipAll` — any number of reads are skipped like one.
-/

namespace Icap.Terminator

/-! ## What is owed -/

theorem length_rest (owed : Nat) : (rest owed).length = min owed 7 := by
  simp only [rest, bytes, List.length_drop, List.length_cons, List.length_nil]
  omega

/-- After some of it has arrived, the rest of what is owed. -/
theorem drop_rest (owed n : Nat) : (rest owed).drop n = rest ((rest owed).length - n) := by
  rw [length_rest]
  simp only [rest, List.drop_drop, bytes, List.length_cons, List.length_nil]
  by_cases hn : n ≤ min owed 7
  · congr 1
    omega
  · rw [List.drop_eq_nil_of_le (by simp only [List.length_cons, List.length_nil]; omega),
      List.drop_eq_nil_of_le (by simp only [List.length_cons, List.length_nil]; omega)]

/-! ## What two strings have in common -/

theorem common_le_right : ∀ l buf : Bytes, common l buf ≤ buf.length
  | [], _ => by simp [common]
  | _ :: _, [] => by simp [common]
  | a :: as, b :: bs => by
    have := common_le_right as bs
    simp only [common, List.length_cons]
    split <;> omega

theorem common_le_left : ∀ l buf : Bytes, common l buf ≤ l.length
  | [], _ => by simp [common]
  | _ :: _, [] => by simp [common]
  | a :: as, b :: bs => by
    have := common_le_left as bs
    simp only [common, List.length_cons]
    split <;> omega

theorem common_append : ∀ l x y : Bytes, common l (x ++ y) =
    if common l x = x.length then x.length + common (l.drop x.length) y else common l x
  | l, [], y => by cases l <;> simp [common]
  | [], b :: x, y => by simp [common]
  | a :: l, b :: x, y => by
    simp only [List.cons_append, common, List.length_cons, List.drop_succ_cons]
    by_cases hab : a = b
    · rw [if_pos hab, if_pos hab, common_append l x y]
      by_cases h : common l x = x.length
      · rw [if_pos h, if_pos (by omega)]
        omega
      · rw [if_neg h, if_neg (by omega)]
    · simp [hab]

theorem common_self_append : ∀ l y : Bytes, common l (l ++ y) = l.length
  | [], y => by simp [common]
  | a :: l, y => by simp [common, common_self_append l y]

theorem common_of_part : ∀ {l x : Bytes}, x <+: l → common l x = x.length
  | l, [], _ => by cases l <;> simp [common]
  | [], b :: x, h => by simp at h
  | a :: l, b :: x, h => by
    obtain ⟨rfl, hx⟩ := List.cons_prefix_cons.mp h
    simp [common, common_of_part hx]

theorem part_of_common : ∀ {l x : Bytes}, common l x = x.length → x <+: l
  | l, [], _ => List.nil_prefix
  | [], b :: x, h => by simp [common] at h
  | a :: l, b :: x, h => by
    simp only [common] at h
    split at h
    next hab =>
      subst hab
      exact List.cons_prefix_cons.mpr ⟨rfl, part_of_common (Nat.succ.inj h)⟩
    · cases h

/-! ## Skipping -/

@[simp] theorem skip_zero (buf : Bytes) : skip 0 buf = (0, buf) := by
  simp [skip, common]

/-- **Two reads are skipped like one.** -/
theorem skip_append (owed : Nat) (x y : Bytes) :
    skip owed (x ++ y) =
      ((skip (skip owed x).1 y).1, (skip owed x).2 ++ (skip (skip owed x).1 y).2) := by
  have hx := common_le_right (rest owed) x
  by_cases h : common (rest owed) x = x.length
  · have hs : skip owed x = ((rest owed).length - x.length, []) := by
      simp only [skip, h, if_true, List.drop_length]
    have hr : rest ((rest owed).length - x.length) = (rest owed).drop x.length :=
      (drop_rest owed x.length).symm
    rw [hs]
    simp only [skip, common_append, h, if_true, hr, List.length_append, List.nil_append,
      List.length_drop, Nat.add_left_cancel_iff, Prod.mk.injEq]
    refine ⟨by split <;> omega, ?_⟩
    rw [List.drop_append, List.drop_eq_nil_of_le (by omega), List.nil_append]
    congr 1
    omega
  · -- the terminator is given up inside the first read
    have hs : skip owed x = (0, x.drop (common (rest owed) x)) := by
      simp only [skip, if_neg h]
    rw [hs, skip_zero]
    simp only [skip, common_append, if_neg h, List.length_append, Prod.mk.injEq]
    refine ⟨by rw [if_neg (by omega)], ?_⟩
    rw [List.drop_append_of_le_length hx]

/-- An empty read changes nothing that a read has left owed. -/
@[simp] theorem skip_skip_nil (owed : Nat) (x : Bytes) :
    (skip (skip owed x).1 []).1 = (skip owed x).1 := by
  have h := congrArg Prod.fst (skip_append owed x [])
  rw [List.append_nil] at h
  exact h.symm

/-- A read inside the terminator is skipped whole. -/
theorem skip_of_part {owed : Nat} {x : Bytes} (h : x <+: rest owed) :
    (skip owed x).2 = [] ∧ rest owed = x ++ rest (skip owed x).1 := by
  have hc : common (rest owed) x = x.length := common_of_part h
  have hs : skip owed x = ((rest owed).length - x.length, []) := by
    simp only [skip, hc, if_true, List.drop_length]
  obtain ⟨y, hy⟩ := h
  refine ⟨by rw [hs], ?_⟩
  rw [hs, ← drop_rest, ← hy]
  simp

/-- **What is owed after a read**: what follows it in the terminator if it is inside, and nothing
otherwise. -/
theorem rest_skip (owed : Nat) (x : Bytes) :
    rest (skip owed x).1 = if x <+: rest owed then (rest owed).drop x.length else [] := by
  split
  next part =>
    have h := (skip_of_part part).2
    rw [h, List.drop_left]
  next beyond =>
    rw [skip, if_neg fun h => beyond (part_of_common h), rest_zero]

/-- Nothing is owed any more once a read has gone beyond the terminator. -/
theorem skip_of_left {owed : Nat} {x : Bytes} (h : (skip owed x).2 ≠ []) : (skip owed x).1 = 0 := by
  simp only [skip] at h ⊢
  rw [if_neg]
  rintro hn
  rw [hn, List.drop_length] at h
  exact h rfl

/-- Of a read that goes beyond the terminator, what is owed is skipped and nothing else. -/
theorem skip_rest_append (owed : Nat) (y : Bytes) : skip owed (rest owed ++ y) = (0, y) := by
  simp only [skip, common_self_append]
  simp

/-- **A read of what is owed and of what follows** is skipped whole, or up to where the terminator
ends. -/
theorem skip_of_part_append {owed : Nat} {x y : Bytes} (h : x <+: rest owed ++ y) :
    ((skip owed x).2 = [] ∧ rest owed = x ++ rest (skip owed x).1) ∨
      ∃ z, z ≠ [] ∧ z <+: y ∧ x = rest owed ++ z ∧ skip owed x = (0, z) := by
  rcases List.prefix_or_prefix_of_prefix h (List.prefix_append (rest owed) y) with hx | ⟨z, rfl⟩
  · exact .inl (skip_of_part hx)
  · have hz : z <+: y := (List.prefix_append_right_inj (rest owed)).mp h
    by_cases hne : z = []
    · rw [hne, List.append_nil]
      exact .inl (skip_of_part (List.prefix_refl _))
    · exact .inr ⟨z, hne, hz, rfl, skip_rest_append owed z⟩

/-! ## Any number of reads -/

/-- What is owed after any number of reads, and what of them goes beyond the terminator. -/
def skipAll (owed : Nat) (reads : List Bytes) : Nat × List Bytes :=
  reads.foldl (fun (owed, left) read =>
    let (owed, read) := skip owed read
    (owed, if read = [] then left else left ++ [read])) (owed, [])

@[simp] theorem skipAll_nil (owed : Nat) : skipAll owed [] = (owed, []) := rfl

theorem skipAll_concat (owed : Nat) (reads : List Bytes) (read : Bytes) :
    skipAll owed (reads ++ [read]) =
      ((skip (skipAll owed reads).1 read).1,
        if (skip (skipAll owed reads).1 read).2 = [] then (skipAll owed reads).2
        else (skipAll owed reads).2 ++ [(skip (skipAll owed reads).1 read).2]) := by
  rw [skipAll, List.foldl_append]
  rfl

/-- No empty read is left beyond the terminator. -/
theorem ne_nil_of_mem_skipAll {owed : Nat} {reads : List Bytes} {read : Bytes}
    (h : read ∈ (skipAll owed reads).2) : read ≠ [] := by
  induction reads using List.reverseRecOn with
  | nil => cases h
  | append_singleton reads last ih =>
    rw [skipAll_concat] at h
    dsimp only at h
    split at h
    · exact ih h
    next left =>
      rcases List.mem_append.mp h with h | h
      · exact ih h
      · rwa [List.mem_singleton.mp h]

/-- A read is skipped by the bytes that are owed, whatever number stands for them. -/
theorem skip_congr {owed owed' : Nat} (h : rest owed = rest owed') (buf : Bytes) :
    skip owed buf = skip owed' buf := by
  simp only [skip, h]

/-- **Any number of reads are skipped like one.** -/
theorem flatten_skipAll (owed : Nat) (reads : List Bytes) :
    rest (skipAll owed reads).1 = rest (skip owed reads.flatten).1 ∧
      (skipAll owed reads).2.flatten = (skip owed reads.flatten).2 := by
  induction reads using List.reverseRecOn with
  | nil =>
    rw [List.flatten_nil, rest_skip]
    simp [skip]
  | append_singleton reads last ih =>
    obtain ⟨same, left⟩ := ih
    rw [skipAll_concat, skip_congr same, List.flatten_append, List.flatten_singleton, skip_append]
    refine ⟨rfl, ?_⟩
    dsimp only
    split
    next nothing => rw [nothing, left, List.append_nil]
    next => rw [List.flatten_append, List.flatten_singleton, left]

/-- Nothing is left of bytes that are the beginning of what is owed, and of no others. -/
theorem skip_eq_nil_iff {owed : Nat} {buf : Bytes} :
    (skip owed buf).2 = [] ↔ buf <+: rest owed := by
  refine ⟨fun h => part_of_common ?_, fun h => (skip_of_part h).1⟩
  have := common_le_right (rest owed) buf
  have := List.drop_eq_nil_iff.mp h
  omega

end Icap.Terminator
