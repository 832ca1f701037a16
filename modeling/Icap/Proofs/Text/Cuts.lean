import Icap.Proofs.Text.Lines
import Mathlib.Data.List.TakeWhile

/-!
# Texts cut and put together

A text is cut at the first of its separators, at all of them, or at its line ends. What is joined
with a separator is cut there again.

* `cutAt?_append`, `cutAt?_eq_some_iff` — the first separator.
* `piecesBy_append`, `length_piecesBy` — all separators.
* `joinLines_lines` — a text is its lines, joined.
* `infix_append_left`, `infix_append_right` — characters that a word does not have hide none of it.
-/

namespace Icap.Text

variable {c x : Char} {cs a b : List Char} {ps qs : List (List Char)}

/-- A text in front of which the separator does not stand is cut at it. -/
theorem cutAt?_append (h : c ∉ a) (b : List Char) : cutAt? c (a ++ c :: b) = some (a, b) := by
  have other : ∀ x ∈ a, (x != c) = true := by
    intro x hx
    rw [bne_iff_ne]
    rintro rfl
    exact h hx
  have self : (c != c) = false := by simp
  rw [cutAt?, List.dropWhile_append_of_pos other, List.takeWhile_append_of_pos other]
  simp only [List.dropWhile_cons, List.takeWhile_cons, self, Bool.false_eq_true, if_false,
    List.append_nil]

/-- **A text is cut** at the first separator that it has. -/
theorem cutAt?_eq_some_iff : cutAt? c cs = some (a, b) ↔ cs = a ++ c :: b ∧ c ∉ a := by
  constructor
  · intro h
    have split := List.takeWhile_append_dropWhile (p := (· != c)) (l := cs)
    simp only [cutAt?] at h
    split at h
    · cases h
    next x rest hdrop =>
      cases h
      have hx := List.head_dropWhile_not (p := (· != c)) (l := cs) (by simp [hdrop])
      simp only [hdrop, List.head_cons, bne_eq_false_iff_eq] at hx
      rw [hx] at hdrop
      refine ⟨by rw [← hdrop, split], fun hc => ?_⟩
      simpa using List.mem_takeWhile_imp hc
  · rintro ⟨rfl, hc⟩
    exact cutAt?_append hc b

theorem cutAt?_eq_none_iff : cutAt? c cs = none ↔ c ∉ cs := by
  simp only [cutAt?]
  constructor
  · intro h hc
    split at h
    next nothing =>
      have other := List.dropWhile_eq_nil_iff.mp nothing c hc
      simp at other
    · cases h
  · intro h
    rw [List.dropWhile_eq_nil_iff.mpr fun x hx => bne_iff_ne.mpr (by rintro rfl; exact h hx)]

/-! ## All separators -/

theorem piecesBy_ne_nil (c : Char) (a : List Char) : piecesBy c a ≠ [] := by
  cases a with
  | nil => simp
  | cons x a =>
    rw [piecesBy_cons]
    split
    · simp
    · cases piecesBy c a <;> simp [consFirst]

theorem consFirst_append (h : ps ≠ []) : consFirst x (ps ++ qs) = consFirst x ps ++ qs := by
  cases ps with
  | nil => exact absurd rfl h
  | cons p ps => rfl

theorem length_consFirst (h : ps ≠ []) : (consFirst x ps).length = ps.length := by
  cases ps with
  | nil => exact absurd rfl h
  | cons p ps => rfl

/-- **A separator cuts a text** wherever it stands. -/
theorem piecesBy_append (c : Char) : ∀ a b : List Char,
    piecesBy c (a ++ c :: b) = piecesBy c a ++ piecesBy c b
  | [], b => by rw [List.nil_append, piecesBy_cons, if_pos rfl]; rfl
  | x :: a, b => by
    rw [List.cons_append, piecesBy_cons, piecesBy_cons, piecesBy_append c a b]
    by_cases hx : x = c
    · rw [if_pos hx, if_pos hx, List.cons_append]
    · rw [if_neg hx, if_neg hx, consFirst_append (piecesBy_ne_nil c a)]

/-- There is one piece more than there are separators. -/
theorem length_piecesBy (c : Char) (a : List Char) : (piecesBy c a).length = a.count c + 1 := by
  induction a with
  | nil => rfl
  | cons x a ih =>
    rw [piecesBy_cons]
    by_cases hx : x = c
    · rw [if_pos hx, hx, List.length_cons, ih, List.count_cons_self]
    · rw [if_neg hx, length_consFirst (piecesBy_ne_nil c a), ih, List.count_cons_of_ne hx]

theorem mem_of_mem_consFirst {y : Char} {p : List Char} (hp : p ∈ consFirst x ps) (hy : y ∈ p) :
    y = x ∨ ∃ q ∈ ps, y ∈ q := by
  cases ps with
  | nil =>
    obtain rfl := List.mem_singleton.mp hp
    exact .inl (List.mem_singleton.mp hy)
  | cons q ps =>
    rcases List.mem_cons.mp hp with rfl | hp
    · rcases List.mem_cons.mp hy with rfl | hy
      · exact .inl rfl
      · exact .inr ⟨q, List.mem_cons_self, hy⟩
    · exact .inr ⟨p, List.mem_cons_of_mem q hp, hy⟩

/-- The pieces of a text have its characters, but no separator. -/
theorem mem_of_mem_piecesBy {y : Char} {p : List Char} (hp : p ∈ piecesBy c a) (hy : y ∈ p) :
    y ∈ a ∧ y ≠ c := by
  induction a generalizing p with
  | nil =>
    obtain rfl := List.mem_singleton.mp hp
    cases hy
  | cons x a ih =>
    rw [piecesBy_cons] at hp
    split at hp
    · rcases List.mem_cons.mp hp with rfl | hp
      · cases hy
      · exact (ih hp hy).imp_left (List.mem_cons_of_mem x)
    next other =>
      rcases mem_of_mem_consFirst hp hy with rfl | ⟨q, hq, hy⟩
      · exact ⟨List.mem_cons_self, other⟩
      · exact (ih hq hy).imp_left (List.mem_cons_of_mem x)

/-- A text without separators is a piece. -/
theorem piecesBy_of_not_mem (h : c ∉ a) : piecesBy c a = [a] := by
  induction a with
  | nil => rfl
  | cons x a ih =>
    obtain ⟨hx, ha⟩ := not_or.mp (mt List.mem_cons.mpr h)
    rw [piecesBy_cons, if_neg (Ne.symm hx), ih ha]
    rfl

/-! ## Texts with a separator between them -/

/-- What holds of the separator and of all parts holds of what is put together. -/
theorem forall_mem_intercalate {P : Char → Prop} {sep : String} (hsep : ∀ c ∈ sep.toList, P c) :
    ∀ {parts : List String}, (∀ part ∈ parts, ∀ c ∈ part.toList, P c) →
      ∀ c ∈ (String.intercalate sep parts).toList, P c
  | [], _ => by simp
  | [part], h => by simpa using h
  | part :: next :: more, h => by
    rw [List.forall_mem_cons] at h
    have rest := forall_mem_intercalate hsep h.2
    rw [String.toList_intercalate] at rest ⊢
    simp only [List.map_cons, List.intercalate_cons_cons, List.forall_mem_append] at rest ⊢
    exact ⟨⟨h.1, hsep⟩, rest⟩

/-! ## Lines -/

theorem joinLines_singleton (l : List Char) : joinLines [l] = l := by
  simp [joinLines, List.intercalate]

theorem joinLines_cons_cons (x : Char) (l : List Char) (ls : List (List Char)) :
    joinLines ((x :: l) :: ls) = x :: joinLines (l :: ls) := by
  cases ls with
  | nil => rw [joinLines_singleton, joinLines_singleton]
  | cons l' ls =>
    rw [joinLines_cons _ (List.cons_ne_nil l' ls), joinLines_cons _ (List.cons_ne_nil l' ls)]
    rfl

theorem joinLines_append (hp : ps ≠ []) (hq : qs ≠ []) :
    joinLines (ps ++ qs) = joinLines ps ++ (lineEnd ++ joinLines qs) := by
  induction ps with
  | nil => exact absurd rfl hp
  | cons p ps ih =>
    by_cases h : ps = []
    · rw [h, List.singleton_append, joinLines_cons p hq, joinLines_singleton]
    · rw [List.cons_append, joinLines_cons p (List.append_ne_nil_of_left_ne_nil h qs), ih h,
        joinLines_cons p h]
      simp only [List.append_assoc]

theorem joinLines_consLine (x : Char) (h : ps ≠ []) :
    joinLines (consLine x ps) = x :: joinLines ps := by
  unfold consLine
  split
  next p ps =>
    split
    next hx =>
      rw [hx, joinLines_cons _ (List.cons_ne_nil p ps), joinLines_cons_cons]
      rfl
    · rw [joinLines_cons_cons]
  next =>
    cases ps with
    | nil => exact absurd rfl h
    | cons p ps => exact joinLines_cons_cons x p ps

/-- **A text is its lines**, with line ends between them. -/
theorem joinLines_lines (a : List Char) : joinLines (lines a) = a := by
  induction a with
  | nil => exact joinLines_singleton []
  | cons x a ih => rw [lines_cons, joinLines_consLine x (lines_ne_nil a), ih]

/-- A text has an empty line only if it is empty, begins or ends with a line end, or has two of them
next to each other. -/
theorem cases_of_nil_mem_lines (h : [] ∈ lines a) :
    a = [] ∨ lineEnd <+: a ∨ lineEnd <:+ a ∨ lineEnd ++ lineEnd <:+: a := by
  obtain ⟨ps, qs, split⟩ := List.append_of_mem h
  have joined := joinLines_lines a
  rw [split] at joined
  by_cases hp : ps = []
  · rw [hp, List.nil_append] at joined
    by_cases hq : qs = []
    · rw [hq, joinLines_singleton] at joined
      exact .inl joined.symm
    · rw [joinLines_cons _ hq] at joined
      exact .inr (.inl ⟨_, joined⟩)
  · rw [joinLines_append hp (List.cons_ne_nil [] qs)] at joined
    by_cases hq : qs = []
    · rw [hq, joinLines_singleton, List.append_nil] at joined
      exact .inr (.inr (.inl ⟨_, joined⟩))
    · rw [joinLines_cons _ hq] at joined
      refine .inr (.inr (.inr ⟨joinLines ps, joinLines qs, ?_⟩))
      rw [← joined]
      simp only [List.nil_append, List.append_assoc]

/-- A text that is a single line has no line end in it, and is the line. -/
theorem eq_of_lines_eq_singleton {l : List Char} (h : lines a = [l]) :
    ¬lineEnd <:+: a ∧ l = a := by
  have joined := joinLines_lines a
  rw [h, joinLines_singleton] at joined
  refine ⟨?_, joined⟩
  rintro ⟨x, y, rfl⟩
  have length := congrArg List.length h
  rw [List.append_assoc, lines_append, List.length_append] at length
  have := List.length_pos_iff.mpr (lines_ne_nil x)
  have := List.length_pos_iff.mpr (lines_ne_nil y)
  simp only [List.length_singleton] at length
  omega

/-! ## Words -/

/-- Where a word begins, one of its characters stands. -/
theorem infix_append_right {w : List Char} (hne : w ≠ []) (h : ∀ c ∈ w, c ∉ a) (b : List Char) :
    w <:+: a ++ b ↔ w <:+: b := by
  obtain ⟨c, w, rfl⟩ := List.exists_cons_of_ne_nil hne
  induction a with
  | nil => rfl
  | cons x a ih =>
    have hx : c ≠ x := fun heq => h c List.mem_cons_self (heq ▸ List.mem_cons_self)
    rw [List.cons_append, List.infix_cons_iff, ih fun c hc ha => h c hc (List.mem_cons_of_mem x ha)]
    refine or_iff_right fun hp => hx ?_
    exact (List.cons_prefix_cons.mp hp).1

theorem infix_append_left {w : List Char} (hne : w ≠ []) (h : ∀ c ∈ w, c ∉ b) (a : List Char) :
    w <:+: a ++ b ↔ w <:+: a := by
  rw [← List.reverse_infix, List.reverse_append, ← @List.reverse_infix _ w a]
  exact infix_append_right (by simpa using hne) (by simpa using h) a.reverse

end Icap.Text
