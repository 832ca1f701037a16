import Icap.Text.Pieces
import Mathlib.Data.List.Infix

/-!
# Lines joined and split

A text is split into lines at its line ends. A line end cannot overlap another one, so splitting is
undone by joining, and joining by splitting as long as no line has a line end in it.

* `lines_append` — a line end splits a text wherever it stands.
* `lines_joinLines` — lines that are joined are split again.
-/

namespace Icap.Text

variable {l a b : List Char} {ls ps qs : List (List Char)} {x : Char}

/-- The end of a line. -/
def lineEnd : List Char := ['\r', '\n']

/-- The text of lines, with a line end between any two of them. -/
def joinLines (ls : List (List Char)) : List Char := lineEnd.intercalate ls

theorem joinLines_cons (l : List Char) (h : ls ≠ []) :
    joinLines (l :: ls) = l ++ (lineEnd ++ joinLines ls) := by
  cases ls with
  | nil => exact absurd rfl h
  | cons l' ls => simp [joinLines, List.intercalate]

/-! ## Splitting -/

theorem consLine_append (h : ps ≠ []) : consLine x (ps ++ qs) = consLine x ps ++ qs := by
  cases ps with
  | nil => exact absurd rfl h
  | cons p ps =>
    rcases p with _ | ⟨c, p⟩
    · rfl
    · by_cases hc : c = '\n'
      · subst hc
        simp only [List.cons_append, consLine]
        split <;> rfl
      · simp [consLine, consFirst, hc]

theorem lines_lineEnd (b : List Char) : lines (lineEnd ++ b) = [] :: lines b := by
  have h : lines ('\n' :: b) = consFirst '\n' (lines b) := by
    rw [lines_cons]
    unfold consLine
    split
    next heq => rw [heq]; rfl
    · rfl
  show lines ('\r' :: '\n' :: b) = _
  rw [lines_cons, h]
  cases hb : lines b with
  | nil => exact absurd hb (lines_ne_nil b)
  | cons p ps => rfl

/-- **A line end splits a text** wherever it stands. -/
theorem lines_append : ∀ a b : List Char, lines (a ++ (lineEnd ++ b)) = lines a ++ lines b
  | [], b => lines_lineEnd b
  | x :: a, b => by
    rw [List.cons_append, lines_cons, lines_cons, lines_append a b,
      consLine_append (lines_ne_nil a)]

/-- A text without a line end is a line. -/
theorem lines_of_not_infix : ∀ {l : List Char}, ¬lineEnd <:+: l → lines l = [l]
  | [], _ => rfl
  | x :: l, h => by
    have hl : ¬lineEnd <:+: l := fun hi => h (hi.trans (List.suffix_cons x l).isInfix)
    rw [lines_cons, lines_of_not_infix hl]
    unfold consLine
    split
    next p ps heq =>
      obtain ⟨rfl, rfl⟩ := List.cons.inj heq
      split
      next hx =>
        subst hx
        exact absurd (List.prefix_append lineEnd p).isInfix h
      · rfl
    · rfl

/-- **Lines that are joined are split again**, if none has a line end in it. -/
theorem lines_joinLines : ∀ {ls : List (List Char)}, ls ≠ [] → (∀ l ∈ ls, ¬lineEnd <:+: l) →
    lines (joinLines ls) = ls
  | [], h, _ => absurd rfl h
  | [l], _, h => by
    rw [show joinLines [l] = l by simp [joinLines, List.intercalate]]
    exact lines_of_not_infix (h l (by simp))
  | l :: l' :: ls, _, h => by
    rw [List.forall_mem_cons] at h
    rw [joinLines_cons l (List.cons_ne_nil l' ls), lines_append, lines_of_not_infix h.1,
      lines_joinLines (List.cons_ne_nil l' ls) h.2]
    rfl

/-- Only an empty text has an empty line and no other. -/
theorem eq_nil_of_lines (h : lines l = [[]]) : l = [] := by
  cases l with
  | nil => rfl
  | cons x l =>
    rw [lines_cons] at h
    unfold consLine at h
    split at h
    · split at h <;> cases h
    · cases hl : lines l <;> simp [consFirst, hl] at h

/-- The first line of a text is empty, or begins with the first character. -/
theorem head_lines (x : Char) (l : List Char) :
    (lines (x :: l)).headD [] = [] ∨ ∃ p, (lines (x :: l)).headD [] = x :: p := by
  rw [lines_cons]
  unfold consLine
  split
  · split
    · exact .inl rfl
    · exact .inr ⟨_, rfl⟩
  · cases lines l <;> exact .inr ⟨_, rfl⟩

/-- A text without a line end has one nowhere but where it is added to it. -/
theorem eq_nil_of_append_lineEnd (h : ¬lineEnd <:+: l) (heq : l ++ lineEnd = a ++ (lineEnd ++ b)) :
    b = [] := by
  have left : lines (l ++ (lineEnd ++ [])) = [l, []] := by
    rw [lines_append, lines_of_not_infix h]
    rfl
  rw [List.append_nil, heq, lines_append] at left
  -- there are two lines in all, and one of them stands in front of the line end
  cases ha : lines a with
  | nil => exact absurd ha (lines_ne_nil a)
  | cons p ps =>
    rw [ha] at left
    obtain ⟨-, left⟩ := List.cons.inj left
    cases ps with
    | nil => exact eq_nil_of_lines left
    | cons q qs =>
      obtain ⟨-, none⟩ := List.append_eq_nil_iff.mp (List.cons.inj left).2
      exact absurd none (lines_ne_nil b)

/-! ## Empty lines -/

/-- Among lines of which none is empty, with two empty ones behind them, an empty one that is not
the last is the first of the two. -/
theorem eq_of_append_two_nil (h : ∀ l ∈ ls, l ≠ []) (hqs : qs ≠ [])
    (heq : ls ++ [[], []] = ps ++ [] :: qs) : qs = [[]] := by
  rcases List.append_eq_append_iff.mp heq with ⟨z, rfl, hz⟩ | ⟨z, rfl, hz⟩
  · rcases z with _ | ⟨l, z⟩
    · exact (List.cons.inj hz).2.symm
    · obtain ⟨-, hz⟩ := List.cons.inj hz
      rcases z with _ | ⟨l, z⟩ <;> simp at hz
      exact absurd hz hqs
  · rcases z with _ | ⟨l, z⟩
    · exact (List.cons.inj hz).2
    · exact absurd (List.cons.inj hz).1.symm (h l (by simp))

/-- A text of lines that are not empty has an empty line nowhere but where one is added to it. -/
theorem eq_nil_of_joinLines_eq (hne : ls ≠ []) (h : ∀ l ∈ ls, l ≠ [] ∧ ¬lineEnd <:+: l)
    (heq : joinLines ls ++ (lineEnd ++ lineEnd) = a ++ (lineEnd ++ (lineEnd ++ b))) : b = [] := by
  have left : lines (joinLines ls ++ (lineEnd ++ (lineEnd ++ []))) = ls ++ [[], []] := by
    rw [lines_append, lines_lineEnd, lines_joinLines hne fun l hl => (h l hl).2]
    rfl
  have right : lines (a ++ (lineEnd ++ (lineEnd ++ b))) = lines a ++ [] :: lines b := by
    rw [lines_append, lines_lineEnd]
  rw [List.append_nil, heq, right] at left
  exact eq_nil_of_lines
    (eq_of_append_two_nil (fun l hl => (h l hl).1) (lines_ne_nil b) left.symm)

end Icap.Text
