import Icap.Text.Blank
import Mathlib.Data.List.DropRight

/-!
# Texts and the blanks around them

A text is trimmed down to what stands between its first and its last character that is no blank.

* `trimChars_eq_nil_iff` — the texts of which nothing is left.
* `trimStart_blanks_append`, `trimEnd_append_of_blank` — blanks in front and behind.
* `trimChars_append_cons` — a character that is no blank parts the two ends.
* `Trims`, `trimChars_eq_iff` — what a text is trimmed down to.
-/

namespace Icap.Text

variable {c : Char} {cs before after inner : List Char}

/-! ## Blanks in front -/

theorem trimStart_blanks_append (hbefore : ∀ c ∈ before, isBlank c = true) (cs : List Char) :
    trimStart (before ++ cs) = trimStart cs :=
  List.dropWhile_append_of_pos hbefore

theorem trimStart_cons (hc : isBlank c = false) (cs : List Char) :
    trimStart (c :: cs) = c :: cs :=
  List.dropWhile_cons_of_neg (by simp [hc])

@[simp] theorem trimStart_trimStart (cs : List Char) : trimStart (trimStart cs) = trimStart cs :=
  List.dropWhile_idempotent _ _

/-- What stands in front of the rest of a text are blanks. -/
theorem exists_blanks_append (cs : List Char) :
    ∃ blanks, (∀ c ∈ blanks, isBlank c = true) ∧ cs = blanks ++ trimStart cs :=
  ⟨cs.takeWhile isBlank, fun _ => List.mem_takeWhile_imp, List.takeWhile_append_dropWhile.symm⟩

/-- Nothing is left of a text in front of its blanks, or it begins with none. -/
theorem trimStart_eq_nil_or (cs : List Char) :
    trimStart cs = [] ∨ ∃ c rest, trimStart cs = c :: rest ∧ isBlank c = false := by
  cases h : trimStart cs with
  | nil => exact .inl rfl
  | cons c rest =>
    have same : (trimStart cs).dropWhile isBlank = c :: rest := (trimStart_trimStart cs).trans h
    refine .inr ⟨c, rest, rfl, Bool.eq_false_iff.mpr fun hc => ?_⟩
    have shorter := List.length_dropWhile_le isBlank rest
    rw [h, List.dropWhile_cons_of_pos hc] at same
    rw [same, List.length_cons] at shorter
    exact Nat.not_succ_le_self _ shorter

/-! ## Blanks behind -/

theorem trimEnd_append_of_blank (hafter : ∀ c ∈ after, isBlank c = true) (cs : List Char) :
    trimEnd (cs ++ after) = trimEnd cs := by
  rw [trimEnd, List.reverse_append, List.dropWhile_append_of_pos (by simpa using hafter), trimEnd]

/-- What ends with blanks keeps them up to its last character that is none. -/
theorem trimEnd_append_cons (hc : isBlank c = false) (before cs : List Char) :
    trimEnd (before ++ c :: cs) = before ++ c :: trimEnd cs := by
  rw [trimEnd, List.reverse_append, List.reverse_cons, List.append_assoc, List.dropWhile_append]
  split
  next empty =>
    rw [List.isEmpty_iff] at empty
    simp [trimEnd, empty, hc]
  · simp [trimEnd]

@[simp] theorem trimEnd_trimEnd (cs : List Char) : trimEnd (trimEnd cs) = trimEnd cs :=
  List.rdropWhile_idempotent isBlank cs

/-! ## Both ends -/

theorem mem_of_mem_trimChars (h : c ∈ trimChars cs) : c ∈ cs :=
  (List.dropWhile_sublist isBlank).subset ((List.rdropWhile_prefix isBlank (trimStart cs)).subset h)

/-- A text that begins with no blank, with blanks around it. -/
theorem trimChars_append_append (hbefore : ∀ c ∈ before, isBlank c = true) (hc : isBlank c = false)
    (cs : List Char) (hafter : ∀ c ∈ after, isBlank c = true) :
    trimChars (before ++ (c :: cs ++ after)) = trimEnd (c :: cs) := by
  rw [trimChars, trimStart_blanks_append hbefore, List.cons_append, trimStart_cons hc,
    ← List.cons_append, trimEnd_append_of_blank hafter]

/-- A text that neither begins nor ends with a blank, with blanks in front. -/
theorem trimChars_append (hbefore : ∀ c ∈ before, isBlank c = true)
    (first : ∀ c ∈ cs.head?, isBlank c = false) (last : ∀ c ∈ cs.getLast?, isBlank c = false) :
    trimChars (before ++ cs) = cs := by
  have start : trimStart cs = cs := by
    cases cs with
    | nil => rfl
    | cons c cs => exact trimStart_cons (first c rfl) cs
  rw [trimChars, trimStart_blanks_append hbefore, start]
  rcases List.eq_nil_or_concat' cs with rfl | ⟨init, c, rfl⟩
  · rfl
  · exact trimEnd_append_cons (last c (by simp)) init []

/-- **Nothing is left of a text just if all of it is blank.** -/
theorem trimChars_eq_nil_iff : trimChars cs = [] ↔ ∀ c ∈ cs, isBlank c = true := by
  rw [trimChars]
  constructor
  · intro h
    rcases trimStart_eq_nil_or cs with nothing | ⟨c, rest, left, hc⟩
    · exact List.dropWhile_eq_nil_iff.mp nothing
    · rw [left, ← List.nil_append (c :: rest), trimEnd_append_cons hc] at h
      simp at h
  · intro h
    rw [trimStart, List.dropWhile_eq_nil_iff.mpr h, trimEnd_nil]

@[simp] theorem trimChars_trimStart (cs : List Char) : trimChars (trimStart cs) = trimChars cs := by
  rw [trimChars, trimStart_trimStart, trimChars]

@[simp] theorem trimChars_trimEnd (cs : List Char) : trimChars (trimEnd cs) = trimChars cs := by
  obtain ⟨blanks, hblanks, split⟩ := exists_blanks_append cs
  rcases trimStart_eq_nil_or cs with nothing | ⟨c, rest, left, hc⟩
  · have all : trimEnd cs = [] := by
      rw [split, nothing, List.append_nil, ← List.nil_append blanks,
        trimEnd_append_of_blank hblanks, trimEnd_nil]
    rw [all, trimChars, trimChars, nothing, trimStart_nil]
  · have kept : trimEnd cs = blanks ++ c :: trimEnd rest := by
      rw [split, left, trimEnd_append_cons hc]
    have inner : trimEnd (c :: rest) = c :: trimEnd rest := trimEnd_append_cons hc [] rest
    rw [kept, trimChars, trimStart_blanks_append hblanks, trimStart_cons hc, ← inner,
      trimEnd_trimEnd, trimChars, left]

/-- **A character that is no blank stays**, and parts the blanks in front from those behind. -/
theorem trimChars_append_cons (hc : isBlank c = false) (before after : List Char) :
    trimChars (before ++ c :: after) = trimStart before ++ c :: trimEnd after := by
  have front : trimStart (before ++ c :: after) = trimStart before ++ c :: after := by
    obtain ⟨blanks, hblanks, split⟩ := exists_blanks_append before
    rcases trimStart_eq_nil_or before with nothing | ⟨x, rest, left, hx⟩
    · have all : ∀ x ∈ before, isBlank x = true := by
        rw [split, nothing, List.append_nil]
        exact hblanks
      rw [trimStart_blanks_append all, trimStart_cons hc, nothing, List.nil_append]
    · calc trimStart (before ++ c :: after)
          = trimStart (blanks ++ (x :: rest ++ c :: after)) := by
            rw [← left, ← List.append_assoc, ← split]
        _ = x :: rest ++ c :: after := by
            rw [trimStart_blanks_append hblanks, List.cons_append, trimStart_cons hx]
        _ = trimStart before ++ c :: after := by rw [left]
  rw [trimChars, front, trimEnd_append_cons hc]

/-- A text is something that neither begins nor ends with a blank, and blanks around it. -/
def Trims (cs inner : List Char) : Prop :=
  ∃ before after, cs = before ++ inner ++ after ∧
    (∀ c ∈ before, isBlank c = true) ∧ (∀ c ∈ after, isBlank c = true) ∧
    (∀ c ∈ inner.head?, isBlank c = false) ∧ ∀ c ∈ inner.getLast?, isBlank c = false

/-- What stands behind the rest of a text are blanks. -/
theorem exists_append_blanks (cs : List Char) :
    ∃ blanks, (∀ c ∈ blanks, isBlank c = true) ∧ cs = trimEnd cs ++ blanks := by
  obtain ⟨blanks, hblanks, split⟩ := exists_blanks_append cs.reverse
  refine ⟨blanks.reverse, by simpa using hblanks, ?_⟩
  rw [trimEnd, ← List.reverse_append, ← List.reverse_eq_iff]
  exact split

theorem isBlank_head?_trimStart (cs : List Char) :
    ∀ c ∈ (trimStart cs).head?, isBlank c = false := by
  rcases trimStart_eq_nil_or cs with nothing | ⟨c, rest, left, hc⟩
  · simp [nothing]
  · simpa [left] using hc

theorem isBlank_getLast?_trimEnd (cs : List Char) :
    ∀ c ∈ (trimEnd cs).getLast?, isBlank c = false := by
  rw [trimEnd, List.getLast?_reverse]
  exact isBlank_head?_trimStart cs.reverse

theorem isBlank_head?_trimChars (cs : List Char) :
    ∀ c ∈ (trimChars cs).head?, isBlank c = false := by
  rw [trimChars]
  rcases trimStart_eq_nil_or cs with nothing | ⟨c, rest, left, hc⟩
  · simp [nothing]
  · have kept : trimEnd (c :: rest) = c :: trimEnd rest := trimEnd_append_cons hc [] rest
    simpa [left, kept] using hc

/-- **A text is trimmed down to** what stands between the blanks at its ends. -/
theorem trimChars_eq_iff : trimChars cs = inner ↔ Trims cs inner := by
  constructor
  · rintro rfl
    obtain ⟨before, hbefore, front⟩ := exists_blanks_append cs
    obtain ⟨after, hafter, behind⟩ := exists_append_blanks (trimStart cs)
    refine ⟨before, after, ?_, hbefore, hafter, isBlank_head?_trimChars cs,
      isBlank_getLast?_trimEnd (trimStart cs)⟩
    rw [trimChars, List.append_assoc, ← behind, ← front]
  · rintro ⟨before, after, rfl, hbefore, hafter, first, last⟩
    rw [← trimChars_trimEnd, trimEnd_append_of_blank hafter, trimChars_trimEnd]
    exact trimChars_append hbefore first last

end Icap.Text
