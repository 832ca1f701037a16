import Icap.Text.Numeral
import Mathlib.Data.List.TakeWhile

/-!
# Whole numbers and the texts that write them

A whole number below a bound is read from its decimal digits, with a plus sign or without, and from
nothing else. The reader goes on digit by digit and stops at the bound; that is the same as if it
looked at the value of all digits.

* `digitRun_append` — where a run of digits ends.
* `IsDecimal`, `wholeDecimal?_eq_some_iff` — the texts that are decimal digits and nothing else.
* `Writes` — the texts that write a number.
* `readWhole_eq_ok_iff` — a text is read as the number that it writes.
* `word?` — a number, if it has 64 bits.
-/

namespace Icap.Text

variable {bound n m : Nat} {cs digits rest : List Char} {digit? : Char → Option Nat}

/-! ## Runs of digits -/

/-- **A run of digits ends** in front of the first character that is no digit. -/
theorem digitRun_append (isDigit : ∀ c ∈ digits, (digit? c).isSome = true)
    (stops : ∀ c ∈ rest.head?, digit? c = none) :
    digitRun digit? (digits ++ rest) = digits ∧ afterDigits digit? (digits ++ rest) = rest := by
  have rest_stops : rest.takeWhile (fun c => (digit? c).isSome) = [] ∧
      rest.dropWhile (fun c => (digit? c).isSome) = rest := by
    cases rest with
    | nil => exact ⟨rfl, rfl⟩
    | cons c cs => simp [stops c rfl]
  constructor
  · rw [digitRun, List.takeWhile_append_of_pos isDigit, rest_stops.1, List.append_nil]
  · rw [afterDigits, List.dropWhile_append_of_pos isDigit, rest_stops.2]

theorem isSome_of_mem_digitRun {c : Char} (hc : c ∈ digitRun digit? cs) :
    (digit? c).isSome = true :=
  List.mem_takeWhile_imp (p := fun c => (digit? c).isSome) hc

/-- Nothing follows the run of digits in a text of digits. -/
theorem digitRun_of_digits (isDigit : ∀ c ∈ digits, (digit? c).isSome = true) :
    digitRun digit? digits = digits ∧ afterDigits digit? digits = [] :=
  ⟨List.takeWhile_eq_self_iff.mpr isDigit, List.dropWhile_eq_nil_iff.mpr isDigit⟩

/-! ## Digits and nothing else -/

/-- A text is a run of decimal digits, at least one, that has a number for its value. -/
def IsDecimal (cs : List Char) (n : Nat) : Prop :=
  cs ≠ [] ∧ (∀ c ∈ cs, (decimal? c).isSome = true) ∧ valueOf 10 (cs.filterMap decimal?) = n

/-- **A text is a decimal numeral below a bound** just if it is digits with a value below it. -/
theorem wholeDecimal?_eq_some_iff :
    wholeDecimal? bound cs = some n ↔ IsDecimal cs n ∧ n < bound := by
  simp only [wholeDecimal?]
  constructor
  · intro h
    split at h
    next whole =>
      obtain ⟨nonempty, nothing_left, lt⟩ := whole
      cases h
      have isDigit : ∀ c ∈ cs, (decimal? c).isSome = true := by
        have split := digitRun_append_afterDigits decimal? cs
        rw [nothing_left, List.append_nil] at split
        intro c hc
        exact isSome_of_mem_digitRun (split.symm ▸ hc)
      exact ⟨⟨nonempty, isDigit, by rw [leadingValue, (digitRun_of_digits isDigit).1]⟩, lt⟩
    · cases h
  · rintro ⟨⟨nonempty, isDigit, rfl⟩, lt⟩
    obtain ⟨run, nothing_left⟩ := digitRun_of_digits isDigit
    rw [leadingValue, run, if_pos ⟨nonempty, nothing_left, lt⟩]

/-! ## Whole numbers -/

/-- A text writes a number with decimal digits, at least one; a plus sign and zeros may stand in
front. -/
def Writes (cs : List Char) (n : Nat) : Prop :=
  ∃ digits, (cs = digits ∨ cs = '+' :: digits) ∧ digits ≠ [] ∧
    (∀ c ∈ digits, (decimal? c).isSome = true) ∧ valueOf 10 (digits.filterMap decimal?) = n

/-- More digits do not make a number smaller. -/
theorem le_foldl_digits (ds : List Nat) (n : Nat) : n ≤ ds.foldl (fun n d => n * 10 + d) n := by
  induction ds generalizing n with
  | nil => exact Nat.le_refl n
  | cons d ds ih => exact Nat.le_trans (by omega) (ih (n * 10 + d))

/-- Digits are read onto a number if their value stays below the bound. -/
theorem readDecimal_eq_ok_iff (hn : n < bound) : readDecimal bound n cs = .ok m ↔
    (∀ c ∈ cs, (decimal? c).isSome = true) ∧
      (cs.filterMap decimal?).foldl (fun n d => n * 10 + d) n = m ∧ m < bound := by
  induction cs generalizing n with
  | nil =>
    simp only [readDecimal, Except.ok.injEq, List.not_mem_nil, false_implies, implies_true,
      List.filterMap_nil, List.foldl_nil, true_and]
    exact ⟨fun h => ⟨h, h ▸ hn⟩, And.left⟩
  | cons c cs ih =>
    rw [List.forall_mem_cons, readDecimal]
    cases hc : decimal? c with
    | none => simp
    | some d =>
      rw [List.filterMap_cons_some hc, List.foldl_cons, Option.isSome_some]
      by_cases hd : n * 10 + d < bound
      · simp only [if_pos hd, ih hd, true_and]
      · -- the value only grows from here
        have := le_foldl_digits (cs.filterMap decimal?) (n * 10 + d)
        simp only [if_neg hd, reduceCtorEq, false_iff]
        rintro ⟨-, rfl, lt⟩
        omega

/-- **A text is read as the number that it writes**, if this is below the bound. -/
theorem readWhole_eq_ok_iff (hb : 0 < bound) :
    readWhole bound cs = .ok n ↔ Writes cs n ∧ n < bound := by
  have read {digits : List Char} : readDecimal bound 0 digits = .ok n ↔
      ((∀ c ∈ digits, (decimal? c).isSome = true) ∧
        valueOf 10 (digits.filterMap decimal?) = n) ∧ n < bound := by
    rw [readDecimal_eq_ok_iff hb, and_assoc, valueOf]
  constructor
  · intro h
    simp only [readWhole] at h
    split at h
    · cases h
    · cases h
    next rest nonempty =>
      obtain ⟨written, lt⟩ := read.mp h
      exact ⟨⟨rest, .inr rfl, by rintro rfl; exact nonempty rfl, written⟩, lt⟩
    next nonempty _ _ =>
      obtain ⟨written, lt⟩ := read.mp h
      exact ⟨⟨cs, .inl rfl, by rintro rfl; exact nonempty rfl, written⟩, lt⟩
  · rintro ⟨⟨digits, cs_eq, nonempty, written⟩, lt⟩
    rw [← read.mpr ⟨written, lt⟩]
    obtain ⟨c, digits, rfl⟩ := List.exists_cons_of_ne_nil nonempty
    rcases cs_eq with rfl | rfl
    · -- a plus sign is no digit
      have : c ≠ '+' := by
        rintro rfl
        exact absurd (written.1 '+' List.mem_cons_self) (by decide)
      simp [readWhole, this]
    · rfl

/-! ## Numbers of 64 bits -/

/-- A number that has 64 bits. -/
def word? (n : Nat) : Option UInt64 := if n < word then some (UInt64.ofNat n) else none

theorem word?_eq_some_iff {w : UInt64} : word? n = some w ↔ w.toNat = n := by
  rw [word?]
  constructor
  · intro h
    split at h
    next fits =>
      cases h
      exact UInt64.toNat_ofNat_of_lt fits
    · cases h
  · rintro rfl
    rw [if_pos (show w.toNat < word from w.toNat_lt), UInt64.ofNat_toNat]

theorem word?_of_le (h : word ≤ n) : word? n = none := if_neg (Nat.not_lt.mpr h)

theorem exists_word?_of_lt (h : n < word) : ∃ w, word? n = some w ∧ w.toNat = n :=
  ⟨UInt64.ofNat n, if_pos h, UInt64.toNat_ofNat_of_lt h⟩

end Icap.Text
