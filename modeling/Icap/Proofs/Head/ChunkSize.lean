import Icap.Head.ChunkSize
import Icap.Proofs.Text.Lines
import Icap.Proofs.Text.Numeral
import Icap.Proofs.Text.Trimmed

/-!
# The line in front of a chunk, written and read

The size of a chunk may be written with capitals, with zeros in front, with an extension and with
blanks around all of it. Whichever way it is written, it is read back.

* `Spells` — the numerals of a number in hexadecimal.
* `SizeLine` — the parts of a line.
* `SizeLine.read_text` — the size is read back.
-/

namespace Icap

open Text

namespace Text

variable {c : Char} {cs after : List Char} {d n : Nat}

/-! ## Numerals -/

/-- A digit with a value below sixteen, as a small letter or as a capital from ten on. -/
def IsHexDigit (c : Char) (d : Nat) : Prop :=
  d < 16 ∧ (c = hexDigit d ∨ c = (hexDigit d).toUpper)

/-- Characters that spell a number in hexadecimal, the last one weighing least. Zeros may stand in
front. -/
inductive Spells : List Char → Nat → Prop
  | digit {c : Char} {d : Nat} : IsHexDigit c d → Spells [c] d
  | concat {cs : List Char} {n : Nat} {c : Char} {d : Nat} :
      Spells cs n → IsHexDigit c d → Spells (cs ++ [c]) (16 * n + d)

theorem IsHexDigit.hex?_eq (h : IsHexDigit c d) : hex? c = some d := by
  have small : ∀ d < 16, hex? (hexDigit d) = some d ∧ hex? (hexDigit d).toUpper = some d := by
    decide
  obtain ⟨hd, rfl | rfl⟩ := h
  · exact (small d hd).1
  · exact (small d hd).2

/-- No digit is a blank. -/
theorem IsHexDigit.isBlank_eq (h : IsHexDigit c d) : isBlank c = false := by
  have small : ∀ d < 16, isBlank (hexDigit d) = false ∧ isBlank (hexDigit d).toUpper = false := by
    decide
  obtain ⟨hd, rfl | rfl⟩ := h
  · exact (small d hd).1
  · exact (small d hd).2

theorem valueOf_concat (base : Nat) (ds : List Nat) (d : Nat) :
    valueOf base (ds ++ [d]) = valueOf base ds * base + d := by
  simp [valueOf]

namespace Spells

theorem ne_nil (h : Spells cs n) : cs ≠ [] := by
  cases h <;> simp

theorem exists_digit (h : Spells cs n) : ∀ c ∈ cs, ∃ d, IsHexDigit c d := by
  induction h with
  | digit h => simpa using ⟨_, h⟩
  | concat _ h ih =>
    intro c hc
    rcases List.mem_append.mp hc with hc | hc
    · exact ih c hc
    · exact ⟨_, List.mem_singleton.mp hc ▸ h⟩

theorem isSome_hex? (h : Spells cs n) : ∀ c ∈ cs, (hex? c).isSome = true := by
  intro c hc
  obtain ⟨d, hd⟩ := h.exists_digit c hc
  simp [hd.hex?_eq]

theorem isBlank_eq (h : Spells cs n) : ∀ c ∈ cs, isBlank c = false := by
  intro c hc
  obtain ⟨d, hd⟩ := h.exists_digit c hc
  exact hd.isBlank_eq

theorem valueOf_eq (h : Spells cs n) : valueOf 16 (cs.filterMap hex?) = n := by
  induction h with
  | digit h => simp [h.hex?_eq, valueOf]
  | @concat cs n c d _ h ih =>
    have last : [c].filterMap hex? = [d] := by simp [h.hex?_eq]
    rw [List.filterMap_append, last, valueOf_concat, ih, Nat.mul_comm]

/-- **A numeral is read back** in front of what does not go on with a digit. -/
theorem leadingValue_eq (h : Spells cs n) (hafter : ∀ c ∈ after.head?, hex? c = none) :
    digitRun hex? (cs ++ after) = cs ∧ afterDigits hex? (cs ++ after) = after ∧
      leadingValue 16 hex? (cs ++ after) = n := by
  obtain ⟨run, behind⟩ := digitRun_append h.isSome_hex? hafter
  refine ⟨run, behind, ?_⟩
  rw [leadingValue, run, h.valueOf_eq]

end Spells

/-- Digits, at least one, spell the number that their values write. -/
theorem spells_valueOf (nonempty : cs ≠ []) (isDigit : ∀ c ∈ cs, ∃ d, IsHexDigit c d) :
    Spells cs (valueOf 16 (cs.filterMap hex?)) := by
  induction cs using List.reverseRecOn with
  | nil => exact absurd rfl nonempty
  | append_singleton cs c ih =>
    obtain ⟨before, last⟩ := List.forall_mem_append.mp isDigit
    obtain ⟨d, digit⟩ := last c List.mem_cons_self
    have values : (cs ++ [c]).filterMap hex? = cs.filterMap hex? ++ [d] := by
      simp [digit.hex?_eq]
    rw [values, valueOf_concat, Nat.mul_comm]
    by_cases alone : cs = []
    · subst alone
      simpa [valueOf] using Spells.digit digit
    · exact (ih alone before).concat digit

end Text

/-! ## Lines -/

/-- The parts of a line in front of a chunk: blanks, the size, perhaps a semicolon with an extension
directly behind the size, and blanks. -/
structure SizeLine where
  before : List Char := []
  digits : List Char
  extension : Option (List Char) := none
  after : List Char := []

namespace SizeLine

variable {w : SizeLine} {n : Nat}

/-- The line. -/
def text (w : SizeLine) : List Char :=
  w.before ++ (w.digits ++ (w.extension.elim [] fun e => ';' :: e) ++ w.after)

/-- A line for a chunk of some size. -/
structure IsFor (w : SizeLine) (n : Nat) : Prop where
  spells : Spells w.digits n
  before : ∀ c ∈ w.before, isBlank c = true
  after : ∀ c ∈ w.after, isBlank c = true
  line : ¬lineEnd <:+: w.text

/-- What is left of a line without the blanks around it. -/
theorem IsFor.trimChars_text (h : w.IsFor n) :
    trimChars w.text = w.digits ++ w.extension.elim [] fun e => ';' :: trimEnd e := by
  obtain ⟨c, cs, hdigits⟩ := List.exists_cons_of_ne_nil h.spells.ne_nil
  have hc : isBlank c = false := h.spells.isBlank_eq c (by simp [hdigits])
  rw [text, hdigits, List.cons_append, trimChars_append_append h.before hc _ h.after,
    ← List.cons_append, ← hdigits]
  cases w.extension with
  | some e => exact trimEnd_append_cons (by decide) w.digits e
  | none =>
    -- the last digit is no blank either
    have hne := h.spells.ne_nil
    have last := trimEnd_append_cons (h.spells.isBlank_eq _ (List.getLast_mem hne))
      w.digits.dropLast []
    rw [List.dropLast_append_getLast hne] at last
    simpa [List.dropLast_append_getLast hne] using last

/-- **The size is read back**, if it is a number of 64 bits. -/
theorem IsFor.read_text (h : w.IsFor n) (hn : n < word) :
    ∃ chunk, ChunkSize.read (trimChars w.text) = .ok chunk ∧ chunk.size = n := by
  rw [h.trimChars_text]
  cases w.extension with
  | none =>
    obtain ⟨run, behind, value⟩ := h.spells.leadingValue_eq
      (show ∀ c ∈ ([] : List Char).head?, hex? c = none by simp)
    refine ⟨⟨n, none⟩, ?_, rfl⟩
    simp only [ChunkSize.read, Option.elim_none, run, behind, value]
    rw [if_neg (by simp [h.spells.ne_nil, hn])]
  | some e =>
    obtain ⟨run, behind, value⟩ := h.spells.leadingValue_eq
      (show ∀ c ∈ (';' :: trimEnd e).head?, hex? c = none by simp; decide)
    refine ⟨⟨n, some (String.ofList (trimChars (trimEnd e)))⟩, ?_, rfl⟩
    simp only [ChunkSize.read, Option.elim_some, run, behind, value]
    rw [if_neg (by simp [h.spells.ne_nil, hn])]

end SizeLine

end Icap
