import Icap.Proofs.Frame.Delimiter
import Icap.Proofs.Text.Lines
import Icap.Proofs.Text.Utf8

/-!
# Heads that are written

A head is written as its lines with line ends between them and an empty line behind. If no line is
empty or has a line end in it, the head ends where it is meant to, and its lines are read back.

A line that stands alone is written with one line end behind it.

* `headBytes`, `lineBytes` — the bytes of a head, and of a line.
* `endsWithFirst_headBytes`, `endsWithFirst_lineBytes` — where they end.
* `decode_headBytes`, `decode_lineBytes` — what they spell.
-/

namespace Icap

open Text
open Icap.Frame (EndsWithFirst)

variable {lines : List String} {line : List Char}

/-! ## Heads -/

/-- A text that can be a line of a head: it is not empty and has no line end in it. -/
def IsLine (line : String) : Prop := line ≠ "" ∧ ¬lineEnd <:+: line.toList

instance (line : String) : Decidable (IsLine line) :=
  inferInstanceAs (Decidable (_ ∧ ¬_ <:+: _))

/-- The text of a head. -/
def headText (lines : List String) : List Char := joinLines (lines.map String.toList)

/-- The bytes of a head, with the empty line that ends it. -/
def headBytes (lines : List String) : Bytes := Utf8.encodeChars (headText lines) ++ blankLine

theorem blankLine_eq : blankLine = Utf8.encodeChars (lineEnd ++ lineEnd) := by decide

/-- **A head ends where it is meant to**: in front of that, no empty line stands in it. -/
theorem endsWithFirst_headBytes (hne : lines ≠ []) (h : ∀ line ∈ lines, IsLine line) :
    EndsWithFirst blankLine (headBytes lines) := by
  refine ⟨List.suffix_append _ _, ?_⟩
  rintro p ⟨y, hy⟩ ⟨x, rfl⟩
  have hlines : ∀ l ∈ lines.map String.toList, l ≠ [] ∧ ¬lineEnd <:+: l := by
    rw [List.forall_mem_map]
    exact fun line hline => ⟨fun hnil => (h line hline).1 (String.toList_eq_nil_iff.mp hnil),
      (h line hline).2⟩
  -- an empty line in the bytes is one in the text
  rw [List.append_assoc, headBytes, blankLine_eq, ← Utf8.encodeChars_append] at hy
  obtain ⟨a, b, hab, rfl, rfl⟩ :=
    Utf8.exists_of_encodeChars_append (by simp [lineEnd]) (by simp [lineEnd]) hy.symm
  rw [List.append_assoc] at hab
  obtain rfl := eq_nil_of_joinLines_eq (by simpa using hne) hlines hab
  simpa [headBytes, blankLine_eq] using hy

/-- **The lines of a head are read back.** -/
theorem decode_headBytes (lines : List String) :
    Utf8.decodeChars ((headBytes lines).take ((headBytes lines).length - blankLine.length)) =
      .ok (headText lines) := by
  rw [headBytes, List.length_append, Nat.add_sub_cancel, List.take_left,
    Utf8.decodeChars_encodeChars]

theorem lines_headText (hne : lines ≠ []) (h : ∀ line ∈ lines, IsLine line) :
    (Text.lines (headText lines)).map String.ofList = lines := by
  rw [headText, lines_joinLines (by simpa using hne), List.map_map]
  · simp
  · rw [List.forall_mem_map]
    exact fun line hline => (h line hline).2

/-! ## Single lines -/

/-- The bytes of a line, with its line end. -/
def lineBytes (line : List Char) : Bytes := Utf8.encodeChars line ++ crlf

theorem crlf_eq : crlf = Utf8.encodeChars lineEnd := by decide

/-- **A line ends where it is meant to**, be it with a carriage return as its last character. -/
theorem endsWithFirst_lineBytes (h : ¬lineEnd <:+: line) :
    EndsWithFirst crlf (lineBytes line) := by
  refine ⟨List.suffix_append _ _, ?_⟩
  rintro p ⟨y, hy⟩ ⟨x, rfl⟩
  rw [List.append_assoc, lineBytes, crlf_eq, ← Utf8.encodeChars_append] at hy
  obtain ⟨a, b, hab, rfl, rfl⟩ :=
    Utf8.exists_of_encodeChars_append (by simp [lineEnd]) (by simp [lineEnd]) hy.symm
  obtain rfl := eq_nil_of_append_lineEnd h hab
  simpa [lineBytes, crlf_eq] using hy

theorem decode_lineBytes (line : List Char) :
    Utf8.decodeChars ((lineBytes line).take ((lineBytes line).length - crlf.length)) =
      .ok line := by
  rw [lineBytes, List.length_append, Nat.add_sub_cancel, List.take_left,
    Utf8.decodeChars_encodeChars]

end Icap
