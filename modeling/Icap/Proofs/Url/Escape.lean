import Icap.Proofs.Text.Cuts
import Icap.Proofs.Text.Printed
import Icap.Proofs.Text.Utf8
import Icap.Url.Escape

/-!
# Characters that are seen in URLs

A URL shows nothing but printable characters of ASCII. What else a text holds is escaped, and what
has been escaped is left as it is when it is escaped again.

* `IsVisible` — the printable characters of ASCII but for the space.
* `Url.forall_mem_escape` — what is seen of a text that has been escaped.
* `Url.escape_eq_self` — a text that needs no escapes.
-/

namespace Icap

open Text

/-- Whether a character is one of those that ASCII prints, but not the space. -/
def IsVisible (c : Char) : Prop := 0x20 < c.toNat ∧ c.toNat < 0x7F

instance (c : Char) : Decidable (IsVisible c) := inferInstanceAs (Decidable (_ ∧ _))

theorem isVisible_of_ne_space {c : Char} (low : 0x20 ≤ c.toNat) (high : c.toNat < 0x7F)
    (h : c ≠ ' ') : IsVisible c := by
  have space : c.toNat ≠ 0x20 := fun heq => h (Char.toNat_inj.mp heq)
  exact ⟨by omega, high⟩

theorem isVisible_hexDigit : ∀ d < 16, IsVisible (hexDigit d) := by decide

theorem isVisible_decimal (n : Nat) : ∀ c ∈ (decimal n).toList, IsVisible c := by
  intro c hc
  obtain ⟨d, hd, rfl⟩ := exists_digit_of_mem_decimal hc
  exact isVisible_hexDigit d (Nat.lt_trans hd (by decide))

namespace Url

variable {reserved cs : List Char} {c : Char} {P : Char → Prop}

/-! ## Escapes -/

/-- The escape of a byte is a percent sign with two digits. -/
theorem forall_mem_escapeByte (percent : P '%') (digit : ∀ d < 16, P (capitalDigit d)) (b : UInt8) :
    ∀ c ∈ escapeByte b, P c := by
  have := b.toNat_lt
  intro c hc
  simp only [escapeByte, List.mem_cons, List.not_mem_nil, or_false] at hc
  rcases hc with rfl | rfl | rfl
  · exact percent
  · exact digit _ (by omega)
  · exact digit _ (by omega)

/-- **What is seen of a text that has been escaped** are escapes, and its characters that need
none. -/
theorem forall_mem_escape (percent : P '%') (digit : ∀ d < 16, P (capitalDigit d))
    (plain : ∀ c ∈ cs, 0x20 ≤ c.toNat → c.toNat < 0x7F → c ∉ reserved → P c) :
    ∀ c ∈ escape reserved cs, P c := by
  intro c hc
  obtain ⟨x, hx, hc⟩ := List.mem_flatMap.mp hc
  rw [escapeChar] at hc
  split at hc
  · obtain ⟨b, -, hc⟩ := List.mem_flatMap.mp hc
    exact forall_mem_escapeByte percent digit b c hc
  next other =>
    obtain rfl := List.mem_singleton.mp hc
    simp only [not_or] at other
    exact plain c hx (by omega) (by omega) other.2.2

/-- A text without spaces is visible once it has been escaped. -/
theorem isVisible_escape (h : ' ' ∉ cs) : ∀ c ∈ escape [] cs, IsVisible c := by
  refine forall_mem_escape (by decide) (by decide) fun c hc low high _ => ?_
  exact isVisible_of_ne_space low high (by rintro rfl; exact h hc)

/-- **A text that needs no escapes** is left as it is. -/
theorem escape_eq_self (h : ∀ c ∈ cs, IsVisible c ∧ c ∉ reserved) : escape reserved cs = cs := by
  induction cs with
  | nil => rfl
  | cons c cs ih =>
    obtain ⟨⟨⟨low, high⟩, plain⟩, others⟩ := List.forall_mem_cons.mp h
    have alone : escapeChar reserved c = [c] := by
      rw [escapeChar, if_neg]
      simp only [not_or]
      exact ⟨by omega, by omega, plain⟩
    rw [escape, List.flatMap_cons, alone, ← escape, ih others, List.singleton_append]

/-- What is escaped does not vanish. -/
theorem escape_ne_nil (h : cs ≠ []) : escape reserved cs ≠ [] := by
  obtain ⟨c, cs, rfl⟩ := List.exists_cons_of_ne_nil h
  have seen : escapeChar reserved c ≠ [] := by
    rw [escapeChar]
    split
    · obtain ⟨b, bs, split⟩ := List.exists_cons_of_ne_nil (Utf8.encodeChar_ne_nil c)
      rw [split, List.flatMap_cons]
      exact List.append_ne_nil_of_left_ne_nil (List.cons_ne_nil _ _) _
    · exact List.cons_ne_nil _ _
  rw [escape, List.flatMap_cons]
  exact List.append_ne_nil_of_left_ne_nil seen _

end Url

end Icap
