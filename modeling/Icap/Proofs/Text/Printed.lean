import Icap.Proofs.Head.ChunkSize
import Icap.Proofs.Text.Numeral
import Mathlib.Algebra.Group.Nat.Defs
import Mathlib.Data.List.TakeWhile

/-!
# Numbers printed

A number is printed with the digits that it has in a base, and with no zero in front of them. What
is printed is one of the texts that write the number, so it is read back.

* `IsNumeral` — the digits of a number.
* `exists_digits` — what the printer writes.
* `spells_hex`, `wholeDecimal?_decimal` — what is printed is read back.
-/

namespace Icap.Text

variable {base bound d n : Nat} {ds : List Nat} {c : Char}

/-- The digits of a number in a base, the first one weighing most and no zero in front of others. -/
structure IsNumeral (base : Nat) (ds : List Nat) (n : Nat) : Prop where
  digit_lt : ∀ d ∈ ds, d < base
  value : valueOf base ds = n
  shortest : ∀ d more, ds = d :: more → d = 0 → more = []

namespace IsNumeral

theorem singleton (h : d < base) : IsNumeral base [d] d where
  digit_lt := by simpa using h
  value := by simp [valueOf]
  shortest := by
    rintro _ _ ⟨⟩ -
    rfl

/-- A digit behind a number that is not zero. -/
theorem concat (h : IsNumeral base ds n) (hn : n ≠ 0) (hd : d < base) :
    IsNumeral base (ds ++ [d]) (n * base + d) where
  digit_lt := by
    intro x hx
    rcases List.mem_append.mp hx with hx | hx
    · exact h.digit_lt x hx
    · rw [List.mem_singleton.mp hx]
      exact hd
  value := by rw [valueOf_concat, h.value]
  shortest := by
    rintro first more heq rfl
    cases ds with
    | nil => exact absurd h.value.symm hn
    | cons x xs =>
      obtain ⟨rfl, -⟩ := List.cons.inj heq
      -- a zero in front stands alone, and then the number is zero
      obtain rfl := h.shortest 0 xs rfl rfl
      have zero : valueOf base [0] = 0 := by simp [valueOf]
      exact absurd (h.value.symm.trans zero) hn

theorem exists_digit (h : IsNumeral base ds n) (hc : c ∈ ds.map hexDigit) :
    ∃ d < base, hexDigit d = c := by
  obtain ⟨d, hd, printed⟩ := List.mem_map.mp hc
  exact ⟨d, h.digit_lt d hd, printed⟩

end IsNumeral

/-- Digits write a number below the power of the base that their count is the exponent of. -/
theorem valueOf_lt (h : ∀ d ∈ ds, d < base) : valueOf base ds < base ^ ds.length := by
  induction ds using List.reverseRecOn with
  | nil => exact Nat.zero_lt_one
  | append_singleton ds d ih =>
    obtain ⟨before, last⟩ := List.forall_mem_append.mp h
    have hd := last d List.mem_cons_self
    calc valueOf base (ds ++ [d])
        = valueOf base ds * base + d := valueOf_concat base ds d
      _ < (valueOf base ds + 1) * base := by
        rw [Nat.add_mul, Nat.one_mul]
        omega
      _ ≤ base ^ ds.length * base := Nat.mul_le_mul_right base (ih before)
      _ = base ^ (ds ++ [d]).length := by rw [List.length_append, Nat.pow_add]; simp

/-! ## What is printed -/

theorem digitsOnto_of_lt (h : 2 ≤ base) (hn : n < base) (tail : List Char) :
    digitsOnto base h n tail = hexDigit n :: tail := by
  rw [digitsOnto, if_pos hn]

theorem digitsOnto_of_le (h : 2 ≤ base) (hn : base ≤ n) (tail : List Char) :
    digitsOnto base h n tail = digitsOnto base h (n / base) (hexDigit (n % base) :: tail) := by
  rw [digitsOnto, if_neg (Nat.not_lt.mpr hn)]

/-- **The printer writes the digits of the number**, at least one. -/
theorem exists_digits (h : 2 ≤ base) (n : Nat) (tail : List Char) :
    ∃ ds, ds ≠ [] ∧ IsNumeral base ds n ∧ digitsOnto base h n tail = ds.map hexDigit ++ tail := by
  induction n using Nat.strongRecOn generalizing tail with
  | ind n ih =>
    by_cases hn : n < base
    · refine ⟨[n], List.cons_ne_nil _ _, .singleton hn, ?_⟩
      rw [digitsOnto_of_lt h hn]
      rfl
    · have hn : base ≤ n := Nat.not_lt.mp hn
      have hlt : n / base < n := Nat.div_lt_self (by omega) h
      have hpos : n / base ≠ 0 := Nat.ne_of_gt (Nat.div_pos hn (by omega))
      obtain ⟨ds, -, numeral, printed⟩ := ih (n / base) hlt (hexDigit (n % base) :: tail)
      refine ⟨ds ++ [n % base], by simp, ?_, ?_⟩
      · have whole : n / base * base + n % base = n := Nat.div_add_mod' n base
        rw [← whole]
        simpa [whole] using numeral.concat hpos (Nat.mod_lt n (by omega))
      · rw [digitsOnto_of_le h hn, printed, List.map_append, List.append_assoc]
        rfl

/-- A number below a power of the base is printed with no more digits than the exponent says. -/
theorem length_digitsOnto_le (h : 2 ≤ base) : ∀ {k n : Nat} (tail : List Char),
    n < base ^ (k + 1) → (digitsOnto base h n tail).length ≤ k + 1 + tail.length
  | 0, n, tail, hn => by
    rw [digitsOnto_of_lt h (by simpa using hn), List.length_cons]
    omega
  | k + 1, n, tail, hn => by
    by_cases hlt : n < base
    · rw [digitsOnto_of_lt h hlt, List.length_cons]
      omega
    · have hdiv : n / base < base ^ (k + 1) := by
        rw [Nat.pow_succ'] at hn
        exact Nat.div_lt_of_lt_mul hn
      have := length_digitsOnto_le h (hexDigit (n % base) :: tail) hdiv
      rw [digitsOnto_of_le h (Nat.not_lt.mp hlt)]
      rw [List.length_cons] at this
      omega

/-! ## Hexadecimal -/

theorem exists_digits_hex (n : Nat) :
    ∃ ds, ds ≠ [] ∧ IsNumeral 16 ds n ∧ (hex n).toList = ds.map hexDigit := by
  obtain ⟨ds, nonempty, numeral, printed⟩ := exists_digits (show 2 ≤ 16 by decide) n []
  refine ⟨ds, nonempty, numeral, ?_⟩
  rw [hex, String.toList_ofList, printed, List.append_nil]

theorem exists_digit_of_mem_hex (hc : c ∈ (hex n).toList) : ∃ d < 16, hexDigit d = c := by
  obtain ⟨ds, -, numeral, printed⟩ := exists_digits_hex n
  exact numeral.exists_digit (printed ▸ hc)

/-- Digits spell the number that they are the digits of. -/
theorem spells_of_digits (nonempty : ds ≠ []) (small : ∀ d ∈ ds, d < 16) :
    Spells (ds.map hexDigit) (valueOf 16 ds) := by
  have digit (d : Nat) (hd : d ∈ ds) : IsHexDigit (hexDigit d) d := ⟨small d hd, .inl rfl⟩
  have values : (ds.map hexDigit).filterMap hex? = ds := by
    rw [List.filterMap_map, List.filterMap_congr (g := some), List.filterMap_some]
    exact fun d hd => (digit d hd).hex?_eq
  have spells : Spells (ds.map hexDigit) (valueOf 16 ((ds.map hexDigit).filterMap hex?)) := by
    refine spells_valueOf (by simpa using nonempty) fun c hc => ?_
    obtain ⟨d, hd, rfl⟩ := List.mem_map.mp hc
    exact ⟨d, digit d hd⟩
  rwa [values] at spells

/-- **A number in hexadecimal is read back.** -/
theorem spells_hex (n : Nat) : Spells (hex n).toList n := by
  obtain ⟨ds, nonempty, numeral, printed⟩ := exists_digits_hex n
  rw [printed, ← numeral.value]
  exact spells_of_digits nonempty numeral.digit_lt

/-- A number of 64 bits has sixteen digits at most. -/
theorem length_hex_le (h : n < word) : (hex n).toList.length ≤ 16 := by
  have bound : n < 16 ^ (15 + 1) := h
  rw [hex, String.toList_ofList]
  exact length_digitsOnto_le (by decide) [] bound

/-! ## Decimal -/

theorem exists_digits_decimal (n : Nat) :
    ∃ ds, ds ≠ [] ∧ IsNumeral 10 ds n ∧ (decimal n).toList = ds.map hexDigit := by
  obtain ⟨ds, nonempty, numeral, printed⟩ := exists_digits (show 2 ≤ 10 by decide) n []
  refine ⟨ds, nonempty, numeral, ?_⟩
  rw [decimal, String.toList_ofList, printed, List.append_nil]

theorem exists_digit_of_mem_decimal (hc : c ∈ (decimal n).toList) : ∃ d < 10, hexDigit d = c := by
  obtain ⟨ds, -, numeral, printed⟩ := exists_digits_decimal n
  exact numeral.exists_digit (printed ▸ hc)

theorem decimal?_hexDigit : ∀ d < 10, decimal? (hexDigit d) = some d := by decide

theorem isSome_decimal? (hc : c ∈ (decimal n).toList) : (decimal? c).isSome = true := by
  obtain ⟨d, hd, rfl⟩ := exists_digit_of_mem_decimal hc
  rw [decimal?_hexDigit d hd]
  rfl

theorem decimal_ne_nil (n : Nat) : (decimal n).toList ≠ [] := by
  obtain ⟨ds, nonempty, -, printed⟩ := exists_digits_decimal n
  rw [printed]
  simpa using nonempty

theorem leadingValue_decimal (n : Nat) : leadingValue 10 decimal? (decimal n).toList = n := by
  obtain ⟨ds, nonempty, numeral, printed⟩ := exists_digits_decimal n
  have run : digitRun decimal? (decimal n).toList = (decimal n).toList :=
    (digitRun_of_digits fun _ => isSome_decimal?).1
  have values : (ds.map hexDigit).filterMap decimal? = ds := by
    rw [List.filterMap_map, List.filterMap_congr (g := some), List.filterMap_some]
    exact fun d hd => decimal?_hexDigit d (numeral.digit_lt d hd)
  rw [leadingValue, run, printed, values, numeral.value]

/-- **A number in decimal is read back**, if it is below the bound. -/
theorem wholeDecimal?_decimal (h : n < bound) :
    wholeDecimal? bound (decimal n).toList = some n := by
  have none_left : afterDigits decimal? (decimal n).toList = [] :=
    (digitRun_of_digits fun _ => isSome_decimal?).2
  rw [wholeDecimal?, leadingValue_decimal, if_pos ⟨decimal_ne_nil n, none_left, h⟩]

end Icap.Text
