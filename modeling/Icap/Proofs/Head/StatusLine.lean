import Icap.Head.StatusLine
import Icap.Proofs.Text.Cuts
import Icap.Proofs.Text.Numeral
import Icap.Proofs.Text.Trimmed
import Icap.Proofs.Text.Utf8

/-!
# What a status line looks like

A line gives a status code in one form alone. Every other line is refused, and the fault tells what
is wrong with it: either the line is long enough and begins as it should but has no code, or it is
no status line of this protocol at all.

* `Gives` — the lines that give a status code.
* `readIcap_eq_ok_iff` — the code of a line.
* `readIcap_eq_statusCode_iff` — the lines that lack nothing but a code.
-/

namespace Icap

open Text

/-- No decimal digit is a blank. -/
theorem Text.isBlank_of_decimal? {c : Char} (h : (decimal? c).isSome = true) :
    isBlank c = false := by
  have range : '0' ≤ c ∧ c ≤ '9' := by
    rw [decimal?] at h
    split at h
    · assumption
    · cases h
  obtain ⟨low, high⟩ : 48 ≤ c.toNat ∧ c.toNat ≤ 57 := range
  simp only [isBlank, Bool.or_eq_false_iff, Bool.and_eq_false_iff, decide_eq_false_iff_not,
    beq_eq_false_iff_ne]
  omega

namespace StatusLine

variable {line : String} {status : StatusLine} {code : Nat} {cs : List Char} {fault : LineFault}

/-- A text begins with a status code, perhaps after blanks: with three decimal digits that have it
for their value, and then the end or a space. -/
def HasCode (cs : List Char) (code : Nat) : Prop :=
  ∃ blanks digits rest, cs = blanks ++ (digits ++ rest) ∧ (∀ c ∈ blanks, isBlank c = true) ∧
    digits.length = 3 ∧ IsDecimal digits code ∧ ∀ c ∈ rest.head?, c = ' '

/-- A line gives a status code: it begins with the protocol version and a space, and the code stands
behind them. -/
def Gives (line : String) (code : Nat) : Prop :=
  ∃ cs, line.toList = icapVersion.toList ++ ' ' :: cs ∧ HasCode cs code

/-! ## The code -/

theorem hasCode_of_readCode (h : readCode cs = .ok status) : HasCode cs status.code := by
  obtain ⟨blanks, hblanks, split⟩ := exists_blanks_append cs
  have parts := digitRun_append_afterDigits decimal? (trimStart cs)
  simp only [readCode] at h
  split at h
  next three =>
    have number : IsDecimal (digitRun decimal? (trimStart cs))
        (leadingValue 10 decimal? (trimStart cs)) :=
      ⟨List.ne_nil_of_length_eq_add_one three, fun _ => isSome_of_mem_digitRun, rfl⟩
    refine ⟨blanks, _, afterDigits decimal? (trimStart cs), by rw [parts, ← split], hblanks, three,
      ?_⟩
    split at h
    next nothing =>
      cases h
      exact ⟨number, by simp [nothing]⟩
    next reason behind =>
      cases h
      exact ⟨number, by simp [behind]⟩
    · cases h
  · cases h

theorem readCode_of_hasCode (h : HasCode cs code) :
    ∃ reason, readCode cs = .ok ⟨code, reason⟩ := by
  obtain ⟨blanks, digits, rest, rfl, hblanks, three, ⟨nonempty, isDigit, rfl⟩, space⟩ := h
  have stops : ∀ c ∈ rest.head?, decimal? c = none := by
    intro c hc
    rw [space c hc]
    decide
  obtain ⟨run, behind⟩ := digitRun_append isDigit stops
  -- a digit is no blank, so trimming ends where the digits begin
  have trimmed : trimStart (blanks ++ (digits ++ rest)) = digits ++ rest := by
    obtain ⟨d, ds, rfl⟩ := List.exists_cons_of_ne_nil nonempty
    rw [trimStart_blanks_append hblanks]
    exact trimStart_cons (isBlank_of_decimal? (isDigit d List.mem_cons_self)) _
  simp only [readCode, trimmed, run, behind, leadingValue, if_pos three]
  cases rest with
  | nil => exact ⟨_, rfl⟩
  | cons c rest =>
    obtain rfl := space c rfl
    exact ⟨_, rfl⟩

/-- What follows the version is refused for its code alone. -/
theorem eq_statusCode_of_readCode (h : readCode cs = .error fault) : fault = .statusCode := by
  simp only [readCode] at h
  split at h
  · split at h <;> cases h
    rfl
  · cases h
    rfl

/-! ## The line -/

/-- A line that begins with the version and a space, and is long enough, is read from there. -/
theorem readIcap_of_version (long : leastLength ≤ (Utf8.encode line).length)
    (begins : line.toList = icapVersion.toList ++ ' ' :: cs) : readIcap line = readCode cs := by
  have cut : cutAt? ' ' line.toList = some (icapVersion.toList, cs) :=
    cutAt?_eq_some_iff.mpr ⟨begins, by decide⟩
  rw [readIcap, if_neg (Nat.not_lt.mpr long), cut]
  exact if_pos rfl

/-- A line that is refused for its code, or not refused, begins with the version and a space. -/
theorem exists_readCode_of_readIcap (h : (∃ status, readIcap line = .ok status) ∨
    readIcap line = .error .statusCode) : leastLength ≤ (Utf8.encode line).length ∧
      ∃ cs, line.toList = icapVersion.toList ++ ' ' :: cs ∧ readIcap line = readCode cs := by
  simp only [readIcap] at h ⊢
  split at h
  · rcases h with ⟨_, h⟩ | h <;> cases h
  next long =>
    refine ⟨Nat.not_lt.mp long, ?_⟩
    split at h
    · rcases h with ⟨_, h⟩ | h <;> cases h
    next version rest cut =>
      split at h
      next hversion =>
        refine ⟨rest, hversion ▸ (cutAt?_eq_some_iff.mp cut).1, ?_⟩
        rw [if_neg long, if_pos hversion]
      · rcases h with ⟨_, h⟩ | h <;> cases h

/-- A line that gives a code is long enough. -/
theorem Gives.leastLength_le (h : Gives line code) : leastLength ≤ (Utf8.encode line).length := by
  obtain ⟨cs, begins, blanks, digits, rest, rfl, -, three, -⟩ := h
  have chars := Utf8.le_length_encodeChars line.toList
  have version : icapVersion.toList.length = 8 := by decide
  rw [begins] at chars
  simp only [List.length_append, List.length_cons, version, three] at chars
  rw [Utf8.encode, begins, leastLength]
  omega

/-- **A line is read just if it gives a code**, and then as this code. -/
theorem readIcap_eq_ok_iff :
    (∃ reason, readIcap line = .ok ⟨code, reason⟩) ↔ Gives line code := by
  constructor
  · rintro ⟨reason, h⟩
    obtain ⟨-, cs, begins, same⟩ := exists_readCode_of_readIcap (.inl ⟨_, h⟩)
    exact ⟨cs, begins, hasCode_of_readCode (same ▸ h)⟩
  · intro h
    have long := h.leastLength_le
    obtain ⟨cs, begins, hasCode⟩ := h
    rw [readIcap_of_version long begins]
    exact readCode_of_hasCode hasCode

/-- **A line lacks nothing but a code** if it is long enough and begins as it should, but gives
none. -/
theorem readIcap_eq_statusCode_iff : readIcap line = .error .statusCode ↔
    leastLength ≤ (Utf8.encode line).length ∧ icapVersion.toList ++ [' '] <+: line.toList ∧
      ∀ code, ¬Gives line code := by
  constructor
  · intro h
    obtain ⟨long, cs, begins, -⟩ := exists_readCode_of_readIcap (.inr h)
    refine ⟨long, ⟨cs, by rw [begins, List.append_assoc]; rfl⟩, fun code gives => ?_⟩
    obtain ⟨reason, read⟩ := readIcap_eq_ok_iff.mpr gives
    cases h.symm.trans read
  · rintro ⟨long, ⟨cs, begins⟩, none⟩
    rw [List.append_assoc, List.singleton_append] at begins
    rw [readIcap_of_version long begins.symm]
    cases h : readCode cs with
    | ok status => exact absurd ⟨cs, begins.symm, hasCode_of_readCode h⟩ (none status.code)
    | error fault => rw [eq_statusCode_of_readCode h]

/-- An ICAP status line begins with the version. -/
theorem eq_append_of_readIcap (h : readIcap line = .ok status) :
    ∃ rest, line.toList = icapVersion.toList ++ ' ' :: rest := by
  obtain ⟨-, cs, begins, -⟩ := exists_readCode_of_readIcap (.inl ⟨_, h⟩)
  exact ⟨cs, begins⟩

end StatusLine

end Icap
