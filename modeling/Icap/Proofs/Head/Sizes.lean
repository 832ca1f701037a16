import Icap.Proofs.Text.Hexadecimal
import Icap.Proofs.Text.Trimmed

/-!
# The lines that announce a chunk

The line in front of a chunk begins with a size in digits of either case, at least one, and a size
has 64 bits. Nothing stands behind the digits, or else a semicolon and an extension. Any other line
is refused, also one whose digits write a number that has outgrown the 64 bits.

A line may also be read by positions, with a reader of numbers of which no more is known than that
it finds the number that the line begins with. Then it is read as it is without positions.

* `ChunkSize.Announces` — the lines, and what they announce.
* `ChunkSize.read_eq_ok_iff_announces` — they and no others are read.
* `ChunkSize.readBy`, `ChunkSize.readBy_eq` — a line read by positions.
* `ChunkSize.reads_of_isHexReader` — both together, and sizes as they are printed.
-/

namespace Icap

open Text

namespace ChunkSize

variable {line digits : List Char} {chunk : ChunkSize} {n : Nat}
  {reader : Bytes → Option UInt64 × Nat}

/-! ## Lines -/

/-- What a line announces: the number of 64 bits that its digits spell, and what stands behind a
semicolon, without the blanks around it. -/
inductive Announces : List Char → ChunkSize → Prop
  | bare {digits : List Char} {n : Nat} : Spells digits n → n < word → Announces digits ⟨n, none⟩
  | extended {digits rest extension : List Char} {n : Nat} : Spells digits n → n < word →
      Trims rest extension → Announces (digits ++ ';' :: rest) ⟨n, some (String.ofList extension)⟩

/-- A line of digits is read. -/
theorem read_of_spells (spells : Spells digits n) (hn : n < word) :
    read digits = .ok ⟨n, none⟩ := by
  have stops : ∀ c ∈ ([] : List Char).head?, hex? c = none := by simp
  obtain ⟨run, behind, value⟩ := spells.leadingValue_eq stops
  rw [List.append_nil] at run behind value
  simp only [read, run, behind, value]
  rw [if_neg (by simp [spells.ne_nil, hn])]

/-- So is one that goes on with a semicolon. -/
theorem read_of_extended (spells : Spells digits n) (hn : n < word) (rest : List Char) :
    read (digits ++ ';' :: rest) = .ok ⟨n, some (String.ofList (trimChars rest))⟩ := by
  have stops : ∀ c ∈ (';' :: rest).head?, hex? c = none := by
    rintro c ⟨⟩
    decide
  obtain ⟨run, behind, value⟩ := spells.leadingValue_eq stops
  simp only [read, run, behind, value]
  rw [if_neg (by simp [spells.ne_nil, hn])]

theorem read_of_announces (h : Announces line chunk) : read line = .ok chunk := by
  cases h with
  | bare spells hn => exact read_of_spells spells hn
  | extended spells hn trims =>
    rw [read_of_extended spells hn, trimChars_eq_iff.mpr trims]

theorem announces_of_read (h : read line = .ok chunk) : Announces line chunk := by
  have parts := digitRun_append_afterDigits hex? line
  simp only [read] at h
  split at h
  · cases h
  next accepted =>
    obtain ⟨nonempty, fits⟩ := not_or.mp accepted
    have spells := spells_digitRun nonempty
    split at h
    next behind =>
      rw [behind, List.append_nil] at parts
      cases h
      rw [parts] at spells
      exact .bare spells (Nat.not_le.mp fits)
    next rest behind =>
      rw [behind] at parts
      cases h
      have trims : Trims rest (trimChars rest) := trimChars_eq_iff.mp rfl
      have announced := Announces.extended spells (Nat.not_le.mp fits) trims
      rwa [parts] at announced
    · cases h

/-- **A line is read** just if it announces a chunk, and as what it announces. -/
theorem read_eq_ok_iff_announces : read line = .ok chunk ↔ Announces line chunk :=
  ⟨announces_of_read, read_of_announces⟩

/-! ## Positions -/

/-- Reads the line in front of a chunk with a reader of numbers. The byte behind the digits
decides, and the extension starts behind this byte. -/
def readBy (reader : Bytes → Option UInt64 × Nat) (line : List Char) :
    Option (Except LineFault ChunkSize) :=
  let (number, offset) := reader (Utf8.encodeChars line)
  if offset = 0 then some (.error .chunkSize)
  else
    match number with
    | none => some (.error .chunkSize)
    | some size =>
      if byteLength line = offset then some (.ok ⟨size.toNat, none⟩)
      else do
        let b ← (Utf8.encodeChars line)[offset]?
        if b = UInt8.ofNat ';'.toNat then
          let (_, extension) ← cutAtByte? (offset + 1) line
          return .ok ⟨size.toNat, some (String.ofList (trimChars extension))⟩
        else return .error .chunkSize

theorem readBy_eq_readChecked (h : IsHexReader reader) (line : List Char) :
    readBy reader line = readChecked line := by
  have length := h.length_encodeChars line
  have found := h.number_encodeChars line
  rw [readBy, readChecked]
  generalize reader (Utf8.encodeChars line) = answer at length found
  obtain ⟨number, offset⟩ := answer
  dsimp only at length found
  subst length
  by_cases empty : (digitRun hex? line).length = 0
  · rw [if_pos (.inl empty)]
    simp only [if_pos empty]
  cases number with
  | none =>
    -- any number of 64 bits would have been found
    have outgrown : word ≤ leadingValue 16 hex? line := by
      by_contra fits
      have number := UInt64.toNat_ofNat_of_lt (Nat.not_le.mp fits)
      exact Option.some_ne_none _ ((found _).mpr number).symm
    rw [if_pos (.inr outgrown)]
    simp only [if_neg empty]
  | some size =>
    have value : size.toNat = leadingValue 16 hex? line := (found size).mp rfl
    have fits : ¬word ≤ leadingValue 16 hex? line := by
      rw [← value]
      exact Nat.not_le.mpr size.toNat_lt
    rw [if_neg (not_or.mpr ⟨empty, fits⟩), ← value]
    simp only [if_neg empty]

/-- **Whichever reader is used,** the line is never cut inside a character, and is read as it is
without positions. -/
theorem readBy_eq (h : IsHexReader reader) (line : List Char) :
    readBy reader line = some (read line) := by
  rw [readBy_eq_readChecked h, readChecked_eq]

/-- **The line in front of a chunk.** With any reader of numbers, a line is read to an end, and
what comes out does not depend on the reader. A line is read just if it begins with digits, at least
one, that write a number of 64 bits, and nothing or a semicolon follows; the number is the size, and
what follows the semicolon is the extension, without the blanks around it. And a number of 64 bits
is read back from the text that is printed of it, zeros in front and letters of either case. -/
theorem reads_of_isHexReader (h : IsHexReader reader) :
    (∀ line, readBy reader line = some (read line)) ∧
    (∀ line chunk, read line = .ok chunk ↔ Announces line chunk) ∧
    ∀ n < word, ∀ zeros text, foldCase text = List.replicate zeros '0' ++ (hex n).toList →
      read text = .ok ⟨n, none⟩ := by
  refine ⟨readBy_eq h, fun _ _ => read_eq_ok_iff_announces, ?_⟩
  intro n hn zeros text printed
  exact read_of_spells (spells_of_foldCase_eq printed) hn

/-- The greatest size is read, the one above it is refused, and a size is read back. -/
theorem reads_of_isHexReader_greatest :
    IsHexReader readHex ∧
    readBy readHex "0FFFFffffFFFFffff; ieof ".toList = some (.ok ⟨word - 1, some "ieof"⟩) ∧
    readBy readHex "10000000000000000".toList = some (.error .chunkSize) ∧
    255 < word ∧ foldCase "00fF".toList = List.replicate 2 '0' ++ (hex 255).toList ∧
    readBy readHex "00fF".toList = some (.ok ⟨255, none⟩) := by
  obtain ⟨positions, -, printed⟩ := reads_of_isHexReader isHexReader_readHex
  have fits : 255 < word := by decide
  have text : foldCase "00fF".toList = List.replicate 2 '0' ++ (hex 255).toList := by
    rw [hex, String.toList_ofList, digitsOnto_of_le _ (by decide), digitsOnto_of_lt _ (by decide)]
    decide
  refine ⟨isHexReader_readHex, ?_, ?_, fits, text, ?_⟩
  · rw [positions]
    decide
  · rw [positions]
    decide
  · rw [positions, printed 255 fits 2 _ text]

end ChunkSize

end Icap
