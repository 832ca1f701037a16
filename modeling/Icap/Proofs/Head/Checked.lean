import Icap.Head.ChunkSize
import Icap.Head.Field
import Icap.Head.Sections
import Icap.Head.StatusLine
import Icap.Proofs.Text.Numeral
import Icap.Proofs.Text.Slices

/-!
# Heads by positions

What the lines of a head say, read by the positions of bytes: each line is cut in front of or behind
a byte that has been found in it, or behind the digits it begins with. There it never is cut inside
a character, so the checked functions all do what their namesakes do.

* `Field.readChecked`, `Field.findChecked` — fields.
* `StatusLine.readIcapChecked`, `StatusLine.readHttpChecked` — status lines.
* `ChunkSize.readChecked` — the line in front of a chunk.
* `Sections.readChecked` — encapsulated sections.
-/

namespace Icap

open Text

/-! ## Digits -/

namespace Text

variable {c : Char} {digit? : Char → Option Nat}

theorem toNat_lt_of_decimal? (h : (decimal? c).isSome = true) : c.toNat < 0x80 := by
  rw [decimal?] at h
  split at h
  next range => exact Nat.lt_of_le_of_lt (show c.toNat ≤ 57 from range.2) (by decide)
  · cases h

theorem toNat_lt_of_hex? (h : (hex? c).isSome = true) : c.toNat < 0x80 := by
  rw [hex?] at h
  split at h
  next range => exact Nat.lt_of_le_of_lt (show c.toNat ≤ 57 from range.2) (by decide)
  · split at h
    next range => exact Nat.lt_of_le_of_lt (show c.toNat ≤ 102 from range.2) (by decide)
    · split at h
      next range => exact Nat.lt_of_le_of_lt (show c.toNat ≤ 70 from range.2) (by decide)
      · cases h

/-- Digits are bytes, and as many bytes as they are digits. -/
theorem byteLength_digitRun (small : ∀ c, (digit? c).isSome = true → c.toNat < 0x80)
    (cs : List Char) : byteLength (digitRun digit? cs) = (digitRun digit? cs).length :=
  byteLength_of_small fun c there => small c (isSome_of_mem_digitRun there)

/-- A text can be cut behind the digits it begins with. -/
theorem cutAtByte?_digitRun (small : ∀ c, (digit? c).isSome = true → c.toNat < 0x80)
    (cs : List Char) :
    cutAtByte? (digitRun digit? cs).length cs = some (digitRun digit? cs, afterDigits digit? cs) :=
  cutAtByte?_eq_some_iff.mpr
    ⟨(digitRun_append_afterDigits digit? cs).symm, (byteLength_digitRun small cs).symm⟩

end Text

/-! ## Fields -/

namespace Field

/-- Reads a line as a field: what stands in front of the first colon and behind it. -/
def readChecked (line : String) : Option (Except LineFault Field) :=
  match (Utf8.encode line).findIdx? (· == UInt8.ofNat ':'.toNat) with
  | none => some (.error (.noDelimiter ':'))
  | some 0 => some (.error .noName)
  | some (p + 1) => do
    let (name, _) ← cutAtByte? (p + 1) line.toList
    let (_, value) ← cutAtByte? (p + 2) line.toList
    return .ok ⟨String.ofList (trimEnd name), String.ofList (trimChars value)⟩

theorem readChecked_eq (line : String) : readChecked line = some (read line) := by
  have colon : ':'.toNat < 0x80 := by decide
  rw [readChecked, read, Utf8.encode]
  cases cut : cutAt? ':' line.toList with
  | none => rw [findIdx?_encodeChars_of_cutAt?_none colon cut]
  | some parts =>
    obtain ⟨name, value⟩ := parts
    rw [findIdx?_encodeChars_of_cutAt? colon cut]
    have whole := (cutAt?_eq_some_iff.mp cut).1
    cases name with
    | nil => rfl
    | cons c name =>
      obtain ⟨p, size⟩ : ∃ p, byteLength (c :: name) = p + 1 :=
        Nat.exists_eq_add_one.mpr
          (List.length_pos_iff.mpr fun nil =>
            List.cons_ne_nil c name (Utf8.eq_nil_of_encodeChars nil))
      have front := cutAtByte?_eq_some_iff.mpr ⟨whole, size.symm⟩
      have behind := cutAtByte?_behind colon (c :: name) value
      rw [← whole, size] at behind
      simp [size, front, behind]

/-- The first field with a name among numbered lines, and its number. -/
def findFromChecked (name : String) (index : Nat) : List String → Option (Option (Nat × Field))
  | [] => some none
  | line :: more => do
    match ← readChecked line with
    | .ok f =>
      if sameLetters f.name name then return some (index, f)
      else findFromChecked name (index + 1) more
    | .error _ => findFromChecked name (index + 1) more

theorem findFromChecked_eq (name : String) : ∀ (lines : List String) (index : Nat),
    findFromChecked name index lines = some (findFrom name index lines)
  | [], _ => rfl
  | line :: more, index => by
    simp only [findFromChecked, findFrom, readChecked_eq, Option.bind_eq_bind, Option.bind_some]
    cases read line with
    | ok f =>
      simp only
      split
      · rfl
      · exact findFromChecked_eq name more (index + 1)
    | error _ => exact findFromChecked_eq name more (index + 1)

/-- The first field with a name in a head, and the number of its line. -/
def findChecked (head : List String) (name : String) : Option (Option (Nat × Field)) :=
  findFromChecked name 1 head.tail

theorem findChecked_eq (head : List String) (name : String) :
    findChecked head name = some (find? head name) :=
  findFromChecked_eq name head.tail 1

end Field

/-! ## Status lines -/

namespace StatusLine

/-- Reads what follows the version: the reason stands behind the code. -/
def readCodeChecked (cs : List Char) : Option (Except LineFault StatusLine) :=
  let cs := trimStart cs
  if (digitRun decimal? cs).length = 3 then do
    let (_, reason) ← cutAtByte? (digitRun decimal? cs).length cs
    if reason = [] ∨ reason.head? = some ' ' then
      return .ok ⟨leadingValue 10 decimal? cs, String.ofList (trimChars reason)⟩
    else return .error .statusCode
  else some (.error .statusCode)

theorem readCodeChecked_eq (cs : List Char) : readCodeChecked cs = some (readCode cs) := by
  rw [readCodeChecked, readCode]
  split
  · rw [cutAtByte?_digitRun fun _ => toNat_lt_of_decimal?]
    cases behind : afterDigits decimal? (trimStart cs) with
    | nil => rfl
    | cons c reason =>
      by_cases space : c = ' '
      · subst space
        simp
      · simp [space]
  · rfl

/-- Reads the first line of an ICAP response. -/
def readIcapChecked (line : String) : Option (Except LineFault StatusLine) :=
  if (Utf8.encode line).length < leastLength then some (.error .tooShort)
  else
    match cutAt? ' ' line.toList with
    | none => some (.error (.noDelimiter ' '))
    | some (version, rest) =>
      if version = icapVersion.toList then readCodeChecked rest else some (.error .icapVersion)

theorem readIcapChecked_eq (line : String) : readIcapChecked line = some (readIcap line) := by
  rw [readIcapChecked, readIcap]
  split
  · rfl
  · cases cutAt? ' ' line.toList with
    | none => rfl
    | some parts =>
      simp only
      split
      · exact readCodeChecked_eq parts.2
      · rfl

/-- Reads the first line of an HTTP response. -/
def readHttpChecked (line : String) : Option (Except LineFault StatusLine) :=
  match cutAt? ' ' line.toList with
  | none => some (.error (.noDelimiter ' '))
  | some (version, rest) =>
    if httpVersions.contains (String.ofList version) then readCodeChecked rest
    else some (.error .httpVersion)

theorem readHttpChecked_eq (line : String) : readHttpChecked line = some (readHttp line) := by
  rw [readHttpChecked, readHttp]
  cases cutAt? ' ' line.toList with
  | none => rfl
  | some parts =>
    simp only
    split
    · exact readCodeChecked_eq parts.2
    · rfl

end StatusLine

/-! ## Chunk sizes -/

namespace ChunkSize

/-- Reads the line in front of a chunk: the byte behind the size decides. -/
def readChecked (line : List Char) : Option (Except LineFault ChunkSize) :=
  let size := leadingValue 16 hex? line
  let offset := (digitRun hex? line).length
  if offset = 0 ∨ word ≤ size then some (.error .chunkSize)
  else if byteLength line = offset then some (.ok ⟨size, none⟩)
  else do
    let b ← (Utf8.encodeChars line)[offset]?
    if b = UInt8.ofNat ';'.toNat then
      let (_, extension) ← cutAtByte? (offset + 1) line
      return .ok ⟨size, some (String.ofList (trimChars extension))⟩
    else return .error .chunkSize

theorem readChecked_eq (line : List Char) : readChecked line = some (read line) := by
  have parts := digitRun_append_afterDigits hex? line
  have digits : byteLength (digitRun hex? line) = (digitRun hex? line).length :=
    byteLength_digitRun (fun _ => toNat_lt_of_hex?) line
  have total :
      byteLength line = (digitRun hex? line).length + byteLength (afterDigits hex? line) := by
    rw [← digits, ← byteLength_append, parts]
  rw [readChecked, read, total]
  by_cases refused : digitRun hex? line = [] ∨ word ≤ leadingValue 16 hex? line
  · rw [if_pos refused, if_pos (refused.imp_left List.length_eq_zero_iff.mpr)]
  rw [if_neg refused, if_neg fun h => refused (h.imp_left List.length_eq_zero_iff.mp)]
  cases behind : afterDigits hex? line with
  | nil => simp
  | cons c extension =>
    have semicolon : ';'.toNat < 0x80 := by decide
    obtain ⟨first, here, tells⟩ :=
      exists_getElem?_encodeChars semicolon (digitRun hex? line) extension c
    rw [behind] at parts
    rw [parts, digits] at here
    have more : 0 < byteLength (c :: extension) :=
      Nat.lt_of_lt_of_le (Nat.zero_lt_succ _) (Utf8.le_length_encodeChars (c :: extension))
    rw [if_neg (by omega), here]
    simp only [Option.bind_eq_bind, Option.bind_some]
    by_cases which : c = ';'
    · subst which
      have cut := cutAtByte?_behind semicolon (digitRun hex? line) extension
      rw [parts, digits] at cut
      rw [if_pos (tells.mpr rfl), cut]
      rfl
    · rw [if_neg (mt tells.mp which)]
      simp [which]

end ChunkSize

/-! ## Encapsulated sections -/

namespace Sections

/-- Reads a part of the list that is not blank. -/
def readPartChecked (part : List Char) : Option (Except ParseFault (List Char × Nat)) :=
  match cutAt? '=' part with
  | none => do return .error (.invalidValue .encapsulated (← excerptChecked part))
  | some (name, offset) =>
    match wholeDecimal? word (trimChars offset) with
    | none => do return .error (.invalidValue .encapsulated (← excerptChecked (trimChars offset)))
    | some n => some (.ok (foldCase (trimChars name), n))

theorem readPartChecked_eq (part : List Char) : readPartChecked part = some (readPart part) := by
  simp only [readPartChecked, readPart, excerptChecked_eq]
  cases cutAt? '=' part with
  | none => rfl
  | some parts =>
    obtain ⟨name, offset⟩ := parts
    simp only
    cases wholeDecimal? word (trimChars offset) <;> rfl

/-- Reads parts onto the sections found so far. -/
def readPartsChecked (s : Sections) : List (List Char) → Option (Except ParseFault Sections)
  | [] => some (.ok s)
  | part :: more =>
    if trimChars part = [] then readPartsChecked s more
    else do
      match ← readPartChecked (trimChars part) with
      | .error fault => return .error fault
      | .ok (name, offset) => readPartsChecked (s.set name offset) more

theorem readPartsChecked_eq : ∀ (parts : List (List Char)) (s : Sections),
    readPartsChecked s parts = some (readParts s parts)
  | [], _ => rfl
  | part :: more, s => by
    simp only [readPartsChecked, readParts, readPartChecked_eq, Option.bind_eq_bind,
      Option.bind_some]
    split
    · exact readPartsChecked_eq more s
    · cases readPart (trimChars part) with
      | error _ => rfl
      | ok entry => exact readPartsChecked_eq more _

/-- Reads the value of an `Encapsulated` field. -/
def readChecked (value : String) : Option (Except ParseFault Sections) :=
  readPartsChecked {} (piecesBy ',' value.toList)

theorem readChecked_eq (value : String) : readChecked value = some (read value) :=
  readPartsChecked_eq _ _

end Sections

end Icap
