import Icap.Head.Sections
import Icap.Proofs.Text.Cuts
import Icap.Proofs.Text.Numeral
import Icap.Proofs.Text.Trimmed

/-!
# What a list of sections announces

A list of sections is cut at its commas. It can be read if each of its parts is blank or has an
entry, and then the last entry for a name counts. Otherwise the first part that is neither is what
is wrong with the list.

* `Sections.IsEntry`, `Sections.IsPassable`, `Sections.IsRefused` — the parts of a list.
* `Sections.offset_readParts` — the offsets that parts set.
* `Sections.read_cases` — the lists that can be read, what they say, and why others are refused.
-/

namespace Icap

open Text

namespace Sections

/-! ## Names -/

/-- The sections of which the offset is kept. -/
inductive Key
  | reqHdr
  | reqBody
  | resHdr
  | resBody
  | nullBody
  deriving DecidableEq, Repr

/-- The name of a section. -/
def Key.name : Key → String
  | .reqHdr => "req-hdr"
  | .reqBody => "req-body"
  | .resHdr => "res-hdr"
  | .resBody => "res-body"
  | .nullBody => "null-body"

/-- The offset of a section. -/
def offset (s : Sections) : Key → Option Nat
  | .reqHdr => s.reqHdr
  | .reqBody => s.reqBody
  | .resHdr => s.resHdr
  | .resBody => s.resBody
  | .nullBody => s.nullBody

theorem offset_empty (key : Key) : ({} : Sections).offset key = none := by
  cases key <;> rfl

theorem foldCase_name (key : Key) : foldCase key.name.toList = key.name.toList := by
  cases key <;> decide

/-- **An offset is set** for the section that is named, and for no other. -/
theorem offset_set (s : Sections) (name : List Char) (n : Nat) (key : Key) :
    (s.set name n).offset key =
      if name = foldCase key.name.toList then some n else s.offset key := by
  rw [foldCase_name]
  by_cases named : ∃ key : Key, name = key.name.toList
  · obtain ⟨key', rfl⟩ := named
    cases key' <;> cases key <;> rfl
  · have other (key : Key) : name ≠ key.name.toList := fun same => named ⟨key, same⟩
    rw [if_neg (other key), set, if_neg (show name ≠ "req-hdr".toList from other .reqHdr),
      if_neg (show name ≠ "req-body".toList from other .reqBody),
      if_neg (show name ≠ "res-hdr".toList from other .resHdr),
      if_neg (show name ≠ "res-body".toList from other .resBody),
      if_neg (show name ≠ "null-body".toList from other .nullBody)]

/-! ## Parts -/

variable {part shown label digits : List Char} {parts before after more : List (List Char)}
  {s s' : Sections} {name name' : String} {n m : Nat} {key : Key} {fault : ParseFault}

/-- A part has an entry: an offset for a name, with an equals sign between them. The name counts
whatever the case of its letters, and blanks around either count for nothing. -/
def IsEntry (part : List Char) (name : String) (n : Nat) : Prop :=
  ∃ label digits, part = label ++ '=' :: digits ∧ '=' ∉ label ∧
    foldCase (trimChars label) = foldCase name.toList ∧ IsDecimal (trimChars digits) n ∧ n < word

/-- A part is blank or has an entry. -/
def IsPassable (part : List Char) : Prop :=
  (∀ c ∈ part, isBlank c = true) ∨ ∃ name n, IsEntry part name n

/-- A part cannot be read, and this is shown of it: all of it if it has no equals sign, and
otherwise what stands in place of an offset. -/
def IsRefused (part shown : List Char) : Prop :=
  ('=' ∉ part ∧ (∃ c ∈ part, isBlank c = false) ∧ shown = trimChars part) ∨
    ∃ label digits, part = label ++ '=' :: digits ∧ '=' ∉ label ∧ shown = trimChars digits ∧
      ¬∃ n, IsDecimal shown n ∧ n < word

theorem trimChars_ne_nil_iff : trimChars part ≠ [] ↔ ∃ c ∈ part, isBlank c = false := by
  rw [Ne, trimChars_eq_nil_iff]
  push Not
  simp only [Bool.not_eq_true]

theorem readParts_of_blank (h : ∀ c ∈ part, isBlank c = true) :
    readParts s (part :: more) = readParts s more := by
  rw [readParts, if_pos (trimChars_eq_nil_iff.mpr h)]

/-- What is read of a part with an equals sign. -/
theorem readParts_of_cut (h : '=' ∉ label) :
    readParts s ((label ++ '=' :: digits) :: more) =
      match wholeDecimal? word (trimChars digits) with
      | none => .error (.invalidValue .encapsulated (excerptChars (trimChars digits)))
      | some n => readParts (s.set (foldCase (trimChars label)) n) more := by
  have cut : cutAt? '=' (trimStart label ++ '=' :: trimEnd digits) =
      some (trimStart label, trimEnd digits) :=
    cutAt?_append (fun h' => h ((List.dropWhile_sublist isBlank).subset h')) _
  rw [readParts, trimChars_append_cons (by decide), if_neg (by simp), readPart, cut]
  simp only [trimChars_trimStart, trimChars_trimEnd]
  cases wholeDecimal? word (trimChars digits) <;> rfl

theorem readParts_of_entry (h : IsEntry part name n) :
    readParts s (part :: more) = readParts (s.set (foldCase name.toList) n) more := by
  obtain ⟨label, digits, rfl, single, named, number, small⟩ := h
  rw [readParts_of_cut single, wholeDecimal?_eq_some_iff.mpr ⟨number, small⟩, named]

theorem readParts_of_refused (h : IsRefused part shown) :
    readParts s (part :: more) = .error (.invalidValue .encapsulated (excerptChars shown)) := by
  rcases h with ⟨none, visible, rfl⟩ | ⟨label, digits, rfl, single, rfl, noNumber⟩
  · rw [readParts, if_neg (trimChars_ne_nil_iff.mpr visible), readPart,
      cutAt?_eq_none_iff.mpr fun h => none (mem_of_mem_trimChars h)]
  · have unread : wholeDecimal? word (trimChars digits) = none :=
      Option.eq_none_iff_forall_ne_some.mpr fun n read =>
        noNumber ⟨n, wholeDecimal?_eq_some_iff.mp read⟩
    rw [readParts_of_cut single, unread]

/-- A part is passable or refused. -/
theorem isPassable_or_isRefused (part : List Char) :
    IsPassable part ∨ ∃ shown, IsRefused part shown := by
  by_cases none : '=' ∉ part
  · by_cases blank : ∀ c ∈ part, isBlank c = true
    · exact .inl (.inl blank)
    · push Not at blank
      simp only [Bool.not_eq_true] at blank
      exact .inr ⟨_, .inl ⟨none, blank, rfl⟩⟩
  · obtain ⟨label, digits, cut⟩ : ∃ label digits, cutAt? '=' part = some (label, digits) := by
      cases cut : cutAt? '=' part with
      | none => exact absurd (cutAt?_eq_none_iff.mp cut) none
      | some pair => exact ⟨pair.1, pair.2, rfl⟩
    obtain ⟨split, single⟩ := cutAt?_eq_some_iff.mp cut
    by_cases number : ∃ n, IsDecimal (trimChars digits) n ∧ n < word
    · obtain ⟨n, number, small⟩ := number
      refine .inl (.inr ⟨String.ofList (trimChars label), n, label, digits, split, single, ?_,
        number, small⟩)
      rw [String.toList_ofList]
    · exact .inr ⟨_, .inr ⟨label, digits, split, single, rfl, number⟩⟩

/-- A part has one entry at most. -/
theorem IsEntry.iff_eq (h : IsEntry part name n) : IsEntry part name' m ↔
    foldCase name.toList = foldCase name'.toList ∧ n = m := by
  obtain ⟨label, digits, rfl, single, named, number, small⟩ := h
  constructor
  · rintro ⟨label', digits', split, single', named', number', -⟩
    have same := (cutAt?_append single digits).symm.trans (split ▸ cutAt?_append single' digits')
    obtain ⟨rfl, rfl⟩ := Prod.mk.inj (Option.some.inj same)
    exact ⟨named.symm.trans named', number.2.2.symm.trans number'.2.2⟩
  · rintro ⟨same, rfl⟩
    exact ⟨label, digits, rfl, single, named.trans same, number, small⟩

theorem not_isEntry_of_blank (h : ∀ c ∈ part, isBlank c = true) : ¬IsEntry part name n := by
  rintro ⟨label, digits, rfl, -⟩
  exact absurd (h '=' (by simp)) (by decide)

/-! ## Lists -/

/-- The last of the entries for a name has this offset. -/
def Last (parts : List (List Char)) (name : String) (n : Nat) : Prop :=
  ∃ before part after, parts = before ++ part :: after ∧ IsEntry part name n ∧
    ∀ part ∈ after, ∀ m, ¬IsEntry part name m

theorem not_last_nil : ¬Last [] name n := by
  rintro ⟨before, part, after, split, -⟩
  simp at split

theorem last_cons_iff : Last (part :: parts) name n ↔
    Last parts name n ∨ IsEntry part name n ∧ ∀ part ∈ parts, ∀ m, ¬IsEntry part name m := by
  constructor
  · rintro ⟨before, part', after, split, entry, none⟩
    cases before with
    | nil =>
      obtain ⟨rfl, rfl⟩ := List.cons.inj split
      exact .inr ⟨entry, none⟩
    | cons first before =>
      obtain ⟨rfl, rfl⟩ := List.cons.inj split
      exact .inl ⟨before, part', after, rfl, entry, none⟩
  · rintro (⟨before, part', after, rfl, entry, none⟩ | ⟨entry, none⟩)
    · exact ⟨part :: before, part', after, rfl, entry, none⟩
    · exact ⟨[], part, parts, rfl, entry, none⟩

/-- Where there are entries for a name, there is a last one. -/
theorem exists_last_iff :
    (∃ n, Last parts name n) ↔ ∃ part ∈ parts, ∃ n, IsEntry part name n := by
  constructor
  · rintro ⟨n, before, part, after, rfl, entry, -⟩
    exact ⟨part, by simp, n, entry⟩
  · induction parts with
    | nil => simp
    | cons part parts ih =>
      rintro ⟨part', mem, n, entry⟩
      by_cases later : ∃ part ∈ parts, ∃ m, IsEntry part name m
      · obtain ⟨m, last⟩ := ih later
        exact ⟨m, last_cons_iff.mpr (.inl last)⟩
      · rcases List.mem_cons.mp mem with rfl | mem
        · push Not at later
          exact ⟨n, last_cons_iff.mpr (.inr ⟨entry, later⟩)⟩
        · exact absurd ⟨part', mem, n, entry⟩ later

/-- Parts that are all passable can be read. -/
theorem exists_readParts (h : ∀ part ∈ parts, IsPassable part) (s : Sections) :
    ∃ s', readParts s parts = .ok s' := by
  induction parts generalizing s with
  | nil => exact ⟨s, rfl⟩
  | cons part parts ih =>
    obtain ⟨first, others⟩ := List.forall_mem_cons.mp h
    rcases first with blank | ⟨name, n, entry⟩
    · rw [readParts_of_blank blank]
      exact ih others s
    · rw [readParts_of_entry entry]
      exact ih others _

/-- Parts are refused for the first that is not passable. -/
theorem readParts_of_first_refused (h : ∀ part ∈ before, IsPassable part)
    (refused : IsRefused part shown) (s : Sections) :
    readParts s (before ++ part :: after) =
      .error (.invalidValue .encapsulated (excerptChars shown)) := by
  induction before generalizing s with
  | nil => exact readParts_of_refused refused
  | cons first before ih =>
    obtain ⟨passable, others⟩ := List.forall_mem_cons.mp h
    rw [List.cons_append]
    rcases passable with blank | ⟨name, n, entry⟩
    · rw [readParts_of_blank blank]
      exact ih others s
    · rw [readParts_of_entry entry]
      exact ih others _

/-- All parts are passable, or there is a first that is not. -/
theorem all_isPassable_or (parts : List (List Char)) : (∀ part ∈ parts, IsPassable part) ∨
    ∃ before part after shown, parts = before ++ part :: after ∧
      (∀ part ∈ before, IsPassable part) ∧ IsRefused part shown := by
  induction parts with
  | nil => exact .inl (List.forall_mem_nil _)
  | cons part parts ih =>
    rcases isPassable_or_isRefused part with passable | ⟨shown, refused⟩
    · rcases ih with all | ⟨before, part', after, shown, rfl, passables, refused⟩
      · exact .inl (List.forall_mem_cons.mpr ⟨passable, all⟩)
      · exact .inr ⟨part :: before, part', after, shown, rfl,
          List.forall_mem_cons.mpr ⟨passable, passables⟩, refused⟩
    · exact .inr ⟨[], part, parts, shown, rfl, List.forall_mem_nil _, refused⟩

/-- **The offsets that parts set** are those of the last entries. A section without entries keeps
the one that it had. -/
theorem offset_readParts (h : readParts s parts = .ok s') : s'.offset key = some n ↔
    Last parts key.name n ∨
      (∀ part ∈ parts, ∀ m, ¬IsEntry part key.name m) ∧ s.offset key = some n := by
  induction parts generalizing s with
  | nil =>
    cases h
    simp [not_last_nil]
  | cons part parts ih =>
    rcases isPassable_or_isRefused part with (blank | ⟨name, m, entry⟩) | ⟨shown, refused⟩
    · rw [readParts_of_blank blank] at h
      rw [ih h, last_cons_iff, List.forall_mem_cons]
      simp [not_isEntry_of_blank blank]
    · rw [readParts_of_entry entry] at h
      rw [ih h, last_cons_iff, List.forall_mem_cons, offset_set]
      by_cases named : foldCase name.toList = foldCase key.name.toList
      · -- the first part counts unless a later one has an entry for the same section
        simp only [entry.iff_eq, named, true_and, if_true, Option.some.injEq]
        constructor
        · rintro (last | ⟨none, rfl⟩)
          · exact .inl (.inl last)
          · exact .inl (.inr ⟨rfl, none⟩)
        · rintro ((last | ⟨rfl, none⟩) | ⟨⟨other, -⟩, -⟩)
          · exact .inl last
          · exact .inr ⟨none, rfl⟩
          · exact absurd rfl (other m)
      · simp only [entry.iff_eq, named, false_and, if_false, not_false_eq_true, forall_const,
          true_and, or_false]
    · rw [readParts_of_refused refused] at h
      cases h

/-- A list says of a section what its last entry says. -/
theorem offset_readParts_empty (h : readParts {} parts = .ok s) :
    s.offset key = some n ↔ Last parts key.name n := by
  rw [offset_readParts h, offset_empty]
  simp only [reduceCtorEq, and_false, or_false]

/-- It says nothing of a section that has no entry. -/
theorem offset_readParts_eq_none_iff (h : readParts {} parts = .ok s) :
    s.offset key = none ↔ ∀ part ∈ parts, ∀ n, ¬IsEntry part key.name n := by
  rw [Option.eq_none_iff_forall_ne_some]
  simp only [ne_eq, offset_readParts_empty h, ← not_exists, exists_last_iff]
  push Not
  rfl

/-- Parts are refused for the first that is not passable, and for nothing else. -/
theorem readParts_eq_error_iff : readParts s parts = .error fault ↔
    ∃ before part after shown, parts = before ++ part :: after ∧
      (∀ part ∈ before, IsPassable part) ∧ IsRefused part shown ∧
      fault = .invalidValue .encapsulated (excerptChars shown) := by
  constructor
  · intro failed
    rcases all_isPassable_or parts with all | ⟨before, part, after, shown, rfl, passable, refused⟩
    · obtain ⟨s', hs⟩ := exists_readParts all s
      cases hs.symm.trans failed
    · rw [readParts_of_first_refused passable refused] at failed
      cases failed
      exact ⟨before, part, after, shown, rfl, passable, refused, rfl⟩
  · rintro ⟨before, part, after, shown, rfl, passable, refused, rfl⟩
    exact readParts_of_first_refused passable refused s

/-- Parts can be read just if all of them are passable. -/
theorem exists_readParts_iff :
    (∃ s', readParts s parts = .ok s') ↔ ∀ part ∈ parts, IsPassable part := by
  constructor
  · rintro ⟨s', hs⟩
    rcases all_isPassable_or parts with all | ⟨before, part, after, shown, rfl, passable, refused⟩
    · exact all
    · rw [readParts_of_first_refused passable refused] at hs
      cases hs
  · exact fun all => exists_readParts all s

/-- **A list of sections** can be read just if each of its parts is blank or has an entry. A section
has the offset of its last entry then, and none if it has no entry. Otherwise the list is refused
for the first part that is neither, and what is shown are ten characters of it, or of what it has in
place of an offset. -/
theorem read_cases (value : String) :
    ((∃ s, read value = .ok s) ↔ ∀ part ∈ piecesBy ',' value.toList, IsPassable part) ∧
    (∀ s, read value = .ok s → ∀ key : Key,
      (∀ n, s.offset key = some n ↔ Last (piecesBy ',' value.toList) key.name n) ∧
      (s.offset key = none ↔
        ∀ part ∈ piecesBy ',' value.toList, ∀ n, ¬IsEntry part key.name n)) ∧
    ∀ fault, read value = .error fault ↔ ∃ before part after shown,
      piecesBy ',' value.toList = before ++ part :: after ∧
      (∀ part ∈ before, IsPassable part) ∧ IsRefused part shown ∧
      fault = .invalidValue .encapsulated (excerptChars shown) := by
  refine ⟨exists_readParts_iff, fun s hs key => ⟨fun n => ?_, ?_⟩, fun fault => ?_⟩
  · exact offset_readParts_empty hs
  · exact offset_readParts_eq_none_iff hs
  · exact readParts_eq_error_iff

example : read "null-body=0, Res-Hdr = 7,, x=1,res-hdr=08" =
    .ok { nullBody := some 0, resHdr := some 8 } := by decide

end Sections

end Icap
