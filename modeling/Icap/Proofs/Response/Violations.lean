import Icap.Proofs.Head.Field
import Icap.Proofs.Text.Numeral
import Icap.Vendor

/-!
# What a head with violations comes to

With status 201 a head declares a number of violations, in the first field for it, and the lines
after that field are their records, four lines each. Any of this may be missing or wrong, and the
number may be as large as 64 bits allow, so that the lines it calls for cannot even be counted.

* `Reports` — what a head comes to, as rules.
* `judgeSlice?` — the same records, found by the numbers of their lines in 64 bits.
* `judge_violations` — a head comes to what the rules say, and no access is out of range.
-/

namespace Icap.Vendor

open Text

variable {head after rest : List String} {code : String} {d : Disposition} {fault : ParseFault}
  {outcome : Except ScanFault Verdict} {count start : Nat}

/-! ## Dispositions -/

/-- The dispositions that a record may announce, and their codes. -/
def announced : List (String × Disposition) :=
  [("0", .infectedUnrepaired), ("1", .infectedRepaired), ("2", .infectedReplaced)]

/-- A disposition is announced by its code, with blanks around it if need be. -/
theorem read_eq_ok_iff : Disposition.read code = .ok d ↔ (trim code, d) ∈ announced := by
  simp only [Disposition.read, announced, List.mem_cons, Prod.mk.injEq, List.not_mem_nil, or_false]
  split
  next h => simp [h, eq_comm]
  split
  next h => simp [h, eq_comm]
  split
  next h => simp [h, eq_comm]
  next => simp [*]

/-- Any other line announces none. -/
theorem read_eq_error_iff : Disposition.read code = .error fault ↔
    (∀ d, (trim code, d) ∉ announced) ∧ .unknownDisposition (excerpt (trim code)) = fault := by
  cases read : Disposition.read code with
  | ok d => simpa using fun unknown => absurd (read_eq_ok_iff.mp read) (unknown d)
  | error fault' =>
    have unknown : ∀ d, (trim code, d) ∉ announced := by
      intro d known
      cases read.symm.trans (read_eq_ok_iff.mpr known)
    simp only [Disposition.read] at read
    split at read
    · cases read
    split at read
    · cases read
    split at read <;> cases read
    simp [unknown]

/-! ## Records -/

/-- What the lines after a count come to: nothing if there are no violations; else, if all records
are there, what the first one says. -/
inductive Records (count : Nat) (after : List String) : Except ScanFault Verdict → Prop
  | none (zero : count = 0) : Records count after (.ok {})
  | truncated (pos : 1 ≤ count) (few : after.length < 4 * count) :
      Records count after (.error (.parse (.truncatedViolations count)))
  | unknown {filename name id code rest} (pos : 1 ≤ count) (all : 4 * count ≤ after.length)
      (first : after = filename :: name :: id :: code :: rest)
      (unknown : ∀ d, (trim code, d) ∉ announced) :
      Records count after (.error (.parse (.unknownDisposition (excerpt (trim code)))))
  | found {filename name id code rest d} (pos : 1 ≤ count) (all : 4 * count ≤ after.length)
      (first : after = filename :: name :: id :: code :: rest)
      (known : (trim code, d) ∈ announced) :
      Records count after
        (.ok { disposition := some d, violations := count,
               violation := some ⟨trim filename, trim name, trim id⟩ })

/-- The lines of a first record, if there are that many. -/
theorem exists_record : ∀ {after : List String}, 4 ≤ after.length →
    ∃ filename name id code rest, after = filename :: name :: id :: code :: rest
  | filename :: name :: id :: code :: rest, _ => ⟨filename, name, id, code, rest, rfl⟩
  | [], h | [_], h | [_, _], h | [_, _, _], h => by simp at h

theorem few_iff : after.length < count * linesPerViolation ↔ after.length < 4 * count := by
  rw [linesPerViolation, Nat.mul_comm]

theorem judgeRecords_spec (count : Nat) (after : List String) :
    Records count after (judgeRecords count after) := by
  simp only [judgeRecords, few_iff]
  split
  next zero => exact .none zero
  next nonzero =>
    have pos := Nat.pos_of_ne_zero nonzero
    split
    next few => exact .truncated pos few
    next all =>
      have all := Nat.not_lt.mp all
      split
      next filename name id code rest =>
        split
        next fault read =>
          obtain ⟨unknown, rfl⟩ := read_eq_error_iff.mp read
          exact .unknown pos all rfl unknown
        next d read => exact .found pos all rfl (read_eq_ok_iff.mp read)
      next short =>
        obtain ⟨filename, name, id, code, rest, rfl⟩ := exists_record (by omega : 4 ≤ after.length)
        exact absurd rfl (short filename name id code rest)

/-- The rules leave no choice. -/
theorem Records.eq_judgeRecords (h : Records count after outcome) :
    judgeRecords count after = outcome := by
  simp only [judgeRecords, few_iff]
  cases h with
  | none zero => rw [if_pos zero]
  | truncated pos few => rw [if_neg (Nat.ne_of_gt pos), if_pos few]
  | unknown pos all first unknown =>
    subst first
    rw [if_neg (Nat.ne_of_gt pos), if_neg (Nat.not_lt.mpr all)]
    simp only [read_eq_error_iff.mpr ⟨unknown, rfl⟩]
  | found pos all first known =>
    subst first
    rw [if_neg (Nat.ne_of_gt pos), if_neg (Nat.not_lt.mpr all)]
    simp only [read_eq_ok_iff.mpr known]

theorem records_iff : Records count after outcome ↔ judgeRecords count after = outcome :=
  ⟨Records.eq_judgeRecords, fun h => h ▸ judgeRecords_spec count after⟩

/-! ## Heads -/

/-- What a head with status 201 comes to: the first field for it, between the lines `before` and
`after`, has to write a number of 64 bits. -/
inductive Reports (head : List String) : Except ScanFault Verdict → Prop
  | missing (absent : ∀ line ∈ head.tail, Field.isNamed Item.violationsFound.name line = false) :
      Reports head (.error (.parse (.missingHeader .violationsFound)))
  | badCount {before after : List String} {field : Field}
      (first : Field.First Item.violationsFound.name head before field after)
      (bad : ∀ n < word, ¬Writes field.value.toList n) :
      Reports head (.error (.parse (.invalidValue .violationsFound (excerpt field.value))))
  | records {before after : List String} {field : Field} {n : Nat} {outcome}
      (first : Field.First Item.violationsFound.name head before field after)
      (count : Writes field.value.toList n) (lt : n < word) (records : Records n after outcome) :
      Reports head outcome

theorem word_pos : 0 < word := by decide

/-- **A head comes to what the rules say.** -/
theorem reports_iff : Reports head outcome ↔ judgeViolations head = outcome := by
  constructor
  · intro h
    cases h with
    | missing absent => simp only [judgeViolations, Field.find?_eq_none_iff.mpr absent]
    | @badCount before after field first bad =>
      simp only [judgeViolations, Field.find?_eq_some_iff.mpr ⟨before, after, rfl, first⟩]
      cases read : readWhole word field.value.toList with
      | error => rfl
      | ok n =>
        obtain ⟨writes, lt⟩ := (readWhole_eq_ok_iff word_pos).mp read
        exact absurd writes (bad n lt)
    | @records before after field n outcome first writes lt records =>
      have read := (readWhole_eq_ok_iff word_pos).mpr ⟨writes, lt⟩
      simp only [judgeViolations, Field.find?_eq_some_iff.mpr ⟨before, after, rfl, first⟩, read,
        first.drop_eq]
      exact records_iff.mp records
  · rintro rfl
    simp only [judgeViolations]
    split
    next absent => exact .missing (Field.find?_eq_none_iff.mp absent)
    next index field found =>
      obtain ⟨before, after, rfl, first⟩ := Field.find?_eq_some_iff.mp found
      rw [first.drop_eq]
      split
      next read =>
        refine .badCount first fun n lt writes => ?_
        cases read.symm.trans ((readWhole_eq_ok_iff word_pos).mpr ⟨writes, lt⟩)
      next count read =>
        obtain ⟨writes, lt⟩ := (readWhole_eq_ok_iff word_pos).mp read
        exact .records first writes lt (judgeRecords_spec count after)

/-! ## Numbers of 64 bits -/

/-- The number of the line behind the records, which begin with the line `start` of a head with so
many lines: if 64 bits can tell it, and if the records are there. -/
def recordsEnd? (count start length : Nat) : Option Nat :=
  (((word? (count * linesPerViolation)).bind fun n => word? (n.toNat + start)).map
    UInt64.toNat).filter (· ≤ length)

/-- The verdict of the records that begin with the line `start` of a head, whose lines are taken by
their numbers, without a product or a sum beyond 64 bits. It is `none` if there is no such line. -/
def judgeSlice? (count start : Nat) (head : List String) : Option (Except ScanFault Verdict) :=
  if count = 0 then some (.ok {})
  else
    match recordsEnd? count start head.length with
    | none => some (.error (.parse (.truncatedViolations count)))
    | some stop =>
      if stop < start ∨ head.length < stop then none
      else do
        let group := (head.take stop).drop start
        match Disposition.read (← group[3]?) with
        | .error fault => some (.error (.parse fault))
        | .ok d =>
          let violation : Violation := ⟨trim (← group[0]?), trim (← group[1]?), trim (← group[2]?)⟩
          some (.ok { disposition := some d, violations := count, violation := some violation })

/-- No sum or product is taken for smaller than it is. -/
theorem recordsEnd?_eq {length : Nat} (small : length < word) (count start : Nat) :
    recordsEnd? count start length =
      if start + 4 * count ≤ length then some (start + 4 * count) else none := by
  have product : count * linesPerViolation = 4 * count := Nat.mul_comm ..
  rw [recordsEnd?, product]
  by_cases fits : 4 * count < word
  · obtain ⟨w, eq, number⟩ := exists_word?_of_lt fits
    rw [eq, Option.bind_some, number, Nat.add_comm]
    by_cases fits' : start + 4 * count < word
    · obtain ⟨w', eq', sum⟩ := exists_word?_of_lt fits'
      simp [eq', sum, Option.filter_some]
    · rw [word?_of_le (Nat.not_lt.mp fits'), if_neg (by omega)]
      rfl
  · rw [word?_of_le (Nat.not_lt.mp fits), if_neg (by omega)]
    rfl

/-- The lines of all records begin with those of the first one. -/
theorem group_eq {filename name id code : String} (pos : 1 ≤ count)
    (first : head.drop start = filename :: name :: id :: code :: rest) :
    (head.take (start + 4 * count)).drop start =
      filename :: name :: id :: code :: rest.take (4 * count - 4) := by
  obtain ⟨k, hk⟩ : ∃ k, 4 * count = k + 4 := ⟨4 * count - 4, by omega⟩
  rw [List.drop_take, Nat.add_sub_cancel_left, first, hk, Nat.add_sub_cancel]
  rfl

/-- **Lines that are taken by their numbers are there**, and they are those of the records. -/
theorem judgeSlice?_eq (small : head.length < word) (count start : Nat) :
    judgeSlice? count start head = some (judgeRecords count (head.drop start)) := by
  have records := judgeRecords_spec count (head.drop start)
  generalize judgeRecords count (head.drop start) = outcome at records ⊢
  simp only [judgeSlice?, recordsEnd?_eq small]
  cases records with
  | none zero => rw [if_pos zero]
  | truncated pos few =>
    rw [List.length_drop] at few
    rw [if_neg (Nat.ne_of_gt pos), if_neg (by omega)]
  | unknown pos all first unknown =>
    have group := group_eq pos first
    rw [List.length_drop] at all
    rw [if_neg (Nat.ne_of_gt pos), if_pos (by omega)]
    simp [group, read_eq_error_iff.mpr ⟨unknown, rfl⟩]
    omega
  | found pos all first known =>
    have group := group_eq pos first
    rw [List.length_drop] at all
    rw [if_neg (Nat.ne_of_gt pos), if_pos (by omega)]
    simp [group, read_eq_ok_iff.mpr known]
    omega

/-! ## All heads -/

/-- **What a head with status 201 comes to.** For every list of lines:

* it comes to what the rules say, and to nothing else;
* so does a machine that works out in 64 bits which lines hold the records, and it takes no line
  that is not there;
* whatever the lines in front of the field say, and those behind the first record. -/
theorem judge_violations (head : List String) :
    (∀ outcome, Vendor.violations.judge 201 head = outcome ↔ Reports head outcome) ∧
      (∀ before field after count,
        Field.First Item.violationsFound.name head before field after → head.length < word →
          judgeSlice? count (before.length + 2) head = some (judgeRecords count after)) ∧
      ∀ before before' field record rest rest' head',
        Field.First Item.violationsFound.name head before field (record ++ rest) →
        Field.First Item.violationsFound.name head' before' field (record ++ rest') →
        record.length = linesPerViolation → rest.length = rest'.length →
          Vendor.violations.judge 201 head = Vendor.violations.judge 201 head' := by
  have judge_eq (head : List String) : Vendor.violations.judge 201 head = judgeViolations head := by
    simp [judge]
  refine ⟨fun outcome => ?_, fun before field after count first small => ?_, ?_⟩
  · rw [judge_eq, reports_iff]
  · rw [judgeSlice?_eq small, first.drop_eq]
  · intro before before' field record rest rest' head' first first' four same
    rw [judge_eq, judge_eq]
    simp only [judgeViolations, Field.find?_eq_some_iff.mpr ⟨_, _, rfl, first⟩,
      Field.find?_eq_some_iff.mpr ⟨_, _, rfl, first'⟩, first.drop_eq, first'.drop_eq]
    split
    · rfl
    · obtain ⟨filename, name, id, code, rest₀, rfl⟩ := exists_record (Nat.le_of_eq four.symm)
      obtain rfl : rest₀ = [] := by simpa [linesPerViolation] using four
      simp [judgeRecords, same]

/-- The lines of more violations than 64 bits can count. -/
example : Vendor.violations.judge 201 ["ICAP/1.0 201 Created",
    "x-violations-FOUND : 18446744073709551615", "virus.msg", "W32", "18411", "2"] =
      .error (.parse (.truncatedViolations 18446744073709551615)) := by
  cbv

end Icap.Vendor
