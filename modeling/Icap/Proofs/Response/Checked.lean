import Icap.Proofs.Head.Checked
import Icap.Proofs.Head.StatusLine
import Icap.Response

/-!
# Verdicts by positions

What a response makes of the lines of its head, read by positions: the violation records are a slice
of the lines, the first record is read by the numbers of its lines, and a value that is refused is
cut behind the version of the protocol. None of this fails, whatever the lines are.

* `Vendor.judgeChecked` — the verdict of a head.
* `Response.readStatusChecked`, `Response.readSectionsChecked` — its status and its sections.
-/

namespace Icap

open Text

/-- The disposition that a violation record announces in its last line. -/
def Disposition.readChecked (code : String) : Option (Except ParseFault Disposition) :=
  let code := trim code
  if code = "0" then some (.ok .infectedUnrepaired)
  else if code = "1" then some (.ok .infectedRepaired)
  else if code = "2" then some (.ok .infectedReplaced)
  else do return .error (.unknownDisposition (← excerptChecked code.toList))

theorem Disposition.readChecked_eq (code : String) : readChecked code = some (read code) := by
  simp only [readChecked, read, excerptChecked_eq, excerpt]
  split
  · rfl
  · split
    · rfl
    · split <;> rfl

/-! ## Vendor styles -/

namespace Vendor

variable {head : List String}

/-- The verdict of a head with status 200. -/
def judgeOkChecked (head : List String) : Option (Except ScanFault Verdict) := do
  match ← Field.findChecked head Item.encapsulated.name with
  | none => return .ok {}
  | some (_, field) =>
    match ← Sections.readChecked field.value with
    | .error fault => return .error (.parse fault)
    | .ok sections => return .ok (if sections.resBody.isSome then Verdict.clean else {})

theorem judgeOkChecked_eq (head : List String) : judgeOkChecked head = some (judgeOk head) := by
  simp only [judgeOkChecked, judgeOk, Field.findChecked_eq, Sections.readChecked_eq,
    Option.bind_eq_bind, Option.bind_some]
  cases Field.find? head Item.encapsulated.name with
  | none => rfl
  | some found =>
    obtain ⟨_, field⟩ := found
    simp only
    cases Sections.read field.value <;> rfl

/-- The verdict of the violation records that begin with a line of a head. -/
def judgeRecordsChecked (count : Nat) (head : List String) (start : Nat) :
    Option (Except ScanFault Verdict) :=
  if count = 0 then some (.ok {})
  else if head.length < count * linesPerViolation + start then
    some (.error (.parse (.truncatedViolations count)))
  else do
    let records ← slice? head start (count * linesPerViolation + start)
    match ← Disposition.readChecked (← records[3]?) with
    | .error fault => return .error (.parse fault)
    | .ok disposition =>
      return .ok { disposition := some disposition, violations := count,
                   violation := some ⟨trim (← records[0]?), trim (← records[1]?),
                     trim (← records[2]?)⟩ }

theorem judgeRecordsChecked_eq (count : Nat) (head : List String) (start : Nat) :
    judgeRecordsChecked count head start = some (judgeRecords count (head.drop start)) := by
  unfold judgeRecordsChecked judgeRecords
  rw [List.length_drop, linesPerViolation]
  by_cases none : count = 0
  · rw [if_pos none, if_pos none]
  rw [if_neg none, if_neg none]
  by_cases short : head.length < count * 4 + start
  · rw [if_pos short, if_pos (by omega)]
  rw [if_neg short, if_neg (by omega), slice?_of_le (Nat.le_add_left _ _) (Nat.not_lt.mp short),
    Nat.add_sub_cancel]
  -- the slice has four lines for each record, and there is a record
  match records : head.drop start with
  | filename :: name :: id :: code :: more =>
    obtain ⟨k, rfl⟩ := Nat.exists_eq_add_one_of_ne_zero none
    rw [Nat.add_mul]
    simp only [List.take_succ_cons, List.getElem?_cons_zero, List.getElem?_cons_succ,
      Option.bind_eq_bind, Option.bind_some, Disposition.readChecked_eq]
    cases Disposition.read code <;> rfl
  | [] | [_] | [_, _] | [_, _, _] =>
    have := congrArg List.length records
    simp only [List.length_drop, List.length_cons, List.length_nil] at this
    omega

/-- The verdict of a head with status 201. -/
def judgeViolationsChecked (head : List String) : Option (Except ScanFault Verdict) := do
  match ← Field.findChecked head Item.violationsFound.name with
  | none => return .error (.parse (.missingHeader .violationsFound))
  | some (index, field) =>
    match readWhole word field.value.toList with
    | .error _ =>
      return .error (.parse (.invalidValue .violationsFound (← excerptChecked field.value.toList)))
    | .ok count => judgeRecordsChecked count head (index + 1)

theorem judgeViolationsChecked_eq (head : List String) :
    judgeViolationsChecked head = some (judgeViolations head) := by
  simp only [judgeViolationsChecked, judgeViolations, Field.findChecked_eq, excerptChecked_eq,
    excerpt, Option.bind_eq_bind, Option.bind_some]
  cases Field.find? head Item.violationsFound.name with
  | none => rfl
  | some found =>
    obtain ⟨index, field⟩ := found
    simp only
    cases readWhole word field.value.toList with
    | error _ => rfl
    | ok count => exact judgeRecordsChecked_eq count head (index + 1)

/-- The verdict of a head by its word. -/
def judgeInfoChecked (head : List String) : Option Verdict := do
  match ← Field.findChecked head responseInfoName with
  | none => return {}
  | some (_, field) =>
    if field.value = "Clean" then return Verdict.clean
    else return { disposition := some .infectedUnrepaired }

theorem judgeInfoChecked_eq (head : List String) :
    judgeInfoChecked head = some (judgeInfo head) := by
  simp only [judgeInfoChecked, judgeInfo, Field.findChecked_eq, Option.bind_eq_bind,
    Option.bind_some]
  cases Field.find? head responseInfoName with
  | none => rfl
  | some found =>
    simp only
    split <;> rfl

/-- The verdict of a head with a status. -/
def judgeChecked (v : Vendor) (status : Nat) (head : List String) :
    Option (Except ScanFault Verdict) :=
  match v with
  | .violations =>
    if status = 200 then judgeOkChecked head
    else if status = 201 then judgeViolationsChecked head
    else some (.ok {})
  | .responseInfo =>
    if status = 500 then some (.ok {}) else do return .ok (← judgeInfoChecked head)

theorem judgeChecked_eq (v : Vendor) (status : Nat) (head : List String) :
    v.judgeChecked status head = some (v.judge status head) := by
  cases v with
  | violations =>
    simp only [judgeChecked, judge, judgeOkChecked_eq, judgeViolationsChecked_eq]
    split
    · rfl
    · split <;> rfl
  | responseInfo =>
    simp only [judgeChecked, judge, judgeInfoChecked_eq]
    split <;> rfl

end Vendor

/-! ## Heads -/

namespace Response

/-- The status code of a head by its first line. -/
def readStatusChecked (first : String) : Option (Except ScanFault Nat) :=
  if StatusLine.icapVersion.toList <+: first.toList then do
    match ← StatusLine.readIcapChecked first with
    | .ok status => return .ok status.code
    | .error .statusCode =>
      let (_, value) ← cutAtByte? (byteLength StatusLine.icapVersion.toList) first.toList
      return .error (.parse (.invalidValue .icapStatus (← excerptChecked (trimStart value))))
    | .error _ => return .error (.icapStatus (← excerptChecked first.toList))
  else do return .error (.icapStatus (← excerptChecked first.toList))

theorem readStatusChecked_eq (first : String) :
    readStatusChecked first = some (readStatus first) := by
  simp only [readStatusChecked, readStatus, StatusLine.readIcapChecked_eq, excerptChecked_eq,
    Option.bind_eq_bind, Option.bind_some]
  split
  next begins =>
    obtain ⟨value, whole⟩ := begins
    have cut : cutAtByte? (byteLength StatusLine.icapVersion.toList) first.toList =
        some (StatusLine.icapVersion.toList, first.toList.drop StatusLine.icapVersion.length) := by
      refine cutAtByte?_eq_some_iff.mpr ⟨?_, rfl⟩
      rw [← whole, ← String.length_toList, List.drop_left]
    cases StatusLine.readIcap first with
    | ok _ => rfl
    | error fault =>
      cases fault with
      | statusCode => simp [cut]
      | _ => rfl
  next other =>
    -- a line that has a code, or lacks nothing else, begins with the version
    have refused : ¬((∃ status, StatusLine.readIcap first = .ok status) ∨
        StatusLine.readIcap first = .error .statusCode) := by
      intro read
      obtain ⟨-, cs, begins, -⟩ := StatusLine.exists_readCode_of_readIcap read
      exact other ⟨' ' :: cs, begins.symm⟩
    cases read : StatusLine.readIcap first with
    | ok status => exact absurd (.inl ⟨status, read⟩) refused
    | error fault =>
      cases fault with
      | statusCode => exact absurd (.inr read) refused
      | _ => rfl

/-- The stage after a head, or rather the sections that announce it. -/
def readSectionsChecked (lines : List String) : Option (Except ScanFault Sections) := do
  match ← Field.findChecked lines Item.encapsulated.name with
  | none => return .error (.parse (.missingHeader .encapsulated))
  | some (_, field) =>
    match ← Sections.readChecked field.value with
    | .error fault => return .error (.parse fault)
    | .ok sections => return .ok sections

theorem readSectionsChecked_eq (lines : List String) :
    ∃ read, readSectionsChecked lines = some read ∧
      readSections lines = read.map Sections.nextStage := by
  simp only [readSectionsChecked, readSections, Field.findChecked_eq, Sections.readChecked_eq,
    Option.bind_eq_bind, Option.bind_some]
  cases Field.find? lines Item.encapsulated.name with
  | none => exact ⟨_, rfl, rfl⟩
  | some found =>
    obtain ⟨_, field⟩ := found
    simp only
    cases Sections.read field.value with
    | error _ => exact ⟨_, rfl, rfl⟩
    | ok _ => exact ⟨_, rfl, rfl⟩

end Response

end Icap
