import Icap.Head.Field
import Icap.Head.Sections
import Icap.Verdict
import Icap.Text.Numeral

/-!
# Vendor styles

Servers report what they found in the head of their response, in one of two styles.

* `Vendor.violations` — infected files are answered with status 201, a count in
  `X-Violations-Found` and four lines for each violation after that field.
* `Vendor.responseInfo` — the verdict is a word in `X-Response-Info`.

`Vendor.judge` reads a head in either style.
-/

namespace Icap

open Text

/-- How a server reports its verdicts. -/
inductive Vendor
  | violations
  | responseInfo
  deriving DecidableEq, Repr

namespace Vendor

/-! ## Names -/

/-- The style with a name, whatever the case of its letters and with hyphens for underscores. No
name of a style has a letter that another script's capital could fold to, so folding ASCII is
enough. -/
def read? (name : String) : Option Vendor :=
  let key := String.ofList ((foldCase name.toList).map fun c => if c = '-' then '_' else c)
  if ["violations", "x_violations_found", "symantec"].contains key then some .violations
  else if ["response_info", "x_response_info", "avira"].contains key then some .responseInfo
  else none

/-! ## Violations -/

/-- The number of lines of a violation record: file name, violation name, violation id and
disposition. -/
def linesPerViolation : Nat := 4

/-- The verdict of a head with status 200: clean if a body is announced. -/
def judgeOk (head : List String) : Except ScanFault Verdict :=
  match Field.find? head Item.encapsulated.name with
  | none => .ok {}
  | some (_, field) =>
    match Sections.read field.value with
    | .error fault => .error (.parse fault)
    | .ok sections => .ok (if sections.resBody.isSome then Verdict.clean else {})

/-- The verdict of the violation records after a count: the first record alone is read, but all of
them have to be there. -/
def judgeRecords (count : Nat) (records : List String) : Except ScanFault Verdict :=
  if count = 0 then .ok {}
  else if records.length < count * linesPerViolation then
    .error (.parse (.truncatedViolations count))
  else
    match records with
    | filename :: name :: id :: code :: _ =>
      match Disposition.read code with
      | .error fault => .error (.parse fault)
      | .ok disposition =>
        .ok { disposition := some disposition, violations := count,
              violation := some ⟨trim filename, trim name, trim id⟩ }
    | _ => .error (.parse (.truncatedViolations count))

/-- The verdict of a head with status 201. -/
def judgeViolations (head : List String) : Except ScanFault Verdict :=
  match Field.find? head Item.violationsFound.name with
  | none => .error (.parse (.missingHeader .violationsFound))
  | some (index, field) =>
    match readWhole word field.value.toList with
    | .error _ => .error (.parse (.invalidValue .violationsFound (excerpt field.value)))
    | .ok count => judgeRecords count (head.drop (index + 1))

/-! ## Response info -/

/-- The name of the field that holds the verdict. -/
def responseInfoName : String := "X-Response-Info"

/-- The verdict of a head by its word: clean if the word is `Clean`, infected if it is any other. -/
def judgeInfo (head : List String) : Verdict :=
  match Field.find? head responseInfoName with
  | none => {}
  | some (_, field) =>
    if field.value = "Clean" then Verdict.clean
    else { disposition := some .infectedUnrepaired }

/-! ## Both -/

/-- The verdict of a head with a status. -/
def judge (v : Vendor) (status : Nat) (head : List String) : Except ScanFault Verdict :=
  match v with
  | .violations =>
    if status = 200 then judgeOk head
    else if status = 201 then judgeViolations head
    else .ok {}
  | .responseInfo => if status = 500 then .ok {} else .ok (judgeInfo head)

end Vendor

end Icap
