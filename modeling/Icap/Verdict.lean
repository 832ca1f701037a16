import Icap.Failure
import Icap.Text.Blank
import Icap.Text.Pieces

/-!
# Verdicts

What a server finds out about a file: a disposition, the number of violations, the record of the
first of them, and the cleaned file if the server sends one. A verdict without a disposition says
that the server had nothing to report.
-/

namespace Icap

open Text

/-- What became of a file. -/
inductive Disposition
  | clean
  | infectedUnrepaired
  | infectedRepaired
  | infectedReplaced
  deriving DecidableEq, Repr

namespace Disposition

/-- The disposition that a violation record announces in its last line. -/
def read (code : String) : Except ParseFault Disposition :=
  let code := trim code
  if code = "0" then .ok .infectedUnrepaired
  else if code = "1" then .ok .infectedRepaired
  else if code = "2" then .ok .infectedReplaced
  else .error (.unknownDisposition (excerpt code))

/-- The number of a disposition. -/
def code : Disposition → Int
  | .clean => -1
  | .infectedUnrepaired => 0
  | .infectedRepaired => 1
  | .infectedReplaced => 2

/-- The name of a disposition. -/
def name : Disposition → String
  | .clean => "Clean"
  | .infectedUnrepaired => "InfectedUnrepaired"
  | .infectedRepaired => "InfectedRepaired"
  | .infectedReplaced => "InfectedReplaced"

/-- Whether the file was infected. -/
def isInfected (d : Disposition) : Bool := d != .clean

end Disposition

/-- What the first violation record tells. -/
structure Violation where
  filename : String
  name : String
  id : String
  deriving DecidableEq, Repr

/-- What a server found out about a file. -/
structure Verdict where
  disposition : Option Disposition := none
  /-- The number of violations that the server declares. -/
  violations : Nat := 0
  violation : Option Violation := none
  /-- The file that the server sent back. -/
  bytes : Option Bytes := none
  deriving DecidableEq, Repr, Inhabited

namespace Verdict

/-- The verdict on a file without findings. -/
def clean : Verdict := { disposition := some .clean }

/-- A verdict on one line. -/
def text (v : Verdict) : String :=
  "NumberOfViolations: " ++ toString v.violations ++
    ", ViolationFilename: " ++ (v.violation.elim "" Violation.filename) ++
    ", ViolationId: " ++ (v.violation.elim "" Violation.id) ++
    ", ViolationName: " ++ (v.violation.elim "" Violation.name) ++
    ", Disposition: " ++ (v.disposition.elim "None" Disposition.name)

end Verdict

/-- How a scan ends. -/
abbrev Outcome := Except ScanFault Verdict

/-- Results are the same just if their faults or their values are. -/
@[reducible] def decEqResult {ε α : Type} [DecidableEq ε] [DecidableEq α] :
    DecidableEq (Except ε α)
  | .error e, .error e' => decidable_of_iff (e = e') ⟨congrArg Except.error, Except.error.inj⟩
  | .ok a, .ok a' => decidable_of_iff (a = a') ⟨congrArg Except.ok, Except.ok.inj⟩
  | .error _, .ok _ | .ok _, .error _ => .isFalse nofun

end Icap
