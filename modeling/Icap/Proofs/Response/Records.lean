import Icap.Proofs.Head.Field
import Icap.Proofs.Head.Written
import Icap.Proofs.Response.Head

/-!
# The text of violation records

The lines of a violation record carry what a server echoes of a file, and stand in the head among
its fields. The verdict takes them by their position behind the count, but fields are looked up
among all lines of the head, so a record line may be taken for a field. If none of them reads as an
`Encapsulated` field, or such a field stands in front of them, the text of the records does not
matter to the response but for what it tells of the first violation. If one does, it decides how the
response is read.

* `Report.IsComplete` — a head with all records that it declares.
* `Report.feed_congr` — two texts of the records, of which neither is taken for a field.
* `Report.exists_steered` — a file name that is.
-/

namespace Icap

open Text

/-- The lines around the records of a head: the status line, the fields in front of the one that
declares the violations, that one, and the fields behind the records. -/
structure Report where
  status : String
  before : List String
  found : String
  after : List String

namespace Report

/-- The lines of a head with its records. -/
def head (p : Report) (records : List String) : List String :=
  p.status :: (p.before ++ p.found :: (records ++ p.after))

/-- The bytes of a response that begins with a head. -/
def bytes (p : Report) (records : List String) (rest : Bytes) : Bytes :=
  headBytes (p.head records) ++ rest

/-- A head with status 201 that fits the limit, and declares as many violations as it has records,
of which the first one has a disposition. -/
structure IsComplete (p : Report) (limit count : Nat) (records : List String) : Prop where
  status : Response.readStatus p.status = .ok 201
  found : ∃ field, Field.read p.found = .ok field ∧
    sameLetters field.name Item.violationsFound.name = true ∧
    readWhole word field.value.toList = .ok count
  first : ∀ line ∈ p.before, Field.isNamed Item.violationsFound.name line = false
  pos : 1 ≤ count
  length : records.length = count * Vendor.linesPerViolation
  code : ∃ line d, records[3]? = some line ∧ Disposition.read line = .ok d
  isLine : ∀ line ∈ p.head records, IsLine line
  fits : (headBytes (p.head records)).length ≤ limit + blankLine.length

/-- What is known of a response with a head and a first violation, before its sections are read. -/
def told (limit count : Nat) (lines : List String) (d : Disposition) (x : Violation) : Response :=
  { Response.fresh limit with
    lines, status := some 201,
    verdict := { disposition := some d, violations := count, violation := some x } }

variable {p : Report} {limit count : Nat} {records records' : List String}

/-! ## One head -/

/-- Records that are all there are judged by the last line of the first one. -/
theorem judgeRecords_append {line : String} {d : Disposition} (pos : 1 ≤ count)
    (length : records.length = count * Vendor.linesPerViolation) (hline : records[3]? = some line)
    (hd : Disposition.read line = .ok d) (after : List String) :
    ∃ x, Vendor.judgeRecords count (records ++ after) =
      .ok { disposition := some d, violations := count, violation := some x } := by
  have enough : ¬(records ++ after).length < count * Vendor.linesPerViolation := by
    rw [List.length_append]
    omega
  match records, hline with
  | filename :: name :: id :: code :: more, hline =>
    obtain rfl : code = line := by simpa using hline
    refine ⟨⟨trim filename, trim name, trim id⟩, ?_⟩
    unfold Vendor.judgeRecords
    rw [if_neg (by omega), if_neg enough]
    simp only [List.cons_append, hd]

/-- A complete head has as many violations as it declares. -/
theorem IsComplete.judge (h : p.IsComplete limit count records) :
    ∃ d x, Vendor.violations.judge 201 (p.head records) =
      .ok { disposition := some d, violations := count, violation := some x } := by
  obtain ⟨field, hread, named, hcount⟩ := h.found
  have first : Field.First Item.violationsFound.name (p.head records) p.before field
      (records ++ p.after) := ⟨⟨p.status, p.found, rfl, hread⟩, named, h.first⟩
  obtain ⟨line, d, hline, hd⟩ := h.code
  obtain ⟨x, judged⟩ := judgeRecords_append h.pos h.length hline hd p.after
  refine ⟨d, x, ?_⟩
  simp only [Vendor.judge, Vendor.judgeViolations,
    Field.find?_eq_some_iff.mpr ⟨p.before, _, rfl, first⟩, hcount, first.drop_eq, judged]
  rfl

/-- A complete head is taken in, up to its sections. -/
theorem IsComplete.feed_eq (h : p.IsComplete limit count records) :
    ∃ d x, ∀ rest, (Response.fresh limit).feed .violations (p.bytes records rest) =
      (match Response.readSections (p.head records) with
        | .error fault => .fail (told limit count (p.head records) d x) fault
        | .ok stage => .next { told limit count (p.head records) d x with stage } rest :
        Response.Step).settle .violations := by
  obtain ⟨d, x, judged⟩ := h.judge
  refine ⟨d, x, fun rest => ?_⟩
  have hne : p.head records ≠ [] := List.cons_ne_nil _ _
  rw [bytes, Response.feed_of_head (endsWithFirst_headBytes hne h.isLine) h.fits
    (decode_headBytes _), Response.stepHead, lines_headText hne h.isLine, Response.takeHead]
  have status : Response.readStatus ((p.head records).headD "") = .ok 201 := h.status
  simp only [status, judged, Option.isSome_some, if_true, or_true]
  cases Response.readSections (p.head records) <;> rfl

/-! ## Two heads -/

/-- The look-up of a field that no record is taken for, or that stands in front of them, does not
depend on the records. -/
theorem find?_congr {name : String} (length : records.length = records'.length)
    (unseen : (∃ line ∈ p.before, Field.isNamed name line = true) ∨
      ∀ line ∈ records ++ records', Field.isNamed name line = false) :
    Field.find? (p.head records) name = Field.find? (p.head records') name := by
  have split : ∀ records, Field.find? (p.head records) name =
      (Field.findFrom name 1 p.before).or ((Field.findFrom name (1 + p.before.length) [p.found]).or
        ((Field.findFrom name (1 + p.before.length + 1) records).or
          (Field.findFrom name (1 + p.before.length + 1 + records.length) p.after))) := by
    intro records
    rw [Field.find?, head, List.tail_cons, Field.findFrom_append, ← List.singleton_append,
      Field.findFrom_append, Field.findFrom_append]
    rfl
  rw [split, split, length]
  rcases unseen with ⟨line, hline, named⟩ | unseen
  · cases hb : Field.findFrom name 1 p.before with
    | none =>
      rw [Field.findFrom_eq_none_iff.mp hb line hline] at named
      cases named
    | some found => rfl
  · rw [List.forall_mem_append] at unseen
    rw [Field.findFrom_eq_none_iff.mpr unseen.1, Field.findFrom_eq_none_iff.mpr unseen.2]

/-- **The text of the records does not matter** if no record line reads as an `Encapsulated` field
or such a field stands in front of them: whatever follows the heads, both responses reach the same
stage with the same cause, number of violations and file, and differ in what they say of the first
violation alone. -/
theorem feed_congr (h : p.IsComplete limit count records) (h' : p.IsComplete limit count records')
    (unseen : (∃ line ∈ p.before, Field.isNamed Item.encapsulated.name line = true) ∨
      ∀ line ∈ records ++ records', Field.isNamed Item.encapsulated.name line = false)
    (rest : Bytes) :
    let r := ((Response.fresh limit).feed .violations (p.bytes records rest)).1
    let r' := ((Response.fresh limit).feed .violations (p.bytes records' rest)).1
    r.stage = r'.stage ∧ r.cause = r'.cause ∧ r.status = r'.status ∧
      r.verdict.violations = r'.verdict.violations ∧ r.verdict.bytes = r'.verdict.bytes := by
  intro r r'
  obtain ⟨d, x, hfeed⟩ := h.feed_eq
  obtain ⟨d', x', hfeed'⟩ := h'.feed_eq
  have sections : Response.readSections (p.head records) =
      Response.readSections (p.head records') := by
    simp only [Response.readSections, find?_congr (h.length.trans h'.length.symm) unseen]
  simp only [r, r', hfeed, hfeed', sections]
  cases hs : Response.readSections (p.head records') with
  | error fault => exact ⟨rfl, rfl, rfl, rfl, rfl⟩
  | ok stage =>
    have behind : stage.rank < 4 := Response.readSections_rank_lt hs
    -- the second response is the first one with another head
    have retold : { told limit count (p.head records') d' x' with stage } =
        ({ told limit count (p.head records) d x with stage } : Response).retell
          (p.head records') (some 201)
          { disposition := some d', violations := count, violation := some x' } := rfl
    simp only [Response.Step.settle]
    rw [retold, Response.feed_retell behind, Response.feed_eq_retell behind]
    exact ⟨rfl, rfl, rfl, rfl, rfl⟩

/-- A head that declares two violations. -/
def twoViolations : Report where
  status := "ICAP/1.0 201 Created"
  before := ["ISTag: \"CE2C\""]
  found := "X-Violations-Found: 2"
  after := ["Encapsulated: res-body=0"]

/-- Records of two files, of which the second has the name that is given. -/
def recordsOf (second : String) : List String :=
  ["virus.msg", "W32.Beagle.AO@mm", "18411", "2", second, "EICAR Test String", "11101", "2"]

/-- The file that follows the heads. -/
def twoBytes : Bytes := Utf8.encode "2\r\nOK\r\n0\r\n\r\n"

/-- A name without a line end, and not too long, leaves the head complete. -/
theorem isComplete_recordsOf {second : String} (line : IsLine second)
    (fits : (headBytes (twoViolations.head (recordsOf second))).length ≤ 200) :
    twoViolations.IsComplete 200 2 (recordsOf second) where
  status := by decide +kernel
  found := ⟨⟨"X-Violations-Found", "2"⟩, by decide +kernel, by decide +kernel, by decide +kernel⟩
  first := by decide +kernel
  pos := by decide
  length := rfl
  code := ⟨"2", .infectedReplaced, rfl, by decide +kernel⟩
  isLine := by
    simp only [twoViolations, recordsOf, head, List.cons_append, List.nil_append,
      List.forall_mem_cons, List.not_mem_nil, false_imp_iff, implies_true, and_true]
    exact ⟨by decide, by decide, by decide, by decide, by decide, by decide, by decide, line,
      by decide, by decide, by decide, by decide⟩
  fits := Nat.le_add_right_of_le fits

theorem feed_congr_names :
    twoViolations.IsComplete 200 2 (recordsOf "price.html") ∧
      twoViolations.IsComplete 200 2 (recordsOf "Service: none") ∧
      (∀ line ∈ recordsOf "price.html" ++ recordsOf "Service: none",
        Field.isNamed Item.encapsulated.name line = false) ∧
      let r := ((Response.fresh 200).feed .violations
        (twoViolations.bytes (recordsOf "price.html") twoBytes)).1
      let r' := ((Response.fresh 200).feed .violations
        (twoViolations.bytes (recordsOf "Service: none") twoBytes)).1
      r.stage = r'.stage ∧ r.cause = r'.cause ∧ r.status = r'.status ∧
        r.verdict.violations = r'.verdict.violations ∧ r.verdict.bytes = r'.verdict.bytes := by
  have price : twoViolations.IsComplete 200 2 (recordsOf "price.html") :=
    isComplete_recordsOf (by decide) (by decide +kernel)
  have service : twoViolations.IsComplete 200 2 (recordsOf "Service: none") :=
    isComplete_recordsOf (by decide) (by decide +kernel)
  have unseen : ∀ line ∈ recordsOf "price.html" ++ recordsOf "Service: none",
      Field.isNamed Item.encapsulated.name line = false := by decide +kernel
  exact ⟨price, service, unseen, feed_congr price service (.inr unseen) twoBytes⟩

/-- **A file name that is taken for a field.** With a second file of another name, the same response
is read to its end. -/
theorem exists_steered :
    ∃ second, twoViolations.IsComplete 200 2 (recordsOf second) ∧
      twoViolations.IsComplete 200 2 (recordsOf "price.html") ∧
      ((Response.fresh 200).feed .violations
        (twoViolations.bytes (recordsOf second) twoBytes)).1.cause =
          some (.parse (.invalidValue .encapsulated "notes.txt")) ∧
      ((Response.fresh 200).feed .violations
        (twoViolations.bytes (recordsOf "price.html") twoBytes)).1.takeOutcome.1 =
          .ok { disposition := some .infectedReplaced, violations := 2,
                violation := some ⟨"virus.msg", "W32.Beagle.AO@mm", "18411"⟩,
                bytes := some (Utf8.encode "OK") } := by
  refine ⟨"Encapsulated: notes.txt", ?_, ?_, ?_, ?_⟩
  · exact isComplete_recordsOf (by decide) (by decide +kernel)
  · exact isComplete_recordsOf (by decide) (by decide +kernel)
  · decide +kernel
  · decide +kernel

end Report

end Icap
