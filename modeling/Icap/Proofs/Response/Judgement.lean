import Icap.Proofs.Head.Field
import Icap.Proofs.Response.Head

/-!
# No verdict without grounds

A response tells its verdict in the head, but the parts that the head announces have to follow
before the verdict is handed out. A response that fails on the way comes to no verdict, so what is
handed out is what the head of a complete response with the status of a scan calls for.

* `Vendor.Finds` — the disposition that a head calls for, in either style.
* `Vendor.finds_of_judge` — a head is judged by it.
* `Response.finds_of_takeOutcome` — so is every response that comes to a verdict.
-/

namespace Icap

open Text

variable {head lines records : List String} {code count : Nat} {verdict : Verdict}

/-! ## What a head calls for -/

/-- The first `Encapsulated` field of a head announces the body of a response. -/
def AnnouncesBody (head : List String) : Prop :=
  ∃ before field after sections, Field.First Item.encapsulated.name head before field after ∧
    Sections.read field.value = .ok sections ∧ sections.resBody.isSome = true

/-- The first field for it in a head declares a number of violations, and the lines after the field
are their records. -/
def DeclaresViolations (head : List String) (count : Nat) (records : List String) : Prop :=
  ∃ before field, Field.First Item.violationsFound.name head before field records ∧
    readWhole word field.value.toList = .ok count

/-- No head declares two numbers of violations. -/
theorem DeclaresViolations.unique {count' : Nat} {records' : List String}
    (h : DeclaresViolations head count records) (h' : DeclaresViolations head count' records') :
    count = count' ∧ records = records' := by
  obtain ⟨before, field, first, hcount⟩ := h
  obtain ⟨before', field', first', hcount'⟩ := h'
  obtain ⟨rfl, rfl, rfl⟩ := first.unique first'
  exact ⟨Except.ok.inj (hcount.symm.trans hcount'), rfl⟩

/-- Whether a head declares any violations. -/
def HasViolations (head : List String) : Prop :=
  ∃ count records, DeclaresViolations head count records ∧ 1 ≤ count

/-- The disposition that a head with a status calls for where violations are counted: clean if the
status is 200 and a body is announced, the one in the last line of the first record if the status is
201 and violations are declared, and none otherwise. -/
structure FindsViolations (code : Nat) (head : List String) (d : Option Disposition) : Prop where
  clean_iff : d = some .clean ↔ code = 200 ∧ AnnouncesBody head
  infected_iff : (∃ i, i.isInfected = true ∧ d = some i) ↔ code = 201 ∧ HasViolations head
  absent_iff : d = none ↔ ¬(code = 200 ∧ AnnouncesBody head) ∧ ¬(code = 201 ∧ HasViolations head)
  first : ∀ count records, code = 201 → DeclaresViolations head count records → 1 ≤ count →
    ∃ line i, records[3]? = some line ∧ Disposition.read line = .ok i ∧ d = some i

/-- The disposition that a head calls for where the verdict is a word: clean if the first word is
`Clean`, infected if it is any other, and none if there is none. -/
structure FindsWord (head : List String) (d : Option Disposition) : Prop where
  clean_iff : d = some .clean ↔ ∃ before field after,
    Field.First Vendor.responseInfoName head before field after ∧ field.value = "Clean"
  infected_iff : d = some .infectedUnrepaired ↔ ∃ before field after,
    Field.First Vendor.responseInfoName head before field after ∧ field.value ≠ "Clean"
  absent_iff : d = none ↔
    ∀ line ∈ head.tail, Field.isNamed Vendor.responseInfoName line = false

namespace Vendor

/-- The disposition that a head with a status calls for. -/
def Finds (v : Vendor) (code : Nat) (head : List String) (d : Option Disposition) : Prop :=
  match v with
  | .violations => FindsViolations code head d
  | .responseInfo => FindsWord head d

/-! ## Judging a head -/

theorem isInfected_of_read {line : String} {i : Disposition}
    (h : Disposition.read line = .ok i) : i.isInfected = true := by
  simp only [Disposition.read] at h
  split at h
  · cases h
    rfl
  split at h
  · cases h
    rfl
  split at h <;> cases h
  rfl

theorem announcesBody_iff {index : Nat} {field : Field} {sections : Sections}
    (hf : Field.find? head Item.encapsulated.name = some (index, field))
    (hs : Sections.read field.value = .ok sections) :
    AnnouncesBody head ↔ sections.resBody.isSome = true := by
  obtain ⟨before, after, -, first⟩ := Field.find?_eq_some_iff.mp hf
  constructor
  · rintro ⟨before', field', after', sections', first', hs', body⟩
    obtain ⟨rfl, rfl, rfl⟩ := first.unique first'
    cases hs.symm.trans hs'
    exact body
  · exact fun body => ⟨before, field, after, sections, first, hs, body⟩

theorem not_announcesBody (hf : Field.find? head Item.encapsulated.name = none) :
    ¬AnnouncesBody head := by
  rintro ⟨before, field, after, sections, first, -, -⟩
  rw [Field.find?_eq_some_iff.mpr ⟨before, after, rfl, first⟩] at hf
  cases hf

/-- With status 200, a head calls for a clean file if it announces a body. -/
theorem clean_of_judgeOk (h : judgeOk head = .ok verdict) :
    verdict = Verdict.clean ∧ AnnouncesBody head ∨ verdict = {} ∧ ¬AnnouncesBody head := by
  simp only [judgeOk] at h
  split at h
  next hf =>
    cases h
    exact .inr ⟨rfl, not_announcesBody hf⟩
  next index field hf =>
    split at h
    · cases h
    next sections hs =>
      rw [announcesBody_iff hf hs]
      cases h
      cases sections.resBody <;> simp

/-- With status 201, a head calls for what the first record says, if there is any. -/
theorem first_of_judgeViolations (h : judgeViolations head = .ok verdict) :
    ∃ count records, DeclaresViolations head count records ∧
      (count = 0 ∧ verdict.disposition = none ∨
        1 ≤ count ∧ ∃ line i, records[3]? = some line ∧ Disposition.read line = .ok i ∧
          verdict.disposition = some i) := by
  simp only [judgeViolations] at h
  split at h
  · cases h
  next index field hf =>
    split at h
    · cases h
    next count hcount =>
      obtain ⟨before, records, rfl, first⟩ := Field.find?_eq_some_iff.mp hf
      refine ⟨count, records, ⟨before, field, first, hcount⟩, ?_⟩
      rw [first.drop_eq] at h
      simp only [judgeRecords] at h
      split at h
      next hzero =>
        cases h
        exact .inl ⟨hzero, rfl⟩
      next hpos =>
        refine .inr ⟨Nat.pos_of_ne_zero hpos, ?_⟩
        split at h
        · cases h
        · split at h
          next filename name id line rest _ =>
            split at h
            · cases h
            next i hi =>
              cases h
              exact ⟨line, i, rfl, hi, rfl⟩
          · cases h

theorem findsViolations_of_judge (h : Vendor.violations.judge code head = .ok verdict)
    (scan : code = 200 ∨ code = 201) : FindsViolations code head verdict.disposition := by
  rcases scan with rfl | rfl
  · rcases clean_of_judgeOk (by simpa [judge] using h) with ⟨rfl, body⟩ | ⟨rfl, body⟩
    · constructor <;> simp [body, Verdict.clean, Disposition.isInfected]
    · constructor <;> simp [body]
  · obtain ⟨count, records, declared, found⟩ :=
      first_of_judgeViolations (by simpa [judge] using h)
    rcases found with ⟨rfl, nothing⟩ | ⟨pos, line, i, hline, hi, found⟩
    · have absent : ¬HasViolations head := by
        rintro ⟨count, records', declared', pos⟩
        obtain ⟨rfl, -⟩ := declared.unique declared'
        cases pos
      constructor
      case first =>
        intro count records' _ declared' pos
        exact absurd ⟨count, records', declared', pos⟩ absent
      all_goals simp [nothing, absent]
    · have present : HasViolations head := ⟨count, records, declared, pos⟩
      have infected := isInfected_of_read hi
      constructor
      case clean_iff =>
        rw [found]
        simp
        rintro rfl
        cases infected
      case first =>
        intro count' records' _ declared' _
        obtain ⟨rfl, rfl⟩ := declared.unique declared'
        exact ⟨line, i, hline, hi, found⟩
      all_goals simp [found, present, infected]

theorem findsWord_judgeInfo (head : List String) :
    FindsWord head (judgeInfo head).disposition := by
  simp only [judgeInfo]
  split
  next hf =>
    have absent : ∀ before field after, ¬Field.First responseInfoName head before field after := by
      intro before field after first
      rw [Field.find?_eq_some_iff.mpr ⟨before, after, rfl, first⟩] at hf
      cases hf
    constructor
    case absent_iff => simpa using Field.find?_eq_none_iff.mp hf
    all_goals simp [absent]
  next index field hf =>
    obtain ⟨before, after, rfl, first⟩ := Field.find?_eq_some_iff.mp hf
    -- the word is that of the one first field
    have holds_iff : ∀ P : String → Prop, (∃ before field after,
        Field.First responseInfoName head before field after ∧ P field.value) ↔ P field.value := by
      intro P
      constructor
      · rintro ⟨before', field', after', first', holds⟩
        obtain ⟨-, rfl, -⟩ := first.unique first'
        exact holds
      · exact fun holds => ⟨before, field, after, first, holds⟩
    have present : ¬∀ line ∈ head.tail, Field.isNamed responseInfoName line = false := by
      rw [← Field.find?_eq_none_iff, hf]
      exact Option.some_ne_none _
    constructor
    case clean_iff =>
      rw [holds_iff (· = "Clean")]
      split <;> simp_all [Verdict.clean]
    case infected_iff =>
      rw [holds_iff (· ≠ "Clean")]
      split <;> simp_all [Verdict.clean]
    case absent_iff => split <;> simp [present, Verdict.clean]

/-- **A head is judged by what it calls for.** -/
theorem finds_of_judge {v : Vendor} (h : v.judge code head = .ok verdict)
    (scan : code = 200 ∨ code = 201) : v.Finds code head verdict.disposition := by
  cases v with
  | violations => exact findsViolations_of_judge h scan
  | responseInfo =>
    obtain rfl : judgeInfo head = verdict := by
      rcases scan with rfl | rfl <;> simpa [judge] using h
    exact findsWord_judgeInfo head

end Vendor

/-! ## What a response comes to -/

namespace Response

variable {v : Vendor} {limit : Nat} {r : Response} {ps : List Bytes} {stage : Stage}

theorem isBodyDue_of_readSections (h : readSections head = .ok stage) (body : AnnouncesBody head) :
    stage.isBodyDue = true := by
  obtain ⟨before, field, after, sections, first, hs, body⟩ := body
  simp only [readSections, Field.find?_eq_some_iff.mpr ⟨before, after, rfl, first⟩, hs] at h
  cases h
  simp only [Sections.nextStage, body]
  split <;> rfl

theorem violations_of_judge_clean (h : Vendor.violations.judge code head = .ok verdict)
    (scan : code = 200 ∨ code = 201) (clean : verdict.disposition = some .clean) :
    verdict.violations = 0 := by
  obtain ⟨rfl, body⟩ := (Vendor.findsViolations_of_judge h scan).clean_iff.mp clean
  rcases Vendor.clean_of_judgeOk (by simpa [Vendor.judge] using h) with ⟨rfl, -⟩ | ⟨-, none⟩
  · rfl
  · exact absurd body none

/-- The end of the connection leaves a response alone, or leaves it no verdict. -/
theorem eq_of_cutShort (cause : r.cutShort.2.cause = none) : r.cutShort.2 = r := by
  simp only [cutShort] at cause ⊢
  split
  · rfl
  · rw [if_neg ‹_›] at cause
    cases cause

/-- What a response that is done and has not failed knows: what its head says, and the file if it
announces one. -/
structure Knows (v : Vendor) (bytes : Bytes) (r : Response) (code : Nat) : Prop where
  hasHead : HasHead bytes r.lines
  read : readStatus (r.lines.headD "") = .ok code
  scan : code = 200 ∨ code = 201
  status : r.status = some code
  judged : ∃ judged, v.judge code r.lines = .ok judged ∧
    r.verdict.disposition = judged.disposition ∧
    (judged.disposition.isSome = true → r.verdict.violations = judged.violations)
  body : AnnouncesBody r.lines → ∃ file, file ≠ [] ∧ r.verdict.bytes = some file

theorem exists_knows_of_feed {a : Bytes} (done : ((fresh limit).feed v a).1.isDone = true)
    (cause : ((fresh limit).feed v a).1.cause = none) :
    ∃ code, Knows v a ((fresh limit).feed v a).1 code := by
  obtain ⟨lines, r, stage, left, hasHead, taken, hfeed⟩ := exists_head_of_feed done cause
  have behind : ({ r with stage } : Response).stage.rank < 4 := takeHead_rank_lt taken
  obtain ⟨code, judged, hcode, hjudge, scan, hs, rfl⟩ := takeHead_eq_ok_iff.mp taken
  rw [hfeed] at done cause ⊢
  have body := fun due => bytes_of_feed (v := v) due left done cause
  rw [feed_eq_retell behind]
  refine ⟨code, hasHead, hcode, scan, rfl, ⟨judged, hjudge, ?_, ?_⟩, ?_⟩
  · cases hd : judged.disposition <;> simp [retell, fresh, hd]
  · intro found
    simp [retell, found]
  · exact fun announced => body (isBodyDue_of_readSections hs announced)

/-- **A verdict is the one that the head of a complete response calls for.** The response may have
come in any pieces, and the connection may have ended behind them. Its status is that of a scan; a
clean verdict on a file has no violations and comes with the file. -/
theorem finds_of_takeOutcome
    (fed : r = feedAll v (fresh limit) ps ∨ r = (feedAll v (fresh limit) ps).cutShort.2)
    (done : r.isDone = true) (outcome : r.takeOutcome.1 = .ok verdict) :
    ∃ code, r.status = some code ∧ (code = 200 ∨ code = 201) ∧ HasHead ps.flatten r.lines ∧
      readStatus (r.lines.headD "") = .ok code ∧ v.Finds code r.lines verdict.disposition ∧
      (v = .violations → verdict.disposition = some .clean →
        verdict.violations = 0 ∧ ∃ file, file ≠ [] ∧ verdict.bytes = some file) := by
  have cause := cause_of_takeOutcome outcome
  have fed : r = feedAll v (fresh limit) ps := by
    rcases fed with fed | fed
    · exact fed
    · rw [fed] at cause ⊢
      exact eq_of_cutShort cause
  have whole : r = ((fresh limit).feed v ps.flatten).1 := by
    rw [fed] at cause ⊢
    exact feedAll_fresh (by simp [hitLimit, cause])
  obtain rfl : r.verdict = verdict := by
    rw [takeOutcome, cause] at outcome
    exact Except.ok.inj outcome
  obtain ⟨code, knows⟩ := exists_knows_of_feed (whole ▸ done) (whole ▸ cause)
  rw [← whole] at knows
  obtain ⟨judged, hjudge, disposition, violations⟩ := knows.judged
  have finds := Vendor.finds_of_judge hjudge knows.scan
  rw [← disposition] at finds
  refine ⟨code, knows.status, knows.scan, knows.hasHead, knows.read, finds, ?_⟩
  rintro rfl clean
  obtain ⟨-, announced⟩ := (show FindsViolations _ _ _ from finds).clean_iff.mp clean
  rw [disposition] at clean
  refine ⟨?_, knows.body announced⟩
  rw [violations (by simp [clean])]
  exact violations_of_judge_clean hjudge knows.scan clean

/-- A response with a virus in it, behind which the connection ends. -/
def infectedInPieces : List Bytes :=
  [Utf8.encode "ICAP/1.0 201 Created\r\nX-Violations-Found: 1\r\nvirus.msg\r\nW32\r\n184",
    Utf8.encode "11\r\n2\r\nEncapsulated: res-body=0\r\n\r", Utf8.encode "\n2\r\nO",
    Utf8.encode "K\r\n0"]

/-- What the server found in it. -/
def infectedVerdict : Verdict :=
  { disposition := some .infectedReplaced, violations := 1,
    violation := some ⟨"virus.msg", "W32", "18411"⟩, bytes := some (Utf8.encode "OK") }

theorem finds_of_takeOutcome_infected :
    ∃ r, r = (feedAll .violations (fresh 104) infectedInPieces).cutShort.2 ∧ r.isDone = true ∧
      r.takeOutcome.1 = .ok infectedVerdict ∧
      ∃ code, r.status = some code ∧ (code = 200 ∨ code = 201) ∧
        HasHead infectedInPieces.flatten r.lines ∧ readStatus (r.lines.headD "") = .ok code ∧
        Vendor.violations.Finds code r.lines infectedVerdict.disposition ∧
        (Vendor.violations = .violations → infectedVerdict.disposition = some .clean →
          infectedVerdict.violations = 0 ∧
            ∃ file, file ≠ [] ∧ infectedVerdict.bytes = some file) := by
  have done : (feedAll .violations (fresh 104) infectedInPieces).cutShort.2.isDone = true := by
    decide +kernel
  have outcome : (feedAll .violations (fresh 104) infectedInPieces).cutShort.2.takeOutcome.1 =
      .ok infectedVerdict := by decide +kernel
  exact ⟨_, rfl, done, outcome, finds_of_takeOutcome (.inr rfl) done outcome⟩

end Response

end Icap
