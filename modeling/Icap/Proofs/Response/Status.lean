import Icap.Proofs.Head.StatusLine
import Icap.Response

/-!
# The heads that pass for their status

A response looks at the status of its head before it looks for sections in it. A head passes if its
status line gives the status of a scan and the vendor's style makes something of its lines. Of the
other heads, the first line alone tells why they fail, and whether a status is on record then.

* `Response.takeStatus` — the part of `Response.takeHead` in front of the sections.
* `Response.takeHead_eq_takeStatus` — the sections are read of the heads that pass.
* `Response.takeStatus_cases` — the heads that pass, and why the others fail.
-/

namespace Icap

open Text

variable {v : Vendor} {code : Nat} {first : String} {lines : List String} {verdict : Verdict}
  {fault : ScanFault}

/-- A style has nothing against a head whose status is not that of a scan. -/
theorem Vendor.exists_judge (v : Vendor) (noScan : ¬(code = 200 ∨ code = 201))
    (lines : List String) : ∃ verdict, v.judge code lines = .ok verdict := by
  obtain ⟨not200, not201⟩ := not_or.mp noScan
  cases v with
  | violations => exact ⟨{}, by simp only [judge, if_neg not200, if_neg not201]⟩
  | responseInfo =>
    simp only [judge]
    split
    · exact ⟨_, rfl⟩
    · exact ⟨_, rfl⟩

namespace Response

/-- Takes in the status line of a head and the verdict that its lines tell. -/
def takeStatus (vendor : Vendor) (r : Response) (lines : List String) :
    Response × Except ScanFault Unit :=
  let first := lines.headD ""
  let r := { r with lines }
  match readStatus first with
  | .error fault => (r, .error fault)
  | .ok code =>
    let r := { r with status := some code }
    match vendor.judge code lines with
    | .error fault => (r, .error fault)
    | .ok verdict =>
      let r := if verdict.disposition.isSome then { r with verdict } else r
      if code = 200 ∨ code = 201 then (r, .ok ())
      else if code = 500 then (r, .error .server)
      else (r, .error (.icapStatus (excerpt first)))

/-- **The sections are read of the heads that pass**, and of no others. -/
theorem takeHead_eq_takeStatus (v : Vendor) (r : Response) (lines : List String) :
    takeHead v r lines =
      ((takeStatus v r lines).1, (takeStatus v r lines).2.bind fun _ => readSections lines) := by
  simp only [takeHead, takeStatus]
  cases readStatus (lines.headD "") with
  | error fault => rfl
  | ok code =>
    dsimp only
    cases v.judge code lines with
    | error fault => rfl
    | ok verdict =>
      dsimp only
      by_cases scan : code = 200 ∨ code = 201
      · rw [if_pos scan, if_pos scan]
        rfl
      rw [if_neg scan, if_neg scan]
      by_cases server : code = 500
      · rw [if_pos server, if_pos server]
        rfl
      · rw [if_neg server, if_neg server]
        rfl

/-! ## The status -/

/-- The status of a head is the code that its status line gives. -/
theorem readStatus_eq_ok_iff : readStatus first = .ok code ↔ StatusLine.Gives first code := by
  rw [← StatusLine.readIcap_eq_ok_iff]
  constructor
  · intro h
    simp only [readStatus] at h
    split at h
    next status read =>
      cases h
      exact ⟨status.reason, read⟩
    · cases h
    · cases h
  · rintro ⟨reason, read⟩
    simp only [readStatus, read]

/-- What a line that gives no code fails for: for the code, if that is all that it lacks. -/
theorem readStatus_of_not_gives (none : ∀ code, ¬StatusLine.Gives first code) :
    readStatus first =
      if StatusLine.leastLength ≤ (Utf8.encode first).length ∧
          StatusLine.icapVersion.toList ++ [' '] <+: first.toList then
        .error (.parse (.invalidValue .icapStatus
          (excerptChars (trimStart (first.toList.drop StatusLine.icapVersion.length)))))
      else .error (.icapStatus (excerpt first)) := by
  have lacks : StatusLine.readIcap first = .error .statusCode ↔ _ :=
    StatusLine.readIcap_eq_statusCode_iff
  cases read : StatusLine.readIcap first with
  | ok status => exact absurd (StatusLine.readIcap_eq_ok_iff.mp ⟨_, read⟩) (none status.code)
  | error fault =>
    by_cases code : fault = .statusCode
    · obtain ⟨long, begins, -⟩ := lacks.mp (code ▸ read)
      rw [if_pos ⟨long, begins⟩, readStatus, read, code]
    · rw [if_neg fun ⟨long, begins⟩ => code (Except.error.inj
        (read.symm.trans (lacks.mpr ⟨long, begins, none⟩))), readStatus, read]
      cases fault <;> first | rfl | exact absurd rfl code

example : readStatus "ICAP/1.0 2000 OK" =
    .error (.parse (.invalidValue .icapStatus "2000 OK")) := by decide

/-! ## The head -/

section

variable {later : List String} (r : Response)

theorem takeStatus_of_unread (unread : readStatus first = .error fault) :
    takeStatus v r (first :: later) = ({ r with lines := first :: later }, .error fault) := by
  simp only [takeStatus, List.headD_cons, unread]

theorem takeStatus_of_refused (read : readStatus first = .ok code)
    (refused : v.judge code (first :: later) = .error fault) :
    takeStatus v r (first :: later) =
      ({ r with lines := first :: later, status := some code }, .error fault) := by
  simp only [takeStatus, List.headD_cons, read, refused]

theorem takeStatus_of_judged (read : readStatus first = .ok code)
    (judged : v.judge code (first :: later) = .ok verdict) :
    takeStatus v r (first :: later) =
      ({ r with lines := first :: later, status := some code,
                verdict := if verdict.disposition.isSome then verdict else r.verdict },
        if code = 200 ∨ code = 201 then .ok ()
        else if code = 500 then .error .server
        else .error (.icapStatus (excerpt first))) := by
  simp only [takeStatus, List.headD_cons, read, judged]
  repeat' split
  all_goals rfl

/-- A head passes just if it has the status of a scan and the style makes a verdict of its lines. -/
theorem takeStatus_eq_ok_iff : (takeStatus v r (first :: later)).2 = .ok () ↔
    ∃ code, StatusLine.Gives first code ∧ (code = 200 ∨ code = 201) ∧
      ∃ verdict, v.judge code (first :: later) = .ok verdict := by
  constructor
  · intro passes
    cases read : readStatus first with
    | error fault =>
      rw [takeStatus_of_unread r read] at passes
      cases passes
    | ok code =>
      cases judged : v.judge code (first :: later) with
      | error fault =>
        rw [takeStatus_of_refused r read judged] at passes
        cases passes
      | ok verdict =>
        refine ⟨code, readStatus_eq_ok_iff.mp read, ?_, verdict, judged⟩
        by_contra noScan
        rw [takeStatus_of_judged r read judged, if_neg noScan] at passes
        dsimp only at passes
        split at passes <;> cases passes
  · rintro ⟨code, gives, scan, verdict, judged⟩
    rw [takeStatus_of_judged r (readStatus_eq_ok_iff.mpr gives) judged, if_pos scan]

/-- A status is on record, whatever becomes of the head. -/
theorem status_takeStatus (gives : StatusLine.Gives first code) :
    (takeStatus v r (first :: later)).1.status = some code := by
  have read := readStatus_eq_ok_iff.mpr gives
  cases judged : v.judge code (first :: later) with
  | error fault => rw [takeStatus_of_refused r read judged]
  | ok verdict => rw [takeStatus_of_judged r read judged]

/-- A head fails for a status that is not that of a scan. -/
theorem takeStatus_of_not_scan (gives : StatusLine.Gives first code)
    (noScan : ¬(code = 200 ∨ code = 201)) : (takeStatus v r (first :: later)).2 =
      if code = 500 then .error .server else .error (.icapStatus (excerpt first)) := by
  obtain ⟨verdict, judged⟩ := v.exists_judge noScan (first :: later)
  rw [takeStatus_of_judged r (readStatus_eq_ok_iff.mpr gives) judged, if_neg noScan]

end

/-- **A head passes** just if its first line gives status 200 or 201 and the style makes a verdict
of its lines; then its sections are read. A head with any other status fails for it, with status 500
as the server's error. A head without a status fails for the code, if its first line has room for
one and begins as it should, and for the whole line otherwise. A status that the first line gives is
on record, and no other. -/
theorem takeStatus_cases (v : Vendor) (r : Response) (first : String) (later : List String) :
    takeHead v r (first :: later) =
      ((takeStatus v r (first :: later)).1,
        (takeStatus v r (first :: later)).2.bind fun _ => readSections (first :: later)) ∧
    ((takeStatus v r (first :: later)).2 = .ok () ↔ ∃ code, StatusLine.Gives first code ∧
      (code = 200 ∨ code = 201) ∧ ∃ verdict, v.judge code (first :: later) = .ok verdict) ∧
    (∀ code, StatusLine.Gives first code →
      (takeStatus v r (first :: later)).1.status = some code ∧
      (code = 500 → (takeStatus v r (first :: later)).2 = .error .server) ∧
      (code ≠ 200 → code ≠ 201 → code ≠ 500 →
        (takeStatus v r (first :: later)).2 = .error (.icapStatus (excerpt first)))) ∧
    ((∀ code, ¬StatusLine.Gives first code) →
      (takeStatus v r (first :: later)).1.status = r.status ∧
      (takeStatus v r (first :: later)).2 =
        if 12 ≤ (Utf8.encode first).length ∧
            StatusLine.icapVersion.toList ++ [' '] <+: first.toList then
          .error (.parse (.invalidValue .icapStatus
            (excerptChars (trimStart (first.toList.drop StatusLine.icapVersion.length)))))
        else .error (.icapStatus (excerpt first))) := by
  refine ⟨takeHead_eq_takeStatus v r _, takeStatus_eq_ok_iff r, fun code gives => ⟨?_, ?_, ?_⟩,
    fun none => ?_⟩
  · exact status_takeStatus r gives
  · rintro rfl
    exact takeStatus_of_not_scan r gives (by decide)
  · intro not200 not201 not500
    rw [takeStatus_of_not_scan r gives (not_or.mpr ⟨not200, not201⟩), if_neg not500]
  · have unread := readStatus_of_not_gives none
    split at unread
    next lacks =>
      rw [takeStatus_of_unread r unread]
      exact ⟨rfl, (if_pos lacks).symm⟩
    next lacks =>
      rw [takeStatus_of_unread r unread]
      exact ⟨rfl, (if_neg lacks).symm⟩

end Response

end Icap
