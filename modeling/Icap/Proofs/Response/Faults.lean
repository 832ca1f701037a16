import Icap.Proofs.Response.Pieces

/-!
# Why responses fail

A response fails for what it says or for what it does not: for its form, for its status, or for an
error that the server reports. It never fails for want of time, nor for a request that could not be
sent.

* `ScanFault.IsOfResponse` — the faults of responses.
* `isOfResponse_of_step` — a step fails for one of them.
* `feed_failsWell` — the cause of a response that has been fed is one of them.
* `isOfResponse_of_takeOutcome` — so is the one that is handed out.
-/

namespace Icap

/-- The faults of responses. -/
def ScanFault.IsOfResponse : ScanFault → Prop
  | .parse _ | .icapStatus _ | .server => True
  | _ => False

theorem Vendor.isOfResponse_of_judge {v : Vendor} {status : Nat} {head : List String}
    {fault : ScanFault} (h : v.judge status head = .error fault) : fault.IsOfResponse := by
  have records {count : Nat} {records : List String}
      (h : judgeRecords count records = .error fault) : fault.IsOfResponse := by
    unfold judgeRecords at h
    repeat' split at h
    all_goals cases h
    all_goals trivial
  cases v with
  | responseInfo =>
    simp only [judge] at h
    split at h <;> cases h
  | violations =>
    simp only [judge] at h
    split at h
    · unfold judgeOk at h
      repeat' split at h
      all_goals cases h
      trivial
    split at h
    · unfold judgeViolations at h
      split at h
      · cases h
        trivial
      split at h
      · cases h
        trivial
      · exact records h
    · cases h

namespace Response

variable {v : Vendor} {r r' : Response} {fault : ScanFault}

/-- If a response has failed, it has for a fault of responses. -/
def FailsWell (r : Response) : Prop := ∀ cause, r.cause = some cause → cause.IsOfResponse

theorem failsWell_fresh (limit : Nat) : (fresh limit).FailsWell := by
  rintro cause ⟨⟩

theorem FailsWell.fail (r : Response) (h : fault.IsOfResponse) : (r.fail fault).FailsWell := by
  rintro cause ⟨⟩
  exact h

/-- What is handed out of a response that has failed is the fault for which it has. -/
theorem isOfResponse_of_takeOutcome (h : r.FailsWell) (failed : r.takeOutcome.1 = .error fault) :
    fault.IsOfResponse := by
  simp only [takeOutcome] at failed
  split at failed <;> cases failed
  next failed => exact h _ failed

/-- What leaves the cause of a response alone. -/
theorem FailsWell.of_keeps (h : r.FailsWell) (keeps : Keeps r r') : r'.FailsWell :=
  fun cause failed => h cause (keeps.2.symm.trans failed)

/-! ## Steps -/

theorem isOfResponse_of_readStatus {first : String} (h : readStatus first = .error fault) :
    fault.IsOfResponse := by
  unfold readStatus at h
  split at h <;> cases h
  all_goals trivial

theorem isOfResponse_of_readSections {lines : List String} (h : readSections lines = .error fault) :
    fault.IsOfResponse := by
  unfold readSections at h
  repeat' split at h
  all_goals cases h
  all_goals trivial

theorem isOfResponse_of_takeHead {lines : List String}
    (h : (takeHead v r lines).2 = .error fault) : fault.IsOfResponse := by
  simp only [takeHead] at h
  split at h
  next status =>
    cases h
    exact isOfResponse_of_readStatus status
  split at h
  next judged =>
    cases h
    exact Vendor.isOfResponse_of_judge judged
  split at h
  · exact isOfResponse_of_readSections h
  split at h <;> cases h
  all_goals trivial

theorem isOfResponse_of_stepFrame {frame : Frame} {delimiter buf : Bytes} {keep : Frame → Stage}
    {read : List Char → Bytes → Step}
    (reading : ∀ text left, read text left = .fail r' fault → fault.IsOfResponse)
    (h : stepFrame r frame delimiter buf keep read = .fail r' fault) : fault.IsOfResponse := by
  simp only [stepFrame] at h
  split at h
  · cases h
    trivial
  · cases h
  split at h
  · cases h
    trivial
  · exact reading _ _ h

/-- **A step fails for a fault of responses alone.** -/
theorem isOfResponse_of_step {buf : Bytes} (h : r.step v buf = .fail r' fault) :
    fault.IsOfResponse := by
  unfold step at h
  split at h
  · refine isOfResponse_of_stepFrame (fun text left h => ?_) h
    simp only [stepHead] at h
    split at h <;> cases h
    next taken => exact isOfResponse_of_takeHead (congrArg Prod.snd taken)
  · refine isOfResponse_of_stepFrame (fun text left h => ?_) h
    simp only [stepHttpHead] at h
    split at h <;> cases h
    trivial
  · refine isOfResponse_of_stepFrame (fun text left h => ?_) h
    simp only [stepChunkSize] at h
    split at h <;> cases h
    trivial
  · simp only [stepPayload] at h
    split at h
    · cases h
      trivial
    split at h <;> cases h
  · cases h

/-- **A response fails for a fault of responses alone**, whatever it is fed with. -/
theorem feed_failsWell (h : r.FailsWell) (buf : Bytes) : (r.feed v buf).1.FailsWell := by
  fun_induction feed v r buf with
  | case1 r buf r' left taken =>
    have keeps := step_keeps (v := v) r buf
    rw [taken] at keeps
    exact h.of_keeps keeps
  | case2 r buf r' left taken ih =>
    have keeps := step_keeps (v := v) r buf
    rw [taken] at keeps
    exact ih (h.of_keeps keeps)
  | case3 r buf r' cause taken => exact .fail r' (isOfResponse_of_step taken)

end Response

end Icap
