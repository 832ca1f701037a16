import Icap.Proofs.Session.Fragments
import Icap.Proofs.Session.States

/-!
# When the connection ends

A connection may end while the task of a session works on a scan. The scan fails, and its fault
tells whether the connection has ended inside a response or in front of one. The task goes by what
it has made part of the response. Bytes that are owed of the response before are no part of the
response to an OPTIONS request. But the task does not keep in mind what is owed of the response to
the OPTIONS request, so that all that it reads behind a RESPMOD request counts.

* `Response.isBegun_feedAll_iff` — a response begins with its first byte, however it is cut.
* `isOpen_of_run` — a session that nobody closes is not disconnected while its task is at work.
* `Half.Heard` — what counts as the beginning of a response.
* `answered_of_end` — what a scan fails with.
* `exists_truncated_unheard` — a response that is said to have begun when it has not.
-/

namespace Icap

/-! ## Responses that have begun -/

namespace Response

variable {v : Vendor} {r r' : Response} {buf left : Bytes} {limit : Nat} {ps : List Bytes}

/-- A response has begun when its head is complete. -/
theorem isBegun_of_rank_lt (behind : r.stage.rank < 4) : r.isBegun = true := by
  simp only [isBegun]
  split
  next frame stage => simp [stage, Stage.rank] at behind
  · rfl

theorem isBegun_of_wait (waits : r.step v buf = .wait r' left) (h : r.isBegun = true ∨ buf ≠ []) :
    r'.isBegun = true := by
  simp only [step] at waits
  cases hs : r.stage with
  | head frame =>
    rw [hs] at waits
    obtain ⟨outcome, hstage⟩ := stepFrame_wait ((isReader_head (v := v) r).ne_wait r) waits
    -- what is fed is kept in the line
    obtain ⟨-, -, fed⟩ := Frame.feed_of_waiting outcome
    rcases h with h | h
    · have : frame.line ≠ [] := by simpa [isBegun, hs, Frame.isEmpty] using h
      simp [isBegun, hstage, Frame.isEmpty, fed, this]
    · simp [isBegun, hstage, Frame.isEmpty, fed, h]
  | httpHead frame body =>
    rw [hs] at waits
    obtain ⟨-, hstage⟩ := stepFrame_wait ((isReader_httpHead (v := v) r body).ne_wait r) waits
    simp [isBegun, hstage]
  | chunkSize frame =>
    rw [hs] at waits
    obtain ⟨-, hstage⟩ := stepFrame_wait ((isReader_chunkSize (v := v) r).ne_wait r) waits
    simp [isBegun, hstage]
  | payload size got =>
    rw [hs] at waits
    simp only [stepPayload] at waits
    split at waits
    · cases waits
    · split at waits <;> cases waits
      rfl
  | done owed =>
    rw [hs] at waits
    cases waits
    rfl

/-- A response that is fed with any bytes has begun. -/
theorem isBegun_feed (h : r.isBegun = true ∨ buf ≠ []) : (r.feed v buf).1.isBegun = true := by
  induction hn : r.stage.rank using Nat.strongRecOn generalizing r buf with
  | ind n ih =>
    subst hn
    rw [feed_eq]
    cases hs : r.step v buf with
    | wait r' left => exact isBegun_of_wait hs h
    | fail => rfl
    | next r' left =>
      have later := rank_lt_of_step hs
      have behind : r'.stage.rank < 4 := by
        have : r.stage.rank ≤ 4 := by cases r.stage <;> simp [Stage.rank]
        omega
      exact ih _ later (.inl (isBegun_of_rank_lt behind)) rfl

theorem isBegun_feedAll (h : r.isBegun = true) (ps : List Bytes) :
    (feedAll v r ps).isBegun = true := by
  induction ps generalizing r with
  | nil => exact h
  | cons p ps ih => exact ih (isBegun_feed (.inl h))

/-- **A response begins with its first byte**, however it is cut, and not before. -/
theorem isBegun_feedAll_iff (nonempty : ∀ p ∈ ps, p ≠ []) :
    (feedAll v (fresh limit) ps).isBegun = true ↔ ps ≠ [] := by
  cases ps with
  | nil => simp [feedAll, fresh, isBegun, Frame.isEmpty]
  | cons p ps =>
    have first := nonempty p List.mem_cons_self
    have begun : (feedAll v (fresh limit) (p :: ps)).isBegun = true :=
      isBegun_feedAll (isBegun_feed (.inr first)) ps
    simp [begun]

theorem cutShort_fst (h : r.isDone = false) : r.cutShort.1 = r.isBegun := by
  cases begun : r.isBegun <;> simp [cutShort, h, begun]

end Response

namespace Session

open Response (fresh feedAll isBegun_feedAll_iff)
open Terminator (skipAll flatten_skipAll ne_nil_of_mem_skipAll rest skip_eq_nil_iff)

variable {settings : Settings} {now : Instant} {s₀ s s' : Session} {e : Event} {fx : List Effect}
  {es part : List Entry} {r : ScanRequest} {half : Half} {owed number : Nat} {route : Route}
  {reuse : Bool} {t₀ : Instant}

/-! ## Sessions that nobody closes -/

/-- Whether the task of a session is at work on a session that is not disconnected, or only comes to
its end. -/
def IsOpen (s : Session) : Prop := IsOver s ∨ s.state ≠ .disconnected

theorem IsOpen.step (isOpen : IsOpen s) (step : Step settings now s e s' fx) (kept : e ≠ .close) :
    IsOpen s' := by
  -- a task that listens or writes is not over
  have state_ne (busy : ¬IsOver s) : s.state ≠ .disconnected := isOpen.resolve_left busy
  rcases step.rule_or_ended with rule | ended
  swap
  · exact .inl (.inr ended)
  cases rule
  case close => exact absurd rfl kept
  case refuse | ready | letGo => exact isOpen
  case orphan activity => exact .inl (.inr activity)
  case claim | ask | answer => exact .inr (by simp [write, listening])
  case turnDown | obey | abandon | refuseOptions | answerLast | answerLate | lapse | failWrite |
    expireWrite => exact .inl (.inl rfl)
  case hangUp | shut | destroy => exact .inl (.inr rfl)
  case start | release | discard | skip | gather | accept | flush =>
    exact .inr (state_ne (by simp [IsOver, *]))

/-- **A session that nobody closes is not disconnected** while its task is at work. -/
theorem isOpen_of_run (run : Run settings (start settings number route reuse t₀) es s)
    (unclosed : ∀ x ∈ es, x.event ≠ .close) : IsOpen s := by
  induction run with
  | start => exact .inr (by simp [start])
  | step run step ih =>
    rw [List.forall_mem_append] at unclosed
    exact (ih unclosed.1).step (step_of_step? step) (unclosed.2 _ List.mem_cons_self)

/-! ## The end of a connection -/

/-- What counts as the beginning of the response to the request of a half, if so much was owed when
the request had been written: for an OPTIONS request, bytes that are not just the beginning of what
was owed; for a RESPMOD request, any bytes. -/
def Half.Heard (owed : Nat) (part : List Entry) : Half → Prop
  | .options => ¬(reads part).flatten <+: rest owed
  | .respmod => reads part ≠ []

instance : Decidable (Half.Heard owed part half) := by
  cases half <;> unfold Half.Heard <;> infer_instance

/-- A response that is being read has begun if anything has been heard of it. -/
theorem Reading.isBegun_iff (reading : Reading settings s₀ half owed s part) :
    s.response.isBegun = true ↔ half.Heard owed part := by
  rw [reading.response_eq, isBegun_feedAll_iff fun _ => ne_nil_of_mem_skipAll]
  cases half with
  | options =>
    rw [Half.Heard, ← skip_eq_nil_iff, ← (flatten_skipAll owed (reads part)).2, ne_eq, not_iff_not,
      List.flatten_eq_nil_iff]
    constructor
    · intro none
      simp [none]
    · intro empty
      exact List.eq_nil_iff_forall_not_mem.mpr fun p hp => ne_nil_of_mem_skipAll hp (empty p hp)
  | respmod => rw [Half.Heard, reading.whole rfl]

/-- The end of the connection is only read by a task that listens. -/
theorem Step.end_eq (step : Step settings now s e s' fx)
    (gone : e = .endOfStream ∨ e = .readFailed) :
    (∃ patience, s.activity = .listening patience) ∧ s' = s.takeEnd.1 ∧ fx = s.takeEnd.2 := by
  cases step with
  | whole rule =>
    cases rule with
    | hangUp activity => exact ⟨⟨_, activity⟩, rfl, rfl⟩
    | _ => simp at gone
  | breakOff rule _ late =>
    cases rule with
    | hangUp => cases late
    | _ => simp at gone

/-- **What a scan fails with when the connection ends.** If the end of the connection is read while
the task works on a scan, on a session that nobody has closed, then the request of a half of the
scan has been written, and its response has been read in part, or nothing of it. The scan fails as
cut short if bytes have been read that count as the beginning of the response, wherever the
connection ends and however the bytes have been cut, and else with the state that tells which
response it is. -/
theorem answered_of_end (run : Run settings (start settings number route reuse t₀) es s)
    (pending : s.pending = some r) (unclosed : ∀ x ∈ es, x.event ≠ .close)
    (gone : e = .endOfStream ∨ e = .readFailed) (h : s.step? settings now e = some (s', fx)) :
    ∃ (half : Half) (before part : List Entry) (t : Session), es = before ++ part ∧
      half.Asked settings (start settings number route reuse t₀) r before ∧
      Run settings (start settings number route reuse t₀) before t ∧ s.state = half.state ∧
      fx = [.answered r.number (.error
        (if half.Heard t.owed part then .parse .truncated else .disconnected half.state))] := by
  obtain ⟨⟨patience, activity⟩, -, rfl⟩ := (step_of_step? h).end_eq gone
  cases phase_of_run run with
  | gone ended =>
    have busy : ¬IsOver s := by simp [IsOver, activity]
    have state := (isOpen_of_run run unclosed).resolve_left busy
    rcases ended with ended | ended
    · exact absurd ended state
    · cases ended.symm.trans activity
  | idle _ _ pending' => cases pending'.symm.trans pending
  | claimed _ _ pending' => cases pending'.symm.trans pending
  | writing half _ activity' => cases activity'.symm.trans activity
  | reading half state _ pending' queue history =>
    obtain rfl := Option.some.inj (pending'.symm.trans pending)
    obtain ⟨before, part, rfl, ⟨asked, t, run', rfl⟩, reading⟩ := history
    have unfinished : s.response.isDone = false := by
      rw [reading.response_eq]
      exact reading.incomplete _ (List.prefix_refl _)
    refine ⟨half, before, part, t, rfl, asked, run', state, ?_⟩
    have begun := reading.isBegun_iff
    simp only [takeEnd_snd, tell, pending, dropQueue, queue, endFault, state,
      Response.cutShort_fst unfinished, begun]
    rfl

/-! ### What is left of another response -/

/-- A second scan, of whose OPTIONS request nothing has been heard when the connection ends, but
only the rest of the response to the scan before. -/
def cutInRest : List (Instant × Event) := twoScans.take 13 ++ [(14, .read [13, 10])]

theorem answered_of_end_cutInRest :
    ∃ es s s', Run { userAgent := "u" } sample es s ∧ s.pending = some ⟨2, "b", [66]⟩ ∧
      (∀ x ∈ es, x.event ≠ .close) ∧
      s.step? { userAgent := "u" } 15 .endOfStream =
        some (s', [.answered 2 (.error (.disconnected .awaitingOptions))]) ∧
      ∃ (half : Half) (before part : List Entry) (t : Session), es = before ++ part ∧
        half.Asked { userAgent := "u" } sample ⟨2, "b", [66]⟩ before ∧
        Run { userAgent := "u" } sample before t ∧ s.state = half.state ∧
        [Effect.answered 2 (.error (.disconnected .awaitingOptions))] = [.answered 2 (.error
          (if half.Heard t.owed part then .parse .truncated else .disconnected half.state))] := by
  have h : (play? { userAgent := "u" } sample cutInRest).elim false (fun played =>
      played.2.pending = some ⟨2, "b", [66]⟩ ∧ (∀ x ∈ played.1, x.event ≠ .close) ∧
        (played.2.step? { userAgent := "u" } 15 .endOfStream).map Prod.snd =
          some [.answered 2 (.error (.disconnected .awaitingOptions))]) = true := by
    decide +kernel
  obtain ⟨es, s, run, h⟩ := exists_run_of_play? h
  obtain ⟨pending, unclosed, ended⟩ := of_decide_eq_true h
  obtain ⟨⟨s', fx⟩, step, rfl⟩ := Option.map_eq_some_iff.mp ended
  exact ⟨es, s, s', run, pending, unclosed, step,
    answered_of_end run pending unclosed (.inl rfl) step⟩

/-- A server answers an OPTIONS request with a sound response, and the connection ends in the last
line of it, when the RESPMOD request has been written. Nothing has been read of the response to that
request, but the scan fails as if it had been cut short. -/
theorem exists_truncated_unheard :
    sampleRound.response.IsSound .violations 65536 ∧
    ∃ es s s', Run { userAgent := "u" } sample es s ∧ (∀ x ∈ es, x.event.IsOrderly) ∧
      s.state = .awaitingScan ∧ s.pending = some ⟨1, "a", [65]⟩ ∧
      (reads es).flatten <+: sampleRound.response.bytes ∧
      s.step? { userAgent := "u" } 9 .endOfStream =
        some (s', [.answered 1 (.error (.parse .truncated))]) := by
  have h : (play? { userAgent := "u" } sample (opening ++ firstPart 0 ++
      [(6, .accepted 176), (7, .flushed), (8, .read (Terminator.bytes.take 2))])).elim false
      (fun played => (∀ x ∈ played.1, x.event.IsOrderly) ∧ played.2.state = .awaitingScan ∧
        played.2.pending = some ⟨1, "a", [65]⟩ ∧
        (reads played.1).flatten <+: sampleRound.response.bytes ∧
        (played.2.step? { userAgent := "u" } 9 .endOfStream).map Prod.snd =
          some [.answered 1 (.error (.parse .truncated))]) = true := by
    decide +kernel
  obtain ⟨es, s, run, h⟩ := exists_run_of_play? h
  obtain ⟨orderly, state, pending, heard, ended⟩ := of_decide_eq_true h
  obtain ⟨⟨s', fx⟩, step, rfl⟩ := Option.map_eq_some_iff.mp ended
  exact ⟨isSound_sampleRound.response, es, s, s', run, orderly, state, pending, heard, step⟩

end Session

end Icap
