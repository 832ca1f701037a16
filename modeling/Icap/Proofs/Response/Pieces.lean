import Icap.Response
import Icap.Proofs.Frame.Pieces
import Icap.Proofs.Response.Terminator

/-!
# Responses fed in pieces

A response is told of its bytes in whatever pieces the connection delivers them. It comes out the
same for every way of cutting them, unless a piece makes it pass its limit: a limit is checked
against what has been gathered, and that may end inside a delimiter.

* `feed_append` — two pieces do what both do together, unless the first one passes the limit.
* `feedAll_eq_feed_flatten` — so do any number of pieces.
* `feedAll_congr` — two ways of cutting the same bytes come to the same response.
-/

namespace Icap.Response

open Text

variable {v : Vendor}

/-! ## Steps -/

/-- A response that comes to a verdict has not failed. -/
theorem cause_of_takeOutcome {r : Response} {verdict : Verdict}
    (h : r.takeOutcome.1 = .ok verdict) : r.cause = none := by
  simp only [takeOutcome] at h
  split at h
  · cases h
  next hc => exact hc

theorem takeOutcome_stage (r : Response) (s : Stage) :
    { r with stage := s }.takeOutcome.1 = r.takeOutcome.1 := by
  simp only [takeOutcome]
  split <;> rfl

/-- Whether a response failed because a head or a chunk's line was too long. -/
def hitLimit (r : Response) : Bool :=
  match r.cause with
  | some (.parse (.headerTooLarge _)) => true
  | _ => false

/-- What a step comes to once the stages behind it have had their turn. -/
def Step.settle (v : Vendor) : Step → Response × Bytes
  | .wait r left => (r, left)
  | .next r left => r.feed v left
  | .fail r cause => (r.fail cause, [])

theorem feed_eq (v : Vendor) (r : Response) (buf : Bytes) :
    r.feed v buf = (r.step v buf).settle v := by
  rw [feed]
  split <;> simp_all [Step.settle]

/-- A step with more bytes behind those that it leaves. -/
def Step.append : Step → Bytes → Step
  | .wait r left, b => .wait r (left ++ b)
  | .next r left, b => .next r (left ++ b)
  | .fail r cause, _ => .fail r cause

theorem stepHead_append (r : Response) (text : List Char) (left b : Bytes) :
    stepHead v r text (left ++ b) = (stepHead v r text left).append b := by
  simp only [stepHead]
  split <;> rfl

theorem stepHttpHead_append (r : Response) (body : Bool) (text : List Char) (left b : Bytes) :
    stepHttpHead r body text (left ++ b) = (stepHttpHead r body text left).append b := by
  simp only [stepHttpHead]
  split <;> rfl

theorem stepChunkSize_append (r : Response) (text : List Char) (left b : Bytes) :
    stepChunkSize r text (left ++ b) = (stepChunkSize r text left).append b := by
  simp only [stepChunkSize]
  split <;> rfl

theorem isDone_iff {r : Response} : r.isDone = true ↔ ∃ owed, r.stage = .done owed := by
  simp only [isDone]
  cases r.stage <;> simp [Stage.rank]

/-- To a response that is done, nothing happens but that what it owes is skipped. -/
theorem feed_of_done {r : Response} {owed : Nat} (h : r.stage = .done owed) (b : Bytes) :
    r.feed v b = ({ r with stage := .done (Terminator.skip owed b).1 }, []) := by
  rw [feed_eq]
  simp only [step, h, Step.settle]

theorem feed_fail (r : Response) (cause : ScanFault) (b : Bytes) :
    (r.fail cause).feed v b = (r.fail cause, []) := by
  rw [feed_of_done rfl, Terminator.skip_zero]
  rfl

/-! ## Two pieces -/

/-- What the bytes of a stage that gathers a frame are read by: reading neither waits nor looks at
what stands behind, and does not depend on the stage it is in. -/
structure IsReader (v : Vendor) (r : Response) (read : Response → List Char → Bytes → Step) :
    Prop where
  append : ∀ r t l b, read r t (l ++ b) = (read r t l).append b
  settle : ∀ s t l, (read { r with stage := s } t l).settle v = (read r t l).settle v
  ne_wait : ∀ r t l r' l', read r t l ≠ .wait r' l'
  left : ∀ r t l r' l', read r t l = .next r' l' → l' = l

/-- Taking in a head neither looks at the stage nor changes it. -/
theorem takeHead_stage (r : Response) (s : Stage) (lines : List String) :
    takeHead v { r with stage := s } lines =
      ({ (takeHead v r lines).1 with stage := s }, (takeHead v r lines).2) := by
  simp only [takeHead]
  cases readStatus (lines.headD "") with
  | error fault => rfl
  | ok code =>
    dsimp only
    cases v.judge code lines with
    | error fault => rfl
    | ok verdict =>
      dsimp only
      split
      · split <;> rfl
      · split <;> split <;> rfl

theorem isReader_head (r : Response) : IsReader v r (stepHead v) where
  append := stepHead_append
  settle := by
    intro s t l
    simp only [stepHead, takeHead_stage]
    generalize takeHead v r ((Text.lines t).map String.ofList) = taken
    obtain ⟨r', outcome⟩ := taken
    cases outcome <;> rfl
  ne_wait := by
    intro r t l r' l' h
    simp only [stepHead] at h
    split at h <;> cases h
  left := by
    intro r t l r' l' h
    simp only [stepHead] at h
    split at h <;> cases h
    rfl

theorem isReader_httpHead (r : Response) (body : Bool) :
    IsReader v r fun r => stepHttpHead r body where
  append := fun r => stepHttpHead_append r body
  settle := by
    intro s t l
    simp only [stepHttpHead]
    split <;> rfl
  ne_wait := by
    intro r t l r' l' h
    simp only [stepHttpHead] at h
    split at h <;> cases h
  left := by
    intro r t l r' l' h
    simp only [stepHttpHead] at h
    split at h <;> cases h
    rfl

theorem isReader_chunkSize (r : Response) : IsReader v r stepChunkSize where
  append := stepChunkSize_append
  settle := by
    intro s t l
    simp only [stepChunkSize]
    split <;> rfl
  ne_wait := by
    intro r t l r' l' h
    simp only [stepChunkSize] at h
    split at h <;> cases h
  left := by
    intro r t l r' l' h
    simp only [stepChunkSize] at h
    split at h <;> cases h
    rfl

section Gathering

variable (r : Response) {d : Bytes} (keep : Frame → Stage)
  {read : Response → List Char → Bytes → Step} {f : Frame} {a b : Bytes}

/-- Two pieces in a stage that gathers a frame, which is not complete after the first one. -/
theorem feed_append_of_waiting (hread : IsReader v r read)
    (hstep : ∀ f buf, step v { r with stage := keep f } buf =
      stepFrame { r with stage := keep f } f d buf keep (read { r with stage := keep f }))
    (ho : (f.feed d r.limit a).outcome = .ok false) :
    ({ r with stage := keep f }.feed v (a ++ b)).1 =
      (({ r with stage := keep f }.feed v a).1.feed v b).1 := by
  obtain ⟨heq, hok⟩ := Frame.feed_append_of_waiting (b := b) ho
  have hw : stepFrame { r with stage := keep f } f d a keep (read { r with stage := keep f }) =
      .wait { r with stage := keep (f.feed d r.limit a).frame } (f.feed d r.limit a).left := by
    simp [stepFrame, ho]
  rw [feed_eq, feed_eq v _ a, hstep, hstep, hw]
  -- the second piece meets the frame that the first one leaves
  show _ = (feed v { r with stage := keep (f.feed d r.limit a).frame } b).1
  rw [feed_eq, hstep]
  simp only [stepFrame]
  cases hb : ((f.feed d r.limit a).frame.feed d r.limit b).outcome with
  | error fault => simp [heq.trans hb, Step.settle, fail]
  | ok found =>
    rw [hok found hb, hb]
    cases found with
    | false => rfl
    | true =>
      cases Utf8.decodeChars ((f.feed d r.limit a).frame.feed d r.limit b).frame.line with
      | error fault => rfl
      | ok text =>
        exact congrArg Prod.fst ((hread.settle _ text _).trans (hread.settle _ text _).symm)

/-- Two pieces in a stage that gathers a frame. The stages behind it are left to `ih`. -/
theorem feed_append_of_frame (hread : IsReader v r read)
    (hstep : ∀ f buf, step v { r with stage := keep f } buf =
      stepFrame { r with stage := keep f } f d buf keep (read { r with stage := keep f }))
    (ih : ∀ r' l, step v { r with stage := keep f } a = .next r' l →
      hitLimit (r'.feed v l).1 = false →
      (r'.feed v (l ++ b)).1 = ((r'.feed v l).1.feed v b).1)
    (h : hitLimit ({ r with stage := keep f }.feed v a).1 = false) :
    ({ r with stage := keep f }.feed v (a ++ b)).1 =
      (({ r with stage := keep f }.feed v a).1.feed v b).1 := by
  cases ho : (f.feed d r.limit a).outcome with
  | error fault =>
    cases Frame.feed_fault ho
    rw [feed_eq, hstep] at h
    simp [stepFrame, ho, Step.settle, hitLimit, fail] at h
  | ok found =>
    cases found with
    | false => exact feed_append_of_waiting r keep hread hstep ho
    | true =>
      rw [feed_eq] at h
      rw [feed_eq, feed_eq v _ a]
      rw [hstep] at h ih ⊢
      rw [hstep]
      simp only [stepFrame, Frame.feed_append_of_found ho, ho] at h ih ⊢
      cases hd : Utf8.decodeChars (f.feed d r.limit a).frame.line with
      | error fault => simp only [Step.settle, feed_fail]
      | ok text =>
        rw [hd] at h ih
        dsimp only at h ih ⊢
        rw [hread.append]
        cases hs : read { r with stage := keep f } text (f.feed d r.limit a).left with
        | wait r' l => exact absurd hs (hread.ne_wait _ _ _ _ _)
        | next r' l =>
          rw [hs] at h ih
          exact ih r' l rfl h
        | fail r' cause => simp only [Step.append, Step.settle, feed_fail]

end Gathering

/-! ### The chunk -/

variable {size : Nat} {got a b : Bytes}

/-- A piece that does not complete the chunk. -/
theorem feed_payload_of_lt {r : Response} (h : got.length + a.length < size) :
    feed v { r with stage := .payload size got } a =
      ({ r with stage := .payload size (got ++ a) }, []) := by
  have hn : min (size - got.length) a.length = a.length := by omega
  rw [feed_eq]
  simp only [step, stepPayload, if_neg (show ¬size = 0 by omega), hn, List.take_length,
    List.drop_length, List.length_append, if_pos h, Step.settle]

/-- The response that is complete with a chunk, and what of the piece stands behind the chunk. -/
def complete (r : Response) (got left : Bytes) : Response :=
  { r with stage := .done (Terminator.skip Terminator.bytes.length left).1,
           verdict := { r.verdict with bytes := some got } }

/-- A piece that completes the chunk. -/
theorem feed_payload_of_le {r : Response} (h0 : size ≠ 0) (h : size ≤ got.length + a.length) :
    feed v { r with stage := .payload size got } a =
      (r.complete (got ++ a.take (size - got.length)) (a.drop (size - got.length)), []) := by
  have hn : min (size - got.length) a.length = size - got.length := by omega
  rw [feed_eq]
  simp only [step, stepPayload, if_neg h0, hn, List.length_append, List.length_take,
    if_neg (show ¬got.length + (size - got.length) < size by omega)]
  show feed v (r.complete _ _) [] = _
  rw [feed_eq]
  simp only [step, complete, Step.settle, Terminator.skip_skip_nil]

/-- What follows a complete chunk is skipped as far as it is owed. -/
theorem feed_complete (r : Response) (got left b : Bytes) :
    feed v (r.complete got left) b = (r.complete got (left ++ b), []) := by
  rw [feed_of_done rfl]
  simp only [complete, Terminator.skip_append]

/-- Two pieces of which either may complete the chunk. -/
theorem feed_append_of_payload (r : Response) :
    (feed v { r with stage := .payload size got } (a ++ b)).1 =
      (feed v (feed v { r with stage := .payload size got } a).1 b).1 := by
  by_cases h0 : size = 0
  · rw [feed_eq, feed_eq v _ a]
    simp only [step, stepPayload, if_pos h0, Step.settle, feed_fail]
  · by_cases ha : got.length + a.length < size
    · rw [feed_payload_of_lt ha]
      by_cases hb : (got ++ a).length + b.length < size
      · rw [feed_payload_of_lt hb, feed_payload_of_lt (by simp at hb ⊢; omega), List.append_assoc]
      · -- the second piece completes the chunk
        have hs : size - got.length = a.length + (size - (got ++ a).length) := by
          rw [List.length_append]
          omega
        rw [feed_payload_of_le h0 (Nat.not_lt.mp hb),
          feed_payload_of_le h0 (by simp at hb ⊢; omega),
          hs, List.take_length_add_append, List.drop_length_add_append, List.append_assoc]
    · have hs : size - got.length ≤ a.length := by omega
      rw [feed_payload_of_le h0 (Nat.not_lt.mp ha), feed_complete,
        feed_payload_of_le h0 (by rw [List.length_append]; omega),
        List.take_append_of_le_length hs, List.drop_append_of_le_length hs]

/-! ## Any number of pieces -/

/-- **Two pieces do what both do together**, unless the first one passes the limit. -/
theorem feed_append {r : Response} {a b : Bytes} (h : hitLimit (r.feed v a).1 = false) :
    (r.feed v (a ++ b)).1 = ((r.feed v a).1.feed v b).1 := by
  -- a step that goes on reaches a later stage
  induction hn : r.stage.rank using Nat.strongRecOn generalizing r a with
  | ind n ih =>
    subst hn
    have ih : ∀ r' l, step v r a = .next r' l → hitLimit (r'.feed v l).1 = false →
        (r'.feed v (l ++ b)).1 = ((r'.feed v l).1.feed v b).1 :=
      fun r' l hs hl => ih _ (rank_lt_of_step hs) hl rfl
    obtain ⟨limit, stage, lines, status, cause, verdict⟩ := r
    cases stage with
    | head frame =>
      exact feed_append_of_frame ⟨limit, .done 0, lines, status, cause, verdict⟩ .head
        (isReader_head _) (fun _ _ => rfl) ih h
    | httpHead frame body =>
      exact feed_append_of_frame ⟨limit, .done 0, lines, status, cause, verdict⟩ (.httpHead · body)
        (isReader_httpHead _ body) (fun _ _ => rfl) ih h
    | chunkSize frame =>
      exact feed_append_of_frame ⟨limit, .done 0, lines, status, cause, verdict⟩ .chunkSize
        (isReader_chunkSize _) (fun _ _ => rfl) ih h
    | payload size got =>
      exact feed_append_of_payload ⟨limit, .done 0, lines, status, cause, verdict⟩
    | done owed =>
      simp only [feed_eq, step, Step.settle, Terminator.skip_append]

/-! ### Failures last -/

/-- A response that is in order, or is done and owes nothing, as it is after a failure. -/
def Settled (r : Response) : Prop := r.cause = none ∨ r.stage = .done 0

theorem settled_fresh (limit : Nat) : Settled (fresh limit) := .inl rfl

/-- A response that owes nothing does not change any more. -/
theorem feed_of_done_zero {r : Response} (h : r.stage = .done 0) (b : Bytes) :
    r.feed v b = (r, []) := by
  rw [feed_of_done h, Terminator.skip_zero, ← h]

/-- The response that a step comes to. -/
def Step.response : Step → Response
  | .wait r _ | .next r _ | .fail r _ => r

/-- Whether a step leaves alone what it has no business with. -/
def Keeps (r r' : Response) : Prop := r'.limit = r.limit ∧ r'.cause = r.cause

theorem stepFrame_keeps {r : Response} {f : Frame} {d a : Bytes} {keep : Frame → Stage}
    {read : List Char → Bytes → Step} (hread : ∀ t l, Keeps r (read t l).response) :
    Keeps r (stepFrame r f d a keep read).response := by
  simp only [stepFrame]
  split
  · exact ⟨rfl, rfl⟩
  · exact ⟨rfl, rfl⟩
  · split
    · exact ⟨rfl, rfl⟩
    · exact hread _ _

theorem takeHead_keeps (r : Response) (lines : List String) : Keeps r (takeHead v r lines).1 := by
  simp only [takeHead]
  cases readStatus (lines.headD "") with
  | error fault => exact ⟨rfl, rfl⟩
  | ok code =>
    dsimp only
    cases v.judge code lines with
    | error fault => exact ⟨rfl, rfl⟩
    | ok verdict =>
      dsimp only
      split
      · split <;> exact ⟨rfl, rfl⟩
      · split <;> split <;> exact ⟨rfl, rfl⟩

theorem step_keeps (r : Response) (a : Bytes) : Keeps r (step v r a).response := by
  unfold step
  split
  · refine stepFrame_keeps fun t l => ?_
    have hk := takeHead_keeps (v := v) r ((Text.lines t).map String.ofList)
    simp only [stepHead]
    split <;> next heq => rw [heq] at hk; exact hk
  · refine stepFrame_keeps fun t l => ?_
    simp only [stepHttpHead]
    split <;> exact ⟨rfl, rfl⟩
  · refine stepFrame_keeps fun t l => ?_
    simp only [stepChunkSize]
    split <;> exact ⟨rfl, rfl⟩
  · simp only [stepPayload]
    split
    · exact ⟨rfl, rfl⟩
    · split <;> exact ⟨rfl, rfl⟩
  · exact ⟨rfl, rfl⟩

/-- A piece leaves the limit alone, and it leaves the cause alone or the response fails with it. -/
theorem feed_keeps (r : Response) (a : Bytes) : (r.feed v a).1.limit = r.limit ∧
    ((r.feed v a).1.cause = r.cause ∨ (r.feed v a).1.stage = .done 0) := by
  induction hn : r.stage.rank using Nat.strongRecOn generalizing r a with
  | ind n ih =>
    subst hn
    have hk := step_keeps (v := v) r a
    rw [feed_eq]
    cases hs : step v r a with
    | wait r' l =>
      rw [hs] at hk
      exact ⟨hk.1, .inl hk.2⟩
    | next r' l =>
      rw [hs] at hk
      rw [← hk.1, ← hk.2]
      exact ih _ (rank_lt_of_step hs) r' l rfl
    | fail r' cause =>
      rw [hs] at hk
      exact ⟨hk.1, .inr rfl⟩

@[simp] theorem feed_limit (r : Response) (a : Bytes) : (r.feed v a).1.limit = r.limit :=
  (feed_keeps r a).1

theorem Settled.feed {r : Response} (h : Settled r) (a : Bytes) : Settled (r.feed v a).1 := by
  rcases h with h | h
  · exact (feed_keeps r a).2.imp_left fun hc => hc.trans h
  · rw [feed_of_done_zero h]
    exact .inr h

theorem Settled.feedAll {r : Response} (h : Settled r) (ps : List Bytes) :
    Settled (feedAll v r ps) := by
  induction ps generalizing r with
  | nil => exact h
  | cons p ps ih => exact ih (h.feed p)

/-- A response that has passed its limit is done and owes nothing. -/
theorem Settled.stage_of_hitLimit {r : Response} (hr : Settled r) (h : r.hitLimit = true) :
    r.stage = .done 0 := by
  refine hr.resolve_left fun hc => ?_
  simp [hitLimit, hc] at h

/-- A response that has passed its limit stays as it is. -/
theorem feed_of_hitLimit {r : Response} (hr : Settled r) (h : r.hitLimit = true) (b : Bytes) :
    r.feed v b = (r, []) :=
  feed_of_done_zero (hr.stage_of_hitLimit h) b

/-! ### The whole -/

/-- Any number of pieces do what they do together. -/
theorem feedAll_eq_feed_flatten {r : Response} (hr : Settled r) : ∀ {ps : List Bytes}, ps ≠ [] →
    (feedAll v r ps).hitLimit = false → feedAll v r ps = (r.feed v ps.flatten).1
  | [], h, _ => absurd rfl h
  | [p], _, _ => by simp [feedAll]
  | p :: q :: ps, _, h => by
    have ih : feedAll v r (p :: q :: ps) = ((r.feed v p).1.feed v (q :: ps).flatten).1 :=
      feedAll_eq_feed_flatten (hr.feed p) (List.cons_ne_nil q ps) h
    have hp : (r.feed v p).1.hitLimit = false := by
      cases hp : (r.feed v p).1.hitLimit with
      | false => rfl
      | true => rw [ih, feed_of_hitLimit (hr.feed p) hp, hp] at h; exact h
    rw [ih, ← feed_append hp]
    rfl

/-- An empty piece is nothing to a response of which nothing has arrived. -/
theorem feed_fresh_nil (limit : Nat) : (fresh limit).feed v [] = (fresh limit, []) := by
  rw [feed_eq]
  simp [step, fresh, stepFrame, Frame.feed, Frame.scan, Step.settle]

/-- Pieces of a response do what they do together. -/
theorem feedAll_fresh {limit : Nat} {ps : List Bytes}
    (h : (feedAll v (fresh limit) ps).hitLimit = false) :
    feedAll v (fresh limit) ps = ((fresh limit).feed v ps.flatten).1 := by
  cases ps with
  | nil => rw [List.flatten_nil, feed_fresh_nil]; rfl
  | cons p ps => exact feedAll_eq_feed_flatten (settled_fresh limit) (List.cons_ne_nil p ps) h

/-- Pieces of bytes of which no part passes the limit. -/
theorem feedAll_of_fits {limit : Nat} {ps : List Bytes}
    (h : ∀ p, p <+: ps.flatten → ((fresh limit).feed v p).1.hitLimit = false) :
    feedAll v (fresh limit) ps = ((fresh limit).feed v ps.flatten).1 := by
  induction ps using List.reverseRecOn with
  | nil => rw [List.flatten_nil, feed_fresh_nil]; rfl
  | append_singleton ps p ih =>
    rw [List.flatten_concat] at h ⊢
    have first := ih fun q hq => h q (hq.trans (List.prefix_append _ _))
    rw [feed_append (h _ (List.prefix_append _ _)), ← first, feedAll, List.foldl_append]
    rfl

/-- What follows a response that is done does not change its outcome. -/
theorem takeOutcome_of_prefix {r : Response} {p a : Bytes} (hp : p <+: a)
    (done : (r.feed v p).1.isDone = true) (fits : (r.feed v p).1.hitLimit = false) :
    (r.feed v a).1.isDone = true ∧ (r.feed v a).1.takeOutcome.1 = (r.feed v p).1.takeOutcome.1 := by
  obtain ⟨q, rfl⟩ := hp
  obtain ⟨owed, stage⟩ := isDone_iff.mp done
  rw [feed_append fits, feed_of_done stage, takeOutcome_stage]
  exact ⟨rfl, rfl⟩

/-- **How the bytes of a response are cut does not matter.** -/
theorem feedAll_congr (v : Vendor) (limit : Nat) {ps qs : List Bytes} (h : ps.flatten = qs.flatten)
    (hp : (feedAll v (fresh limit) ps).hitLimit = false)
    (hq : (feedAll v (fresh limit) qs).hitLimit = false) :
    feedAll v (fresh limit) ps = feedAll v (fresh limit) qs := by
  rw [feedAll_fresh hp, feedAll_fresh hq, h]

/-- A response cut inside the end of its head and inside the end of its body. -/
def cutInEnds : List Bytes :=
  [Utf8.encode "ICAP/1.0 200 OK\r\nEncapsulated: res-body=0\r\n\r", Utf8.encode "\n2\r\n\r", [],
    Utf8.encode "\n\r\n0\r\n\r\nICAP"]

/-- The same response cut elsewhere. -/
def cutInWords : List Bytes :=
  [Utf8.encode "ICAP/1.0 200 OK\r\nEncapsulated: res-bo",
    Utf8.encode "dy=0\r\n\r\n2\r\n\r\n\r\n0\r", Utf8.encode "\n\r\nICAP"]

theorem feedAll_congr_two_cuts :
    cutInEnds.flatten = cutInWords.flatten ∧
      (feedAll .violations (fresh 44) cutInEnds).hitLimit = false ∧
      (feedAll .violations (fresh 44) cutInWords).hitLimit = false ∧
      feedAll .violations (fresh 44) cutInEnds = feedAll .violations (fresh 44) cutInWords := by
  have h : cutInEnds.flatten = cutInWords.flatten := by decide +kernel
  have hp : (feedAll .violations (fresh 44) cutInEnds).hitLimit = false := by decide +kernel
  have hq : (feedAll .violations (fresh 44) cutInWords).hitLimit = false := by decide +kernel
  exact ⟨h, hp, hq, feedAll_congr .violations 44 h hp hq⟩

end Icap.Response
