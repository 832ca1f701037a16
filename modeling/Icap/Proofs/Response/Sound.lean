import Icap.Proofs.Frame.Limit
import Icap.Proofs.Response.Pieces
import Icap.Proofs.Response.Registers
import Icap.Proofs.Response.Terminator

/-!
# Parsers do not fail

Whatever is done to a parser, its registers keep to an invariant, and under it no index is out of
range, no number falls below zero and no text is cut inside a character: a piece of the response is
taken in within five turns, to its last byte, and does to the response that the parser holds what
`Response.feed` does.

* `Sound` — the invariant.
* `Agrees` — a turn that does what a stage of the response does.
* `Sound.turn` — one turn of a sound parser; each phase has a lemma of its own before it.
* `Sound.feedWithin` — a piece of the response.
* `sound_of_operations` — all that can be done to a parser.
-/

namespace Icap.Registers

open Text

variable {p q : Registers} {r : Response} {d buf : Bytes} {fault : ScanFault} {vendor : Vendor}

/-! ## The invariant -/

/-- The phases that may be queued in a phase. -/
def Phase.Leads : Phase → List Phase → Prop
  | .httpHead, coming => coming = [.chunkSize, .payload, .done] ∨ coming = [.done]
  | .chunkSize, coming => coming = [.payload, .done]
  | .payload, coming => coming = [.done]
  | .head, _ | .done, _ => True

/-- What the registers of a parser keep to: in a phase that gathers up to a delimiter, the frame
waits for it within the limit. -/
structure Sound (p : Registers) : Prop where
  gathers : ∀ d, p.phase.delimiter? = some d → Frame.Gathers d p.limit p.frame.line p.frame
  payload_le : p.payload.length ≤ p.size
  owed_le : p.owed ≤ 7
  owed_eq : p.phase ≠ .done → p.owed = 0
  lines_eq : p.phase = .head → p.lines = []
  leads : p.phase.Leads p.coming

theorem isPlain_of_delimiter? {phase : Phase} (h : phase.delimiter? = some d) :
    Frame.IsPlain d := by
  cases phase <;> cases h
  · exact Frame.isPlain_blankLine
  · exact Frame.isPlain_blankLine
  · exact Frame.isPlain_crlf

theorem sound_fresh (limit : Nat) : (fresh limit).Sound where
  gathers _ h := .start (isPlain_of_delimiter? h) limit
  payload_le := Nat.le_refl 0
  owed_le := Nat.zero_le 7
  owed_eq _ := rfl
  lines_eq _ := rfl
  leads := trivial

/-- A parser that is done. -/
theorem sound_of_done (done : p.phase = .done) (payload_le : p.payload.length ≤ p.size)
    (owed_le : p.owed ≤ 7) : p.Sound where
  gathers d h := by
    rw [done] at h
    cases h
  payload_le := payload_le
  owed_le := owed_le
  owed_eq h := absurd done h
  lines_eq h := by
    rw [done] at h
    cases h
  leads := by
    rw [done]
    trivial

/-- A parser that fails while nothing is owed. -/
theorem sound_of_fail (payload_le : p.payload.length ≤ p.size) (owed : p.owed = 0)
    (fault : ScanFault) : (p.fail fault).Sound :=
  sound_of_done rfl payload_le (owed ▸ Nat.zero_le 7)

theorem response_fail (owed : p.owed = 0) (fault : ScanFault) :
    (p.fail fault).response = p.response.fail fault := by
  simp [Registers.fail, Response.fail, response, owed]

/-- A parser that goes on to a phase with a clear frame. -/
theorem sound_of_clear (clear : p.frame = {}) (payload_le : p.payload.length ≤ p.size)
    (owed : p.owed = 0) (later : p.phase ≠ .head) (leads : p.phase.Leads p.coming) : p.Sound where
  gathers d h := by
    rw [clear]
    exact .start (isPlain_of_delimiter? h) p.limit
  payload_le := payload_le
  owed_le := by
    rw [owed]
    exact Nat.zero_le 7
  owed_eq _ := owed
  lines_eq h := absurd h later
  leads := leads

/-! ## Turns and stages -/

/-- A turn does what a stage of the response does, and leaves a sound parser. If it waits, nothing
is left. -/
inductive Agrees : Turn → Response.Step → Prop
  | wait {p : Registers} {r : Response} (sound : p.Sound) (same : p.response = r) :
      Agrees (.wait p []) (.wait r [])
  | next {p : Registers} {r : Response} (sound : p.Sound) (same : p.response = r) (left : Bytes) :
      Agrees (.next p left) (.next r left)
  | fail {p : Registers} {r : Response} {fault : ScanFault} (sound : (p.fail fault).Sound)
      (same : (p.fail fault).response = r.fail fault) : Agrees (.fail p fault) (.fail r fault)

/-- A turn that fails while nothing is owed. -/
theorem Agrees.of_fault (payload_le : p.payload.length ≤ p.size) (owed : p.owed = 0)
    (same : r = { p.response with stage := r.stage }) (fault : ScanFault) :
    Agrees (.fail p fault) (.fail r fault) := by
  refine .fail (sound_of_fail payload_le owed fault) ?_
  rw [same]
  exact response_fail owed fault

/-- A phase that gathers up to a delimiter. -/
theorem Sound.gather (h : p.Sound) (hd : p.phase.delimiter? = some d) {keep : Frame → Stage}
    {read : Registers → List Char → Bytes → Option Turn} {read' : List Char → Bytes → Response.Step}
    (keeps : ∀ f, { p with frame := f }.response = { p.response with stage := keep f })
    (reads : ∀ f text left, ∃ t, read { p with frame := f } text left = some t ∧
      Agrees t (read' text left)) (buf : Bytes) :
    ∃ t, p.gather d buf read = some t ∧
      Agrees t (Response.stepFrame p.response p.frame d buf keep read') := by
  have gathers := h.gathers d hd
  have plain := isPlain_of_delimiter? hd
  have busy : p.phase ≠ .done := by
    intro done
    rw [done] at hd
    cases hd
  have fails : ∀ (f : Frame) (fault : ScanFault),
      Agrees (.fail { p with frame := f } fault) (.fail p.response fault) :=
    fun f fault => .of_fault (p := { p with frame := f }) h.payload_le (h.owed_eq busy) rfl fault
  have limit : p.response.limit = p.limit := rfl
  simp only [Registers.gather, gathers.feedChecked_eq, Response.stepFrame, limit,
    Option.bind_eq_bind, Option.bind_some]
  cases outcome : (p.frame.feed d p.limit buf).outcome with
  | error fault => exact ⟨_, rfl, fails _ _⟩
  | ok found =>
    cases found with
    | false =>
      obtain ⟨left, more⟩ := gathers.of_waiting plain outcome
      have sound : Sound { p with frame := (p.frame.feed d p.limit buf).frame } :=
        { h with
          gathers := fun d' hd' => by
            obtain rfl : d = d' := Option.some.inj (hd.symm.trans hd')
            rwa [← more.line_eq] at more }
      rw [left]
      exact ⟨_, rfl, .wait sound (keeps _)⟩
    | true =>
      simp only
      cases Utf8.decodeChars (p.frame.feed d p.limit buf).frame.line with
      | error fault => exact ⟨_, rfl, fails _ _⟩
      | ok text => exact reads _ text _

/-! ## Phases -/

/-- The head is judged as the response judges it, and no other register changes. -/
theorem exists_takeHead (vendor : Vendor) (p : Registers) (s : Stage) :
    ∃ q fault?, p.takeHead vendor = some (q, fault?) ∧
      q = { p with status := q.status, verdict := q.verdict } ∧
      Response.takeHead vendor { p.response with stage := s } p.lines =
        ({ q.response with stage := s }, fault?.elim (Response.readSections p.lines) .error) := by
  simp only [takeHead, Response.takeHead, Response.readStatusChecked_eq, Vendor.judgeChecked_eq,
    excerptChecked_eq, excerpt, Option.bind_eq_bind, Option.bind_some]
  cases Response.readStatus (p.lines.headD "") with
  | error fault => exact ⟨_, _, rfl, rfl, rfl⟩
  | ok code =>
    simp only
    cases vendor.judge code p.lines with
    | error fault => exact ⟨_, _, rfl, rfl, rfl⟩
    | ok verdict =>
      by_cases reports : verdict.disposition.isSome = true <;>
        by_cases good : code = 200 ∨ code = 201 <;>
        by_cases server : code = 500 <;>
        simp only [reports, good, server, if_true, if_false] <;>
        exact ⟨_, _, rfl, rfl, rfl⟩

/-- The first of the phases that sections announce is the stage that they announce. -/
theorem response_announced (p : Registers) (s : Sections) (owed : p.owed = 0)
    (clear : p.frame = {}) :
    { p with coming := announced s }.nextPhase.response =
      { p.response with stage := s.nextStage } := by
  cases hdr : s.resHdr <;> cases body : s.resBody <;>
    simp [announced, nextPhase, response, Sections.nextStage, hdr, body, owed, clear]

theorem leads_announced (p : Registers) (s : Sections) :
    { p with coming := announced s }.nextPhase.phase ≠ .head ∧
      { p with coming := announced s }.nextPhase.phase.Leads
        { p with coming := announced s }.nextPhase.coming := by
  cases hdr : s.resHdr <;> cases body : s.resBody <;>
    simp [announced, nextPhase, Phase.Leads, hdr, body]

theorem Sound.headTurn (h : p.Sound) (head : p.phase = .head) (vendor : Vendor) (f : Frame)
    (text : List Char) (left : Bytes) :
    ∃ t, Registers.headTurn vendor { p with frame := f } text left = some t ∧
      Agrees t (Response.stepHead vendor p.response text left) := by
  have owed : p.owed = 0 := h.owed_eq (by simp [head])
  obtain ⟨q, fault?, judged, others, model⟩ := exists_takeHead vendor
    { p with lines := (Text.lines text).map String.ofList, frame := {} } p.response.stage
  have judged' : Response.takeHead vendor p.response ((Text.lines text).map String.ofList) =
      ({ q.response with stage := p.response.stage },
        fault?.elim (Response.readSections ((Text.lines text).map String.ofList)) .error) := model
  have lines : q.lines = (Text.lines text).map String.ofList := by rw [others]
  have payload_le : q.payload.length ≤ q.size := by
    rw [others]
    exact h.payload_le
  have owed_eq : q.owed = 0 := by
    rw [others]
    exact owed
  have clear : q.frame = {} := by rw [others]
  simp only [Registers.headTurn, h.lines_eq head, List.nil_append, judged, Response.stepHead,
    judged', Option.bind_eq_bind, Option.bind_some]
  cases fault? with
  | some fault => exact ⟨_, rfl, .of_fault payload_le owed_eq rfl fault⟩
  | none =>
    obtain ⟨read, checked, model⟩ := Response.readSectionsChecked_eq q.lines
    rw [lines] at model
    simp only [checked, model, Option.bind_some, Option.elim_none]
    cases read with
    | error fault => exact ⟨_, rfl, .of_fault payload_le owed_eq rfl fault⟩
    | ok sections =>
      have sound : { q with coming := announced sections }.nextPhase.Sound :=
        sound_of_clear clear payload_le owed_eq (leads_announced q sections).1
          (leads_announced q sections).2
      exact ⟨_, rfl, .next sound (response_announced q sections owed_eq clear) left⟩

theorem Sound.httpHeadTurn (h : p.Sound) (head : p.phase = .httpHead) (f : Frame)
    (text : List Char) (left : Bytes) :
    ∃ t, Registers.httpHeadTurn { p with frame := f } text left = some t ∧
      Agrees t (Response.stepHttpHead p.response (p.coming.contains .payload) text left) := by
  have owed : p.owed = 0 := h.owed_eq (by simp [head])
  simp only [Registers.httpHeadTurn, StatusLine.readHttpChecked_eq, Response.stepHttpHead,
    Option.bind_eq_bind, Option.bind_some]
  cases StatusLine.readHttp (String.ofList ((Text.lines text).headD [])) with
  | error fault =>
    exact ⟨_, rfl, .of_fault (p := { p with frame := f }) h.payload_le owed rfl _⟩
  | ok _ =>
    have leads := h.leads
    rw [head] at leads
    rcases leads with coming | coming
    all_goals
      have sound : { p with frame := {} }.nextPhase.Sound :=
        sound_of_clear rfl h.payload_le owed (by simp [nextPhase, coming])
          (by simp [nextPhase, coming, Phase.Leads])
      exact ⟨_, rfl, .next sound (by simp [nextPhase, response, coming, owed]) left⟩

theorem Sound.chunkSizeTurn (h : p.Sound) (chunk : p.phase = .chunkSize) (f : Frame)
    (text : List Char) (left : Bytes) :
    ∃ t, Registers.chunkSizeTurn { p with frame := f } text left = some t ∧
      Agrees t (Response.stepChunkSize p.response text left) := by
  have owed : p.owed = 0 := h.owed_eq (by simp [chunk])
  have coming : p.coming = [.payload, .done] := by
    have leads := h.leads
    rwa [chunk] at leads
  simp only [Registers.chunkSizeTurn, ChunkSize.readChecked_eq, excerptChecked_eq,
    Response.stepChunkSize, Option.bind_eq_bind, Option.bind_some]
  cases ChunkSize.read (trimChars text) with
  | error _ =>
    exact ⟨_, rfl, .of_fault (p := { p with frame := f }) h.payload_le owed rfl _⟩
  | ok chunk =>
    have sound : { p with size := chunk.size, payload := [], frame := {} }.nextPhase.Sound :=
      sound_of_clear rfl (Nat.zero_le _) owed (by simp [nextPhase, coming])
        (by simp [nextPhase, coming, Phase.Leads])
    exact ⟨_, rfl, .next sound (by simp [nextPhase, response, coming]) left⟩

/-! ## The end of the body -/

theorem ending_eq (owed_le : p.owed ≤ 7) : p.ending = some (Terminator.rest p.owed) := by
  have size : Terminator.bytes.length = 7 := rfl
  rw [ending, less?_of_le (size ▸ owed_le)]
  exact behind?_of_le (Nat.sub_le _ _)

/-- Bytes are skipped as `Terminator.skip` skips them. -/
theorem skipEnding_eq (owed_le : p.owed ≤ 7) (buf : Bytes) :
    p.skipEnding buf = some { p with owed := (Terminator.skip p.owed buf).1 } := by
  have common := Terminator.common_le_left (Terminator.rest p.owed) buf
  simp only [skipEnding, ending_eq owed_le, less?_of_le common, Terminator.skip,
    Option.bind_eq_bind, Option.bind_some]
  split <;> rfl

/-! ## The chunk -/

theorem Sound.payloadTurn (h : p.Sound) (body : p.phase = .payload) (buf : Bytes) :
    ∃ t, p.payloadTurn buf = some t ∧
      Agrees t (Response.stepPayload p.response p.size p.payload buf) := by
  have owed : p.owed = 0 := h.owed_eq (by simp [body])
  have coming : p.coming = [.done] := by
    have leads := h.leads
    rwa [body] at leads
  rw [Registers.payloadTurn, Response.stepPayload]
  by_cases empty : p.size = 0
  · rw [if_pos empty, if_pos empty]
    exact ⟨_, rfl, .of_fault h.payload_le owed rfl _⟩
  rw [if_neg empty, if_neg empty]
  have inside : min (p.size - p.payload.length) buf.length ≤ buf.length := Nat.min_le_right _ _
  simp only [less?_of_le h.payload_le, front?_of_le inside, behind?_of_le inside,
    Option.bind_eq_bind, Option.bind_some]
  generalize taken : min (p.size - p.payload.length) buf.length = n
  by_cases short : (p.payload ++ buf.take n).length < p.size
  -- what is missing of the chunk is more than the bytes at hand
  · have all : buf.drop n = [] := by
      rw [List.length_append, List.length_take] at short
      exact List.drop_eq_nil_of_le (by omega)
    have sound : Sound { p with payload := p.payload ++ buf.take n } :=
      { h with payload_le := Nat.le_of_lt short }
    rw [if_pos short, if_pos short, all]
    exact ⟨_, rfl, .wait sound (by simp [response, body])⟩
  · rw [if_neg short, if_neg short, skipEnding_eq (Nat.le_refl 7)]
    have owed_le := Terminator.skip_le Terminator.bytes.length (buf.drop n)
    exact ⟨_, rfl, .next (sound_of_done (by simp [nextPhase, coming]) (Nat.zero_le _) owed_le)
      (by simp [nextPhase, response, coming]) []⟩

theorem Sound.doneTurn (h : p.Sound) (done : p.phase = .done) (buf : Bytes) :
    ∃ q, p.skipEnding buf = some q ∧
      Agrees (.wait q [])
        (.wait { p.response with stage := .done (Terminator.skip p.owed buf).1 } []) := by
  have sound : Sound { p with owed := (Terminator.skip p.owed buf).1 } :=
    sound_of_done done h.payload_le (Terminator.skip_le p.owed buf)
  exact ⟨_, skipEnding_eq h.owed_le buf, .wait sound (by simp [response, done])⟩

/-! ## A piece of the response -/

/-- **A turn of a sound parser** does what the stage of the response does. -/
theorem Sound.turn (h : p.Sound) (vendor : Vendor) (buf : Bytes) :
    ∃ t, p.turn vendor buf = some t ∧ Agrees t (p.response.step vendor buf) := by
  unfold Registers.turn Response.step
  cases phase : p.phase with
  | head =>
    have stage : p.response.stage = .head p.frame := by simp [response, phase]
    rw [stage]
    exact h.gather (by rw [phase]; rfl) (fun f => by simp [response, phase])
      (h.headTurn phase vendor) buf
  | httpHead =>
    have stage : p.response.stage = .httpHead p.frame (p.coming.contains .payload) := by
      simp [response, phase]
    rw [stage]
    exact h.gather (by rw [phase]; rfl) (fun f => by simp [response, phase])
      (h.httpHeadTurn phase) buf
  | chunkSize =>
    have stage : p.response.stage = .chunkSize p.frame := by simp [response, phase]
    rw [stage]
    exact h.gather (by rw [phase]; rfl) (fun f => by simp [response, phase])
      (h.chunkSizeTurn phase) buf
  | payload =>
    have stage : p.response.stage = .payload p.size p.payload := by simp [response, phase]
    rw [stage]
    exact h.payloadTurn phase buf
  | done =>
    have stage : p.response.stage = .done p.owed := by simp [response, phase]
    obtain ⟨q, skipped, agrees⟩ := h.doneTurn phase buf
    rw [stage]
    exact ⟨.wait q [], by simp [skipped], agrees⟩

/-- Sound parsers take in a piece within one turn more than there are stages to come. -/
theorem Sound.feedWithin {n : Nat} (h : p.Sound) (vendor : Vendor) (buf : Bytes)
    (enough : p.response.stage.rank < n) :
    ∃ q, p.feedWithin vendor n buf = some (q, []) ∧ q.Sound ∧
      q.response = (p.response.feed vendor buf).1 := by
  induction n generalizing p buf with
  | zero => cases enough
  | succ n ih =>
    obtain ⟨t, turned, agrees⟩ := h.turn vendor buf
    rw [Response.feed_eq, Registers.feedWithin, turned]
    generalize step : p.response.step vendor buf = s at agrees
    cases agrees with
    | wait sound same => exact ⟨_, rfl, sound, same⟩
    | next sound same left =>
      subst same
      exact ih sound left
        (Nat.lt_of_lt_of_le (Response.rank_lt_of_step step) (Nat.le_of_lt_succ enough))
    | fail sound same => exact ⟨_, rfl, sound, same⟩

theorem rank_response_lt (p : Registers) : p.response.stage.rank < 5 := by
  cases phase : p.phase <;> simp [response, phase, Stage.rank]

/-! ## Operations -/

/-- The end of the connection fails a parser if it fails the response, which then is not done. -/
theorem cutShort_cases (p : Registers) :
    p.cutShort = (false, p) ∧ p.response.cutShort = (false, p.response) ∨
      p.phase ≠ .done ∧ p.cutShort = (true, p.fail (.parse .truncated)) ∧
        p.response.cutShort = (true, p.response.fail (.parse .truncated)) := by
  cases phase : p.phase with
  | head =>
    cases empty : p.frame.isEmpty <;>
      simp [Registers.cutShort, Response.cutShort, Response.isDone, Response.isBegun, response,
        Stage.rank, phase, empty]
  | _ =>
    simp [Registers.cutShort, Response.cutShort, Response.isDone, Response.isBegun, response,
      Stage.rank, phase]

/-- The connection ends for a sound parser as it ends for its response. -/
theorem Sound.cutShort (h : p.Sound) :
    p.cutShort.2.Sound ∧ (p.cutShort.1, p.cutShort.2.response) = p.response.cutShort := by
  rcases p.cutShort_cases with ⟨kept, model⟩ | ⟨busy, failed, model⟩
  · rw [kept, model]
    exact ⟨h, rfl⟩
  · rw [failed, model]
    exact ⟨sound_of_fail h.payload_le (h.owed_eq busy) _,
      congrArg (true, ·) (response_fail (h.owed_eq busy) _)⟩

/-- A sound parser hands out what its response hands out. -/
theorem Sound.takeOutcome (h : p.Sound) : p.takeOutcome.2.Sound ∧
    (p.takeOutcome.1, p.takeOutcome.2.response) = p.response.takeOutcome := by
  have cause : p.response.cause = p.cause := rfl
  rw [Registers.takeOutcome, Response.takeOutcome, cause]
  cases p.cause with
  | some _ => exact ⟨{ h with }, rfl⟩
  | none => exact ⟨{ h with }, rfl⟩

/-- **An operation on a sound parser** does to its registers what it does to its response. -/
theorem Sound.operation (h : p.Sound) (op : Operation) :
    ∃ q, op.onRegisters p = some q ∧ q.Sound ∧ q.response = op.onResponse p.response := by
  cases op with
  | feed vendor buf =>
    obtain ⟨q, fed, sound, same⟩ := h.feedWithin vendor buf p.rank_response_lt
    exact ⟨q, by rw [Operation.onRegisters, fed]; rfl, sound, same⟩
  | cutShort => exact ⟨_, rfl, h.cutShort.1, congrArg Prod.snd h.cutShort.2⟩
  | takeOutcome => exact ⟨_, rfl, h.takeOutcome.1, congrArg Prod.snd h.takeOutcome.2⟩
  | reset => exact ⟨_, rfl, sound_fresh p.limit, rfl⟩

theorem Operation.limit_onResponse (op : Operation) (r : Response) :
    (op.onResponse r).limit = r.limit := by
  cases op with
  | feed vendor buf => exact Response.feed_limit r buf
  | cutShort =>
    rw [onResponse, Response.cutShort]
    split <;> rfl
  | takeOutcome =>
    rw [onResponse, Response.takeOutcome]
    split <;> rfl
  | reset => rfl

/-- Any number of operations. -/
theorem Sound.operations (h : p.Sound) (ops : List Operation) :
    ∃ q, ops.foldlM (fun p op => op.onRegisters p) p = some q ∧ q.Sound ∧ q.limit = p.limit ∧
      q.response = ops.foldl (fun r op => op.onResponse r) p.response := by
  induction ops generalizing p with
  | nil => exact ⟨p, rfl, h, rfl, rfl⟩
  | cons op ops ih =>
    obtain ⟨q, applied, sound, same⟩ := h.operation op
    obtain ⟨q', rest, sound', limit, same'⟩ := ih sound
    have kept : q.limit = p.limit := by
      have := op.limit_onResponse p.response
      rwa [← same] at this
    refine ⟨q', ?_, sound', limit.trans kept, ?_⟩
    · rw [List.foldlM_cons, applied]
      exact rest
    · rw [same', same, List.foldl_cons]

/-- **No operation on a parser fails.** After any operations whatever, the registers of a parser
that has read nothing at first hold the response that the operations lead to. While it gathers up to
a delimiter, the count of its frame is less than the length of the delimiter and that of the longest
beginning of the delimiter that what has been gathered ends with, which is within the limit and has
no whole delimiter in it. No more has been gathered of the chunk than its size, and no more than
seven bytes are owed of the end of the body. So any piece of the response that comes next is taken
in within five turns and used up whole, with every position in range. -/
theorem sound_of_operations (limit : Nat) (ops : List Operation) :
    ∃ p, ops.foldlM (fun p op => op.onRegisters p) (fresh limit) = some p ∧
      p.response = ops.foldl (fun r op => op.onResponse r) (Response.fresh limit) ∧
      (∀ d, p.phase.delimiter? = some d →
        p.frame.matched < d.length ∧ d.take p.frame.matched <:+ p.frame.line ∧
        (∀ k < d.length, d.take k <:+ p.frame.line → k ≤ p.frame.matched) ∧
        p.frame.line.length ≤ limit ∧ ¬d <:+: p.frame.line) ∧
      p.payload.length ≤ p.size ∧ p.owed ≤ 7 ∧
      ∀ vendor buf, ∃ q, p.feedWithin vendor 5 buf = some (q, []) ∧
        q.response = (p.response.feed vendor buf).1 := by
  obtain ⟨p, reached, sound, kept, same⟩ := (sound_fresh limit).operations ops
  refine ⟨p, reached, same, fun d hd => ?_, sound.payload_le, sound.owed_le, fun vendor buf => ?_⟩
  · have gathers := sound.gathers d hd
    exact ⟨gathers.matched_lt, gathers.counts.ends,
      fun k hk ends => gathers.counts.longest k (Nat.le_of_lt hk) ends,
      Nat.le_trans gathers.fits (Nat.le_of_eq kept), gathers.unmet⟩
  · obtain ⟨q, fed, -, same⟩ := sound.feedWithin vendor buf p.rank_response_lt
    exact ⟨q, fed, same⟩

end Icap.Registers
