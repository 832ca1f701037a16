import Icap.Proofs.Response.Head

/-!
# Responses laid out in parts

A response is a head, perhaps the head of an HTTP response, and perhaps one chunk with the end of
the body. If the parts are what the heads announce and fit the limit, the response is complete with
the last byte in front of the end of its body, and not before.

* `Layout` — the parts of a response.
* `Layout.IsSound` — the parts fit together, and the response alone comes to a verdict.
* `Response.Becomes` — what a part turns a response into.
* `Layout.IsSound.isWhole` — where a response is complete, and with what.
-/

namespace Icap

open Icap.Frame (EndsWithFirst)

/-- A chunk: the line in front of it, with its line end, and what it holds. -/
structure Chunk where
  line : Bytes
  content : Bytes

/-- The parts of a response. Heads stand with the empty lines that end them. -/
structure Layout where
  head : Bytes
  httpHead : Option Bytes := none
  chunk : Option Chunk := none

/-- Whether the line in front of a chunk tells its size. -/
def Chunk.IsAnnounced (c : Chunk) : Prop :=
  ∃ text size, Utf8.decodeChars (c.line.take (c.line.length - crlf.length)) = .ok text ∧
    ChunkSize.read (Text.trimChars text) = .ok size ∧ size.size = c.content.length

namespace Layout

/-- A response up to the end of its body. -/
def core (w : Layout) : Bytes :=
  w.head ++ (w.httpHead.getD [] ++ w.chunk.elim [] fun c => c.line ++ c.content)

/-- The end of a response's body. -/
def ending (w : Layout) : Bytes := w.chunk.elim [] fun _ => Terminator.bytes

/-- All bytes of a response. -/
def bytes (w : Layout) : Bytes := w.core ++ w.ending

/-- The outcome of a response that is read alone. -/
def outcome (v : Vendor) (limit : Nat) (w : Layout) : Outcome :=
  ((Response.fresh limit).feed v w.bytes).1.takeOutcome.1

/-- Whether the head announces the parts behind it. -/
def IsAnnounced (w : Layout) : Prop :=
  ∃ text field index sections,
    Utf8.decodeChars (w.head.take (w.head.length - blankLine.length)) = .ok text ∧
    Field.find? ((Text.lines text).map String.ofList) Item.encapsulated.name =
      some (index, field) ∧
    Sections.read field.value = .ok sections ∧
    sections.resHdr.isSome = w.httpHead.isSome ∧ sections.resBody.isSome = w.chunk.isSome

/-- A response whose parts fit together and fit the limit, each with what ends it, and that comes
to a verdict when it is read alone. -/
structure IsSound (v : Vendor) (limit : Nat) (w : Layout) : Prop where
  head : EndsWithFirst blankLine w.head ∧ w.head.length ≤ limit
  httpHead : ∀ h ∈ w.httpHead, EndsWithFirst blankLine h ∧ h.length ≤ limit
  chunk : ∀ c ∈ w.chunk, EndsWithFirst crlf c.line ∧ c.line.length ≤ limit ∧ c.IsAnnounced ∧
    c.content ≠ []
  announced : w.IsAnnounced
  verdict : ∃ verdict, w.outcome v limit = .ok verdict

end Layout

namespace Response

variable {v : Vendor} {r r' r'' : Response} {s t p : Bytes}

/-! ## Parts -/

/-- The response is not complete before all of a part has arrived, and then goes on from another
state. -/
structure Becomes (v : Vendor) (r : Response) (s : Bytes) (r' : Response) : Prop where
  feed_append : ∀ q, r.feed v (s ++ q) = r'.feed v q
  earlier : ∀ p, p <+: s → p ≠ s → (r.feed v p).1.isDone = false

theorem Becomes.refl (r : Response) : Becomes v r [] r where
  feed_append := fun _ => rfl
  earlier := fun _ hp hne => absurd (List.prefix_nil.mp hp) hne

/-- Two parts, one after the other. -/
theorem Becomes.trans (h : Becomes v r s r') (h' : Becomes v r' t r'') :
    Becomes v r (s ++ t) r'' where
  feed_append := by
    intro q
    rw [List.append_assoc, h.feed_append, h'.feed_append]
  earlier := by
    intro p hp hne
    -- either only some of the first part has arrived, or all of it
    by_cases hs : p <+: s ∧ p ≠ s
    · exact h.earlier p hs.1 hs.2
    · obtain ⟨q, rfl⟩ : s <+: p := by
        rcases List.prefix_or_prefix_of_prefix hp (List.prefix_append s t) with hps | hsp
        · rw [Decidable.not_not.mp fun hne => hs ⟨hps, hne⟩]
        · exact hsp
      rw [h.feed_append]
      exact h'.earlier q ((List.prefix_append_right_inj s).mp hp) fun heq => hne (heq ▸ rfl)

/-- What is behind a part does not fail if all of it does not. -/
theorem Becomes.cause (h : Becomes v r s r') (hc : (r.feed v (s ++ t)).1.cause = none) :
    (r'.feed v t).1.cause = none := by
  rwa [h.feed_append] at hc

/-- A frame with its delimiter, in a stage that gathers it. If the response does not fail in the
end, what the frame holds is read. -/
theorem becomes_of_frame {d : Bytes} (keep : Frame → Stage)
    {read : Response → List Char → Bytes → Step} (hread : IsReader v r read)
    (plain : Frame.IsPlain d) (hstep : ∀ buf, step v r buf = stepFrame r {} d buf keep (read r))
    (hkeep : ∀ f, (keep f).rank ≠ 0) (ends : EndsWithFirst d s) (fits : s.length ≤ r.limit)
    {t : Bytes} (hc : (r.feed v (s ++ t)).1.cause = none) :
    ∃ text r', Utf8.decodeChars (s.take (s.length - d.length)) = .ok text ∧
      read r text [] = .next r' [] ∧ Becomes v r s r' := by
  have complete := Frame.feed_of_endsWithFirst plain ends (Nat.le_add_right_of_le fits)
  cases htext : Utf8.decodeChars (s.take (s.length - d.length)) with
  | error fault =>
    rw [feed_eq, hstep] at hc
    simp only [stepFrame, complete, htext] at hc
    cases hc
  | ok text =>
    have hfeed : ∀ q, step v r (s ++ q) = (read r text []).append q := by
      intro q
      rw [hstep]
      simp only [stepFrame, complete, htext]
      exact hread.append r text [] q
    rw [feed_eq, hfeed] at hc
    cases hr : read r text [] with
    | wait r' left => exact absurd hr (hread.ne_wait _ _ _ _ _)
    | fail r' fault =>
      rw [hr] at hc
      cases hc
    | next r' left =>
      obtain rfl : left = [] := hread.left _ _ _ _ _ hr
      refine ⟨text, r', rfl, hr, fun q => ?_, fun p hp hne => ?_⟩
      · rw [feed_eq, hfeed, hr]
        rfl
      · rw [feed_eq, hstep]
        simp only [stepFrame, Frame.feed_of_part plain ends fits hp hne, Step.settle, isDone]
        exact beq_eq_false_iff_ne.mpr (hkeep _)

/-- The content of a chunk. -/
theorem becomes_of_payload (stage : r.stage = .payload s.length []) (hs : s ≠ []) :
    Becomes v r s (r.complete s []) := by
  have h0 : s.length ≠ 0 := fun h => hs (List.eq_nil_of_length_eq_zero h)
  have hr : r = { r with stage := .payload s.length [] } := by rw [← stage]
  constructor
  · intro q
    have h : feed v { r with stage := .payload s.length [] } (s ++ q) = _ :=
      feed_payload_of_le h0 (by simp)
    rw [feed_complete, hr, h]
    simp [complete]
  · intro p hp hne
    have hlt : p.length < s.length :=
      Nat.lt_of_le_of_ne hp.length_le fun h => hne (hp.eq_of_length h)
    have h : feed v { r with stage := .payload s.length [] } p = _ :=
      feed_payload_of_lt (by simpa using hlt)
    rw [hr, h]
    rfl

end Response

namespace Layout

open Response (Becomes fresh becomes_of_frame becomes_of_payload)

variable {v : Vendor} {limit : Nat} {w : Layout}

/-- The stage behind the head. -/
def stage (w : Layout) : Stage :=
  if w.httpHead.isSome then .httpHead {} w.chunk.isSome
  else if w.chunk.isSome then .chunkSize {}
  else .done 0

/-- Behind the head, the parts are read that it announces. -/
theorem IsSound.becomes_head (h : w.IsSound v limit) {t : Bytes}
    (hc : ((fresh limit).feed v (w.head ++ t)).1.cause = none) :
    ∃ r, Becomes v (fresh limit) w.head r ∧ r.stage = w.stage ∧ r.limit = limit ∧
      r.cause = none := by
  obtain ⟨text', r, htext', hnext, becomes⟩ := becomes_of_frame .head
    (Response.isReader_head _) Frame.isPlain_blankLine (fun _ => rfl) (by simp [Stage.rank])
    h.head.1 h.head.2 hc
  obtain ⟨text, field, index, sections, htext, hfind, hread, hdr, body⟩ := h.announced
  obtain rfl : text = text' := Except.ok.inj (htext.symm.trans htext')
  have keeps := Response.takeHead_keeps (v := v) (fresh limit) ((Text.lines text).map String.ofList)
  simp only [Response.stepHead] at hnext
  split at hnext
  · cases hnext
  next r' stage taken =>
    cases hnext
    rw [taken] at keeps
    refine ⟨_, becomes, ?_, keeps⟩
    obtain ⟨-, -, -, -, -, hs, -⟩ := Response.takeHead_eq_ok_iff.mp taken
    simp only [Response.readSections, hfind, hread] at hs
    rw [← Except.ok.inj hs, Sections.nextStage, Layout.stage, hdr, body]

/-- The stage behind both heads. -/
def bodyStage (w : Layout) : Stage := if w.chunk.isSome then .chunkSize {} else .done 0

variable {r : Response} {t : Bytes}

theorem IsSound.becomes_httpHead (h : w.IsSound v limit) (stage : r.stage = w.stage)
    (hl : r.limit = limit) (cause : r.cause = none)
    (hc : (r.feed v (w.httpHead.getD [] ++ t)).1.cause = none) :
    ∃ r', Becomes v r (w.httpHead.getD []) r' ∧ r'.stage = w.bodyStage ∧ r'.limit = limit ∧
      r'.cause = none := by
  cases hh : w.httpHead with
  | none => exact ⟨r, .refl r, by simp [stage, Layout.stage, hh, bodyStage], hl, cause⟩
  | some head =>
    rw [hh] at hc
    obtain ⟨ends, fits⟩ := h.httpHead head hh
    obtain ⟨text, r', -, hnext, becomes⟩ :=
      becomes_of_frame (.httpHead · w.chunk.isSome)
        (Response.isReader_httpHead r w.chunk.isSome) Frame.isPlain_blankLine
        (fun buf => by simp [Response.step, stage, Layout.stage, hh]) (by simp [Stage.rank]) ends
        (hl ▸ fits) hc
    simp only [Response.stepHttpHead] at hnext
    split at hnext <;> cases hnext
    exact ⟨_, becomes, rfl, hl, cause⟩

/-- A response that is complete and in order, but for what it owes. -/
theorem IsSound.becomes_chunk (h : w.IsSound v limit) (stage : r.stage = w.bodyStage)
    (hl : r.limit = limit) (cause : r.cause = none)
    (hc : (r.feed v (w.chunk.elim [] (fun c => c.line ++ c.content) ++ t)).1.cause = none) :
    ∃ r' owed, Becomes v r (w.chunk.elim [] fun c => c.line ++ c.content) r' ∧
      r'.stage = .done owed ∧ Terminator.rest owed = w.ending ∧ r'.cause = none := by
  cases hw : w.chunk with
  | none =>
    exact ⟨r, 0, .refl r, by simp [stage, bodyStage, hw], by simp [ending, hw], cause⟩
  | some c =>
    rw [hw, Option.elim_some, List.append_assoc] at hc
    obtain ⟨ends, fits, ⟨text, size, htext, hsize, hlen⟩, content_ne⟩ := h.chunk c hw
    obtain ⟨text', r', htext', hnext, becomes⟩ :=
      becomes_of_frame .chunkSize (Response.isReader_chunkSize r) Frame.isPlain_crlf
        (fun buf => by simp [Response.step, stage, bodyStage, hw]) (by simp [Stage.rank]) ends
        (hl ▸ fits) hc
    obtain rfl : text = text' := Except.ok.inj (htext.symm.trans htext')
    simp only [Response.stepChunkSize, hsize] at hnext
    cases hnext
    refine ⟨_, _, becomes.trans (becomes_of_payload (by rw [hlen]) content_ne), rfl, ?_, cause⟩
    simp [ending, hw]
    rfl

end Layout

/-! ## The whole -/

/-- A response, up to the end of its body, that is complete with its last byte and not before, comes
to a verdict, and then owes the end of the body. -/
structure Response.IsWhole (v : Vendor) (limit : Nat) (core ending : Bytes) (verdict : Verdict) :
    Prop where
  isDone : ((fresh limit).feed v core).1.isDone = true
  owed : Terminator.rest ((fresh limit).feed v core).1.owed = ending
  outcome : ((fresh limit).feed v core).1.takeOutcome.1 = .ok verdict
  earlier : ∀ p, p <+: core → p ≠ core → ((fresh limit).feed v p).1.isDone = false

namespace Response.IsWhole

variable {v : Vendor} {limit : Nat} {core ending p q : Bytes} {verdict : Verdict}

theorem core_ne_nil (h : IsWhole v limit core ending verdict) : core ≠ [] := by
  rintro rfl
  have done := h.isDone
  rw [feed_fresh_nil] at done
  cases done

theorem hitLimit_core (h : IsWhole v limit core ending verdict) :
    ((fresh limit).feed v core).1.hitLimit = false := by
  simp [hitLimit, cause_of_takeOutcome h.outcome]

/-- Up to a point within the response, what comes next is taken in as if it had been there from the
start. -/
theorem feed_feed (h : IsWhole v limit core ending verdict) (hp : p <+: core) (hne : p ≠ core)
    (q : Bytes) : (((fresh limit).feed v p).1.feed v q).1 = ((fresh limit).feed v (p ++ q)).1 := by
  refine (feed_append ?_).symm
  have notDone := h.earlier p hp hne
  rcases (settled_fresh limit).feed (v := v) p with cause | stage
  · simp [hitLimit, cause]
  · rw [isDone_iff.mpr ⟨0, stage⟩] at notDone
    cases notDone

/-- The end of the body may follow the response in part. -/
theorem feed_core_append (h : IsWhole v limit core ending verdict) (hq : q <+: ending) :
    ((fresh limit).feed v (core ++ q)).1.isDone = true ∧
      ((fresh limit).feed v (core ++ q)).1.takeOutcome.1 = .ok verdict ∧
      ending = q ++ Terminator.rest ((fresh limit).feed v (core ++ q)).1.owed := by
  rw [feed_append h.hitLimit_core]
  obtain ⟨isDone, owed, outcome, -⟩ := h
  generalize ((fresh limit).feed v core).1 = r at isDone owed outcome ⊢
  obtain ⟨n, stage⟩ := isDone_iff.mp isDone
  rw [feed_of_done stage, takeOutcome_stage]
  rw [Response.owed, stage] at owed
  subst owed
  exact ⟨rfl, outcome, (Terminator.skip_of_part hq).2⟩

end Response.IsWhole

/-- **A sound response is whole** without the end of its body, and comes to the verdict that it
comes to alone. -/
theorem Layout.IsSound.isWhole {v : Vendor} {limit : Nat} {w : Layout} (h : w.IsSound v limit) :
    ∃ verdict, w.outcome v limit = .ok verdict ∧
      Response.IsWhole v limit w.core w.ending verdict := by
  obtain ⟨verdict, hv⟩ := h.verdict
  have hc : ((Response.fresh limit).feed v w.bytes).1.cause = none :=
    Response.cause_of_takeOutcome hv
  have hbytes : w.bytes = w.head ++ (w.httpHead.getD [] ++
      ((w.chunk.elim [] fun c => c.line ++ c.content) ++ w.ending)) := by
    simp [Layout.bytes, Layout.core]
  rw [hbytes] at hc
  obtain ⟨r₁, head, stage₁, limit₁, cause₁⟩ := h.becomes_head hc
  have hc₁ := head.cause hc
  obtain ⟨r₂, httpHead, stage₂, limit₂, cause₂⟩ := h.becomes_httpHead stage₁ limit₁ cause₁ hc₁
  have hc₂ := httpHead.cause hc₁
  obtain ⟨r, owed, chunk, stage, rest, cause⟩ := h.becomes_chunk stage₂ limit₂ cause₂ hc₂
  have whole : Response.Becomes v (Response.fresh limit) w.core r :=
    head.trans (httpHead.trans chunk)
  -- whatever follows, it is no more than skipped
  have done : ∀ q, ((Response.fresh limit).feed v (w.core ++ q)).1 =
      { r with stage := .done (Terminator.skip owed q).1 } := by
    intro q
    rw [whole.feed_append, Response.feed_of_done stage]
  have core := done []
  rw [List.append_nil] at core
  have alone := done w.ending
  refine ⟨verdict, hv, ?_, ?_, ?_, whole.earlier⟩
  · rw [core]
    rfl
  · have nothing : [] <+: Terminator.rest owed := List.nil_prefix
    rw [core]
    exact (Terminator.skip_of_part nothing).2.symm.trans rest
  · rw [Layout.outcome, Layout.bytes, alone, Response.takeOutcome_stage] at hv
    rw [core, Response.takeOutcome_stage]
    exact hv

end Icap
