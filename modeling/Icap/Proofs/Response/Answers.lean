import Icap.Proofs.Response.Decoding
import Icap.Proofs.Response.Layout

/-!
# Well-formed responses, cut anywhere

A response that is written well is read in one piece as the parts that were written. It is a sound
layout of these parts, so no beginning of it passes the limit, and it is read so in any pieces.

The limit has to leave room for the delimiter behind each part: a piece may end inside it.

* `Answer.decoded` — what a response is read as, with bytes behind it.
* `Answer.IsWellFormed.feed_bytes` — in one piece.
* `Answer.IsWellFormed.isSound` — a response is a sound layout.
* `Answer.IsWellFormed.feedAll_eq` — in any pieces.
-/

namespace Icap

open Response (fresh feedAll IsWhole)

/-! ## Beginnings of a whole response -/

namespace Response.IsWhole

variable {v : Vendor} {limit : Nat} {core ending p : Bytes} {verdict : Verdict}

/-- A response that is not done has not passed its limit. -/
theorem hitLimit_of_not_isDone (h : ((fresh limit).feed v p).1.isDone = false) :
    ((fresh limit).feed v p).1.hitLimit = false := by
  rcases (settled_fresh limit).feed (v := v) p with cause | stage
  · simp [hitLimit, cause]
  · rw [isDone_iff.mpr ⟨0, stage⟩] at h
    cases h

/-- No beginning of a whole response passes the limit. -/
theorem hitLimit_of_prefix (h : IsWhole v limit core ending verdict) (hp : p <+: core ++ ending) :
    ((fresh limit).feed v p).1.hitLimit = false := by
  rcases List.prefix_or_prefix_of_prefix hp (List.prefix_append core ending) with within | ⟨q, rfl⟩
  · by_cases hne : p = core
    · subst hne
      exact h.hitLimit_core
    · exact hitLimit_of_not_isDone (h.earlier p within hne)
  · obtain ⟨-, outcome, -⟩ := h.feed_core_append ((List.prefix_append_right_inj core).mp hp)
    simp [hitLimit, cause_of_takeOutcome outcome]

end Response.IsWhole

namespace Answer

variable {v : Vendor} {limit room code : Nat} {verdict : Verdict} {w : Answer} {t : Bytes}

/-! ## One piece -/

/-- A response whose head has been read: the verdict on it is kept if it names a disposition. -/
def begun (limit code : Nat) (verdict : Verdict) (w : Answer) : Response where
  limit := limit
  lines := w.lines
  status := some code
  verdict := if verdict.disposition.isSome then verdict else {}

/-- What a response is read as, with bytes behind it. -/
def decoded (limit code : Nat) (verdict : Verdict) (w : Answer) (behind : Bytes) : Response :=
  (w.begun limit code verdict).complete w.payload behind

theorem IsWellFormed.takeHead_begun (h : w.IsWellFormed v limit code)
    (judged : v.judge code w.lines = .ok verdict) :
    Response.takeHead v (fresh limit) w.lines = (w.begun limit code verdict,
      .ok (if w.httpLines.isSome then .httpHead {} true else .chunkSize {})) := by
  obtain ⟨line, status, rfl⟩ := h.status
  have code : Response.readStatus (w.lines.headD "") = .ok line.code :=
    Response.readStatus_of_readIcap status
  exact Response.takeHead_eq_ok_iff.mpr
    ⟨line.code, verdict, code, judged, h.isScan, h.readSections_eq, rfl⟩

/-- The head of the HTTP response, if there is one, is passed over. -/
theorem IsWellFormed.feed_httpLines (h : w.IsWellFormed v limit code) {r : Response}
    (hr : r.limit = limit) (rest : Bytes) :
    { r with stage := if w.httpLines.isSome then .httpHead {} true else .chunkSize {} }.feed v
        (w.httpLines.elim [] headBytes ++ rest) =
      { r with stage := .chunkSize {} }.feed v rest := by
  cases hw : w.httpLines with
  | none => rfl
  | some lines =>
    obtain ⟨⟨first, more, line, hfirst, status⟩, hlines, fits⟩ := h.httpHead lines hw
    exact Response.feed_of_httpHead true hlines (hr ▸ fits) hfirst status rest

/-- **A well-formed response is read** as the parts that were written. -/
theorem IsWellFormed.feed_bytes (h : w.IsWellFormed v limit code)
    (judged : v.judge code w.lines = .ok verdict) (t : Bytes) :
    (fresh limit).feed v (w.bytes ++ t) = (w.decoded limit code verdict t, []) := by
  have hne : w.lines ≠ [] := List.cons_ne_nil _ _
  have payload := Response.feed_payload_of_le (v := v) (r := w.begun limit code verdict)
    (show w.payload.length ≠ 0 by simp [h.payload.1])
    (show w.payload.length ≤ ([] : Bytes).length + (w.payload ++ t).length by simp)
  calc (fresh limit).feed v (w.bytes ++ t)
      = (fresh limit).feed v (headBytes w.lines ++ (w.httpLines.elim [] headBytes ++
          (lineBytes w.sizeLine.text ++ (w.payload ++ t)))) := by simp [bytes]
    _ = { w.begun limit code verdict with
            stage := if w.httpLines.isSome then .httpHead {} true else .chunkSize {} }.feed v
          (w.httpLines.elim [] headBytes ++ (lineBytes w.sizeLine.text ++ (w.payload ++ t))) := by
        rw [Response.feed_of_head (endsWithFirst_headBytes hne h.lines)
          (by simpa [headBytes] using h.fits) (decode_headBytes w.lines)]
        simp only [Response.stepHead, lines_headText hne h.lines, h.takeHead_begun judged,
          Response.Step.settle]
    _ = { w.begun limit code verdict with stage := .payload w.payload.length [] }.feed v
          (w.payload ++ t) := by
        rw [h.feed_httpLines rfl, Response.feed_of_sizeLine h.sizeLine h.payload.2 h.sizeFits]
    _ = (w.decoded limit code verdict t, []) := by simpa [decoded] using payload

/-! ## Any pieces -/

/-- The parts of a response. -/
def layout (w : Answer) : Layout where
  head := headBytes w.lines
  httpHead := w.httpLines.map headBytes
  chunk := some ⟨lineBytes w.sizeLine.text, w.payload⟩

theorem core_layout (w : Answer) : w.layout.core = w.bytes := by
  simp only [Layout.core, layout, bytes, Option.elim_some]
  cases w.httpLines <;> rfl

/-- What fits a limit fits a greater one. -/
theorem IsWellFormed.mono (h : w.IsWellFormed v limit code) (hl : limit ≤ room) :
    w.IsWellFormed v room code :=
  { h with
    fits := h.fits.trans hl
    httpHead := fun lines hw =>
      have ⟨status, isLine, fits⟩ := h.httpHead lines hw
      ⟨status, isLine, fits.trans hl⟩
    sizeFits := h.sizeFits.trans hl }

theorem IsWellFormed.outcome_layout (h : w.IsWellFormed v limit code)
    (judged : v.judge code w.lines = .ok verdict) :
    w.layout.outcome v limit = .ok (w.decoded limit code verdict Terminator.bytes).verdict := by
  have ending : w.layout.ending = Terminator.bytes := rfl
  rw [Layout.outcome, Layout.bytes, core_layout, ending, h.feed_bytes judged]
  rfl

/-- **A well-formed response is a sound layout** of its parts, if there is room for the delimiters
that end them. -/
theorem IsWellFormed.isSound (h : w.IsWellFormed v limit code)
    (hl : limit + blankLine.length ≤ room) : w.layout.IsSound v room where
  head := by
    refine ⟨endsWithFirst_headBytes (List.cons_ne_nil _ _) h.lines, ?_⟩
    rw [layout, headBytes, List.length_append]
    have := h.fits
    omega
  httpHead := by
    rintro head hhead
    obtain ⟨lines, hlines, rfl⟩ := Option.map_eq_some_iff.mp hhead
    obtain ⟨⟨first, more, line, rfl, -⟩, isLine, fits⟩ := h.httpHead lines hlines
    refine ⟨endsWithFirst_headBytes (List.cons_ne_nil _ _) isLine, ?_⟩
    rw [headBytes, List.length_append]
    omega
  chunk := by
    rintro _ ⟨⟩
    obtain ⟨size, read, length⟩ := h.sizeLine.read_text h.payload.2
    refine ⟨endsWithFirst_lineBytes h.sizeLine.line, ?_,
      ⟨w.sizeLine.text, size, decode_lineBytes _, read, length⟩, h.payload.1⟩
    have := h.sizeFits
    have shorter : crlf.length ≤ blankLine.length := by decide
    rw [lineBytes, List.length_append]
    omega
  announced := by
    obtain ⟨before, field, after, sections, first, read, hdr, body⟩ := h.announced
    refine ⟨headText w.lines, field, before.length + 1, sections, decode_headBytes w.lines, ?_,
      read, ?_, body⟩
    · have hne : w.lines ≠ [] := List.cons_ne_nil _ _
      rw [lines_headText hne h.lines]
      exact Field.find?_eq_some_iff.mpr ⟨before, after, rfl, first⟩
    · rw [hdr, layout, Option.isSome_map]
  verdict := by
    obtain ⟨verdict, judged⟩ := h.accepted
    exact ⟨_, (h.mono (by omega)).outcome_layout judged⟩

/-- **A well-formed response is read in any pieces** as in one, with any part of the end of its body
behind it. -/
theorem IsWellFormed.feedAll_eq (h : w.IsWellFormed v limit code)
    (hl : limit + blankLine.length ≤ room) (judged : v.judge code w.lines = .ok verdict)
    (ht : t <+: Terminator.bytes) {pieces : List Bytes} (flat : pieces.flatten = w.bytes ++ t) :
    feedAll v (fresh room) pieces = w.decoded room code verdict t := by
  obtain ⟨_, -, whole⟩ := (h.isSound hl).isWhole
  rw [core_layout] at whole
  have fits : ∀ p, p <+: pieces.flatten → ((fresh room).feed v p).1.hitLimit = false := by
    intro p hp
    rw [flat] at hp
    exact whole.hitLimit_of_prefix (hp.trans ((List.prefix_append_right_inj _).mpr ht))
  rw [Response.feedAll_of_fits fits, flat, (h.mono (by omega)).feed_bytes judged]

end Answer

end Icap
