import Icap.Proofs.Head.ChunkSize
import Icap.Proofs.Head.Field
import Icap.Proofs.Head.Written
import Icap.Proofs.Response.Head
import Icap.Proofs.Response.Terminator

/-!
# Responses written and read

A server writes a response part by part: the head, the head of an HTTP response if there is one, the
line in front of the chunk, and the chunk. Read in one piece, the response is decoded to just these
parts, whatever stands behind it.

* `Answer` — the parts of a response as a server writes them.
* `Answer.IsWellFormed` — the parts can be told from each other, and the head announces them.
* `feed_of_httpHead`, `feed_of_sizeLine` — how one part is read.
* `Answer.decoded_of_isWellFormed` — how the whole response is read.
-/

namespace Icap

open Text

/-- A response as a server writes it. -/
structure Answer where
  /-- The first line of the head. -/
  status : String
  /-- The other lines of the head. -/
  fields : List String
  /-- The lines of the head of an HTTP response. -/
  httpLines : Option (List String) := none
  sizeLine : SizeLine
  payload : Bytes

namespace Answer

/-- The lines of the head. -/
def lines (w : Answer) : List String := w.status :: w.fields

/-- The bytes of the response, up to the end of its body. -/
def bytes (w : Answer) : Bytes :=
  headBytes w.lines ++
    (w.httpLines.elim [] headBytes ++ (lineBytes w.sizeLine.text ++ w.payload))

/-- A response with a status of a scan that can be decoded: its lines are lines, the head is one
that the vendor's style accepts and announces the parts behind it, and what is gathered of each part
fits the limit. The length of the chunk is a number of 64 bits, as every length is. -/
structure IsWellFormed (v : Vendor) (limit code : Nat) (w : Answer) : Prop where
  status : ∃ line, StatusLine.readIcap w.status = .ok line ∧ line.code = code
  isScan : code = 200 ∨ code = 201
  lines : ∀ line ∈ w.lines, IsLine line
  fits : (Utf8.encodeChars (headText w.lines)).length ≤ limit
  accepted : ∃ verdict, v.judge code w.lines = .ok verdict
  announced : ∃ before field after sections,
    Field.First Item.encapsulated.name w.lines before field after ∧
    Sections.read field.value = .ok sections ∧
    sections.resHdr.isSome = w.httpLines.isSome ∧ sections.resBody.isSome = true
  httpHead : ∀ lines ∈ w.httpLines,
    (∃ first more line, lines = first :: more ∧ StatusLine.readHttp first = .ok line) ∧
    (∀ line ∈ lines, IsLine line) ∧ (Utf8.encodeChars (headText lines)).length ≤ limit
  sizeLine : w.sizeLine.IsFor w.payload.length
  sizeFits : (Utf8.encodeChars w.sizeLine.text).length ≤ limit
  payload : w.payload ≠ [] ∧ w.payload.length < word

end Answer

namespace Response

variable {v : Vendor} {r : Response} {lines : List String} {n : Nat}

/-! ## One part -/

theorem readStatus_of_readIcap {first : String} {line : StatusLine}
    (h : StatusLine.readIcap first = .ok line) : readStatus first = .ok line.code := by
  rw [readStatus, h]

/-- The head of an HTTP response is passed over. -/
theorem feed_of_httpHead (body : Bool) (hlines : ∀ line ∈ lines, IsLine line)
    (fits : (Utf8.encodeChars (headText lines)).length ≤ r.limit) {first : String}
    {more : List String} {line : StatusLine} (hfirst : lines = first :: more)
    (status : StatusLine.readHttp first = .ok line) (rest : Bytes) :
    feed v { r with stage := .httpHead {} body } (headBytes lines ++ rest) =
      feed v { r with stage := if body then .chunkSize {} else .done 0 } rest := by
  have hne : lines ≠ [] := by simp [hfirst]
  have complete := Frame.feed_of_endsWithFirst Frame.isPlain_blankLine
    (endsWithFirst_headBytes hne hlines)
    (show (headBytes lines).length ≤ r.limit + blankLine.length by simpa [headBytes] using fits)
    rest
  have text : String.ofList ((Text.lines (headText lines)).headD []) = first := by
    have back := lines_headText hne hlines
    rw [hfirst] at back ⊢
    cases hl : Text.lines (headText (first :: more)) with
    | nil => exact absurd hl (lines_ne_nil _)
    | cons l ls =>
      rw [hl] at back
      exact (List.cons.inj back).1
  rw [feed_eq]
  simp only [step, stepFrame, complete, decode_headBytes, stepHttpHead, text, status, Step.settle]

/-- The line in front of the chunk is read as the size of it. -/
theorem feed_of_sizeLine {w : SizeLine} (hw : w.IsFor n) (hn : n < word)
    (fits : (Utf8.encodeChars w.text).length ≤ r.limit) (rest : Bytes) :
    feed v { r with stage := .chunkSize {} } (lineBytes w.text ++ rest) =
      feed v { r with stage := .payload n [] } rest := by
  have complete := Frame.feed_of_endsWithFirst Frame.isPlain_crlf
    (endsWithFirst_lineBytes hw.line)
    (show (lineBytes w.text).length ≤ r.limit + crlf.length by simpa [lineBytes] using fits) rest
  obtain ⟨chunk, size, rfl⟩ := hw.read_text hn
  rw [feed_eq]
  simp only [step, stepFrame, complete, decode_lineBytes, stepChunkSize, size, Step.settle]

end Response

namespace Answer

open Response (fresh)

variable {v : Vendor} {limit code : Nat} {w : Answer}

/-- The stage that the head announces. -/
theorem IsWellFormed.readSections_eq (h : w.IsWellFormed v limit code) :
    Response.readSections w.lines =
      .ok (if w.httpLines.isSome then .httpHead {} true else .chunkSize {}) := by
  obtain ⟨before, field, after, sections, first, hread, hdr, body⟩ := h.announced
  rw [Response.readSections, Field.find?_eq_some_iff.mpr ⟨before, after, rfl, first⟩]
  simp only [hread, Sections.nextStage, hdr, body, if_true]

/-- The head is taken in. -/
theorem IsWellFormed.takeHead_eq (h : w.IsWellFormed v limit code) :
    ∃ r : Response, r.limit = limit ∧ r.lines = w.lines ∧ r.status = some code ∧ r.cause = none ∧
      Response.takeHead v (fresh limit) w.lines =
        (r, .ok (if w.httpLines.isSome then .httpHead {} true else .chunkSize {})) := by
  obtain ⟨line, status, rfl⟩ := h.status
  obtain ⟨verdict, judged⟩ := h.accepted
  have code : Response.readStatus (w.lines.headD "") = .ok line.code :=
    Response.readStatus_of_readIcap status
  exact ⟨_, rfl, rfl, rfl, rfl,
    Response.takeHead_eq_ok_iff.mpr ⟨_, verdict, code, judged, h.isScan, h.readSections_eq, rfl⟩⟩

/-- What is behind the head is read from the stage that the head announces. -/
theorem IsWellFormed.feed_head (h : w.IsWellFormed v limit code) :
    ∃ r : Response, r.limit = limit ∧ r.lines = w.lines ∧ r.status = some code ∧ r.cause = none ∧
      ∀ rest, (fresh limit).feed v (headBytes w.lines ++ rest) =
        { r with stage := if w.httpLines.isSome then .httpHead {} true else .chunkSize {} }.feed v
          rest := by
  obtain ⟨r, hlimit, hlines, status, cause, taken⟩ := h.takeHead_eq
  refine ⟨r, hlimit, hlines, status, cause, fun rest => ?_⟩
  have hne : w.lines ≠ [] := List.cons_ne_nil _ _
  rw [Response.feed_of_head (endsWithFirst_headBytes hne h.lines)
    (by simpa [headBytes] using h.fits) (decode_headBytes w.lines)]
  simp only [Response.stepHead, lines_headText hne h.lines, taken, Response.Step.settle]

/-- **A well-formed response is decoded.** Read in one piece with any bytes behind it, it is done
and has not failed; the lines of its head, its status and its chunk are those that were written; no
byte is left; and of the end of its body is owed what the bytes behind it leave of it, if they are
the beginning of that end, and nothing otherwise. -/
theorem decoded_of_isWellFormed (h : w.IsWellFormed v limit code) (t : Bytes) :
    ∃ r, (fresh limit).feed v (w.bytes ++ t) = (r, []) ∧
      r.isDone = true ∧ r.cause = none ∧ r.lines = w.lines ∧ r.status = some code ∧
      r.verdict.bytes = some w.payload ∧
      Terminator.rest r.owed =
        if t <+: Terminator.bytes then Terminator.bytes.drop t.length else [] := by
  obtain ⟨r, rfl, hlines, status, cause, head⟩ := h.feed_head
  -- behind the head stands the HTTP head or the line in front of the chunk
  have behind : ∀ rest,
      { r with stage := if w.httpLines.isSome then .httpHead {} true else .chunkSize {} }.feed v
        (w.httpLines.elim [] headBytes ++ rest) =
      { r with stage := .chunkSize {} }.feed v rest := by
    intro rest
    cases hw : w.httpLines with
    | none => rfl
    | some lines =>
      obtain ⟨⟨first, more, line, hfirst, hstatus⟩, hlines, fits⟩ := h.httpHead lines hw
      exact Response.feed_of_httpHead true hlines fits hfirst hstatus rest
  have size := Response.feed_of_sizeLine (v := v) h.sizeLine h.payload.2 h.sizeFits (w.payload ++ t)
  have payload := Response.feed_payload_of_le (v := v) (r := r)
    (show w.payload.length ≠ 0 by simp [h.payload.1])
    (show w.payload.length ≤ ([] : Bytes).length + (w.payload ++ t).length by simp)
  refine ⟨r.complete w.payload t, ?_, rfl, cause, hlines, status, rfl, ?_⟩
  · calc (fresh r.limit).feed v (w.bytes ++ t)
        = (fresh r.limit).feed v (headBytes w.lines ++ (w.httpLines.elim [] headBytes ++
            (lineBytes w.sizeLine.text ++ (w.payload ++ t)))) := by simp [bytes]
      _ = { r with stage := .payload w.payload.length [] }.feed v (w.payload ++ t) := by
          rw [head, behind, size]
      _ = (r.complete w.payload t, []) := by simpa using payload
  · exact Terminator.rest_skip Terminator.bytes.length t

/-- A response with a carriage return at the end of a line, a size with a capital and an extension,
and a chunk that looks like the end of one. -/
def deceptive : Answer where
  status := "ICAP/1.0 200 OK"
  fields := ["Encapsulated: res-hdr=0, res-body=19\r", "Via: 1.1 b"]
  httpLines := some ["HTTP/1.1 200 OK"]
  sizeLine := { before := [' '], digits := ['0', 'A'], extension := some ['x', '=', '1'],
                after := ['\t', '\r'] }
  payload := [13, 10, 48, 13, 10, 13, 10, 73, 67, 65]

theorem decoded_of_isWellFormed_deceptive :
    deceptive.IsWellFormed .violations 66 200 ∧
      ∃ r, (fresh 66).feed .violations (deceptive.bytes ++ [13, 10, 48]) = (r, []) ∧
        r.isDone = true ∧ r.cause = none ∧ r.lines = deceptive.lines ∧ r.status = some 200 ∧
        r.verdict.bytes = some deceptive.payload ∧
        Terminator.rest r.owed = if [13, 10, 48] <+: Terminator.bytes then [13, 10, 13, 10]
          else [] := by
  have zero : IsHexDigit '0' 0 := by
    exact ⟨by decide, .inl rfl⟩
  have ten : IsHexDigit 'A' 10 := by
    exact ⟨by decide, .inr (by decide)⟩
  have wellFormed : deceptive.IsWellFormed .violations 66 200 :=
    { status := ⟨⟨200, "OK"⟩, by decide +kernel, rfl⟩
      isScan := .inl rfl
      lines := by decide +kernel
      fits := by decide +kernel
      accepted := ⟨Verdict.clean, by decide +kernel⟩
      announced := by
        refine ⟨[], ⟨"Encapsulated", "res-hdr=0, res-body=19"⟩, ["Via: 1.1 b"],
          { resHdr := some 0, resBody := some 19 }, ⟨⟨_, _, rfl, ?_⟩, ?_, by simp⟩, ?_, rfl, rfl⟩
        · decide +kernel
        · decide +kernel
        · decide +kernel
      httpHead := by
        rintro _ ⟨⟩
        refine ⟨⟨_, [], ⟨200, "OK"⟩, rfl, ?_⟩, ?_, ?_⟩
        · decide +kernel
        · decide +kernel
        · decide +kernel
      sizeLine := ⟨.concat (.digit zero) ten, List.all_eq_true.mp (by decide),
        List.all_eq_true.mp (by decide), by decide +kernel⟩
      sizeFits := by decide +kernel
      payload := ⟨by decide, by decide⟩ }
  exact ⟨wellFormed, decoded_of_isWellFormed wellFormed [13, 10, 48]⟩

end Answer

end Icap
