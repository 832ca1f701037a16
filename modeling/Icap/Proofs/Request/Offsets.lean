import Icap.Proofs.Head.ChunkSize
import Icap.Proofs.Head.Written
import Icap.Proofs.Session.Wire
import Icap.Proofs.Text.Cuts
import Icap.Proofs.Text.Printed

/-!
# Where the parts of a RESPMOD request begin

The head of a RESPMOD request announces at which bytes behind it the HTTP response and its body
begin. These offsets are counted before the parts are put together, from texts of any length in any
script.

* `respmod_bytes` — the parts, one after the other.
* `read_offsetsLine` — a reader of the head is told the offsets.
* `sent_of_flushed` — what a session sends of a request until it has been written.
* `offsets_of_respmod` — the parts stand where the head announces them.
-/

namespace Icap

open Text

/-! ## Lines -/

namespace Agent

/-- The first line of the HTTP request for a file. -/
def getLine (filename : String) : String :=
  "GET /" ++ Route.dropSlashes filename ++ " HTTP/1.1"

/-- The line of the HTTP request for a file that names the server. -/
def hostLine (r : Route) : String := "Host: " ++ r.uriHost ++ ":" ++ decimal r.port.toNat

/-- The lines of the head of a RESPMOD request, but for the last one. -/
def frontLines (a : Agent) (r : Route) (keepAlive : Bool) : List String :=
  ["RESPMOD icap://" ++ r.uriHost ++ ":" ++ decimal r.port.toNat ++ "/" ++ a.serviceOf r ++
      " ICAP/1.0",
    "Host: " ++ r.host,
    "Connection: " ++ if keepAlive then "keep-alive" else "close"]

/-- The last line of the head of a RESPMOD request, whose HTTP response begins at `resHdr` behind
the head and whose body begins at `resBody`. -/
def offsetsLine (resHdr resBody : Nat) : String :=
  "Encapsulated: req-hdr=0, res-hdr=" ++ decimal resHdr ++ ", res-body=" ++ decimal resBody

end Agent

/-! ## Parts -/

section

variable {line : String} {more : List String}

theorem headBytes_singleton (line : String) :
    headBytes [line] = Utf8.encode (line ++ "\r\n\r\n") := by
  rw [headBytes, blankLine_eq, ← Utf8.encodeChars_append, Utf8.encode, String.toList_append]
  simp [headText, joinLines, List.intercalate]
  rfl

theorem headBytes_cons (line : String) (h : more ≠ []) :
    headBytes (line :: more) = Utf8.encode (line ++ "\r\n") ++ headBytes more := by
  have rest : more.map String.toList ≠ [] := by simpa using h
  rw [headBytes, headText, List.map_cons, joinLines_cons _ rest, Utf8.encode_append, headBytes,
    headText, Utf8.encodeChars_append, Utf8.encodeChars_append]
  simp only [List.append_assoc]
  rfl

end

namespace Agent

variable (a : Agent) (r : Route) (filename : String) (payload : Bytes) (keepAlive : Bool)

theorem fileRequest_eq : fileRequest r filename = headBytes [getLine filename, hostLine r] := by
  have split : " HTTP/1.1\r\n" = " HTTP/1.1" ++ "\r\n" := rfl
  rw [headBytes_cons _ (List.cons_ne_nil _ _), headBytes_singleton, ← Utf8.encode_append,
    fileRequest, getLine, hostLine, split]
  simp only [String.append_assoc]

theorem fileResponse_eq : fileResponse = headBytes ["HTTP/1.1 200 OK"] := by
  rw [headBytes_singleton]
  rfl

theorem respmodHead_eq (resHdr resBody : Nat) : a.respmodHead r keepAlive resHdr resBody =
    headBytes (a.frontLines r keepAlive ++ [offsetsLine resHdr resBody]) := by
  have split : " ICAP/1.0\r\n" = " ICAP/1.0" ++ "\r\n" := rfl
  rw [frontLines, List.cons_append, List.cons_append, List.cons_append, List.nil_append,
    headBytes_cons _ (List.cons_ne_nil _ _), headBytes_cons _ (List.cons_ne_nil _ _),
    headBytes_cons _ (List.cons_ne_nil _ _), headBytes_singleton, ← Utf8.encode_append,
    ← Utf8.encode_append, ← Utf8.encode_append, respmodHead]
  unfold offsetsLine
  simp only [split, String.append_assoc]

end Agent

/-! ## Reading the offsets -/

section

variable {c : Char} {before cs name : List Char} {n : Nat} {s : Sections} {more : List (List Char)}

theorem decimal_zero : (decimal 0).toList = ['0'] := by
  rw [decimal, String.toList_ofList, digitsOnto_of_lt _ (by decide)]
  rfl

theorem not_mem_decimal (hc : decimal? c = none) : c ∉ (decimal n).toList := by
  intro mem
  have some := isSome_decimal? mem
  rw [hc] at some
  cases some

theorem isBlank_of_mem_decimal (hc : c ∈ (decimal n).toList) : isBlank c = false := by
  have small : ∀ d < 10, isBlank (hexDigit d) = false := by decide
  obtain ⟨d, hd, rfl⟩ := exists_digit_of_mem_decimal hc
  exact small d hd

theorem isBlank_getLast?_decimal (cs : List Char) (n : Nat) :
    ∀ c ∈ (cs ++ (decimal n).toList).getLast?, isBlank c = false := by
  intro c hc
  rw [List.getLast?_append_of_ne_nil _ (decimal_ne_nil n)] at hc
  exact isBlank_of_mem_decimal (List.mem_of_getLast? hc)

/-- A name that a section can have: it begins with no blank and has no delimiter in it. -/
def IsSectionName (name : List Char) : Prop :=
  name.head?.map isBlank = some false ∧ '=' ∉ name ∧ ',' ∉ name

instance (name : List Char) : Decidable (IsSectionName name) :=
  inferInstanceAs (Decidable (_ ∧ _ ∧ _))

/-- The text of a section with its offset. -/
def sectionText (name : List Char) (n : Nat) : List Char := name ++ '=' :: (decimal n).toList

theorem comma_not_mem_sectionText (hname : IsSectionName name) (n : Nat) :
    ',' ∉ sectionText name n := by
  have digits : ',' ∉ (decimal n).toList := not_mem_decimal (by decide)
  simp [sectionText, hname.2.2, digits]

theorem isBlank_head?_sectionText (hname : IsSectionName name) (n : Nat) :
    ∀ c ∈ (sectionText name n).head?, isBlank c = false := by
  obtain ⟨c, head, hc⟩ := Option.map_eq_some_iff.mp hname.1
  obtain ⟨name, rfl⟩ := List.head?_eq_some_iff.mp head
  simpa [sectionText] using hc

theorem isBlank_getLast?_sectionText (name : List Char) (n : Nat) :
    ∀ c ∈ (sectionText name n).getLast?, isBlank c = false := by
  have last := isBlank_getLast?_decimal (name ++ ['=']) n
  rwa [List.append_assoc, List.singleton_append] at last

/-- A section that is written with its offset is read back. -/
theorem readPart_sectionText (hname : IsSectionName name) (hn : n < word) :
    Sections.readPart (sectionText name n) = .ok (foldCase (trimChars name), n) := by
  have offset : trimChars (decimal n).toList = (decimal n).toList := by
    have first : ∀ c ∈ (decimal n).toList.head?, isBlank c = false := fun c hc =>
      isBlank_of_mem_decimal (List.mem_of_mem_head? hc)
    exact trimChars_append (List.forall_mem_nil _) first (isBlank_getLast?_decimal [] n)
  rw [Sections.readPart, sectionText, cutAt?_append hname.2.1]
  simp only [offset, wholeDecimal?_decimal hn]

/-- A section in front of other parts, after blanks. -/
theorem readParts_sectionText (hbefore : ∀ c ∈ before, isBlank c = true)
    (hname : IsSectionName name) (hn : n < word) (s : Sections) (more : List (List Char)) :
    Sections.readParts s ((before ++ sectionText name n) :: more) =
      Sections.readParts (s.set (foldCase (trimChars name)) n) more := by
  have trimmed := trimChars_append hbefore (isBlank_head?_sectionText hname n)
    (isBlank_getLast?_sectionText name n)
  rw [Sections.readParts, trimmed, if_neg (by simp [sectionText]), readPart_sectionText hname hn]

/-- A line with a colon behind a name. -/
theorem read_of_toList {line : String} {value : List Char}
    (hline : line.toList = name ++ ':' :: value) (hne : name ≠ []) (hname : ':' ∉ name) :
    Field.read line =
      .ok ⟨String.ofList (trimEnd name), String.ofList (trimChars value)⟩ := by
  obtain ⟨c, cs, rfl⟩ := List.exists_cons_of_ne_nil hne
  rw [Field.read, hline, cutAt?_append hname]

end

namespace Agent

variable {resHdr resBody : Nat}

/-- The value of the field that announces the offsets. -/
def offsets (resHdr resBody : Nat) : List Char :=
  sectionText "req-hdr".toList 0 ++ ',' :: (' ' :: sectionText "res-hdr".toList resHdr ++
    ',' :: (' ' :: sectionText "res-body".toList resBody))

theorem toList_offsetsLine (resHdr resBody : Nat) :
    (offsetsLine resHdr resBody).toList =
      "Encapsulated".toList ++ ':' :: ([' '] ++ offsets resHdr resBody) := by
  unfold offsetsLine offsets sectionText
  rw [decimal_zero]
  simp

theorem isSectionName : IsSectionName "req-hdr".toList ∧ IsSectionName "res-hdr".toList ∧
    IsSectionName "res-body".toList := by decide

theorem trimChars_offsets (resHdr resBody : Nat) :
    trimChars ([' '] ++ offsets resHdr resBody) = offsets resHdr resBody := by
  have last := isBlank_getLast?_sectionText (sectionText "req-hdr".toList 0 ++
    ',' :: (' ' :: sectionText "res-hdr".toList resHdr ++ ',' :: ' ' :: "res-body".toList)) resBody
  refine trimChars_append (List.forall_mem_singleton.mpr rfl) ?_
    (by simpa [offsets, sectionText] using last)
  have first := isBlank_head?_sectionText isSectionName.1 0
  simpa [offsets, sectionText] using first

theorem piecesBy_offsets (resHdr resBody : Nat) : piecesBy ',' (offsets resHdr resBody) =
    [sectionText "req-hdr".toList 0, ' ' :: sectionText "res-hdr".toList resHdr,
      ' ' :: sectionText "res-body".toList resBody] := by
  have comma : ∀ name n, IsSectionName name → ',' ∉ ' ' :: sectionText name n :=
    fun name n hname => by simpa using comma_not_mem_sectionText hname n
  obtain ⟨reqHdr, resHdr', resBody'⟩ := isSectionName
  rw [offsets, piecesBy_append, piecesBy_append,
    piecesBy_of_not_mem (comma_not_mem_sectionText reqHdr 0),
    piecesBy_of_not_mem (comma _ resHdr resHdr'), piecesBy_of_not_mem (comma _ resBody resBody')]
  rfl

/-- **A reader of the head is told the offsets**, if they are numbers of 64 bits. -/
theorem read_offsetsLine (hdr : resHdr < word) (body : resBody < word) :
    ∃ field, Field.read (offsetsLine resHdr resBody) = .ok field ∧
      field.name = Item.encapsulated.name ∧
      Sections.read field.value =
        .ok { reqHdr := some 0, resHdr := some resHdr, resBody := some resBody } := by
  have field := read_of_toList (toList_offsetsLine resHdr resBody) (by decide) (by decide)
  refine ⟨_, field, by show String.ofList (trimEnd _) = _; decide, ?_⟩
  rw [trimChars_offsets, Sections.read, String.toList_ofList, piecesBy_offsets]
  -- each part is a section, the last two after a blank
  have blank : ∀ c ∈ [' '], isBlank c = true := List.forall_mem_singleton.mpr rfl
  obtain ⟨reqHdr, resHdr', resBody'⟩ := isSectionName
  have first := readParts_sectionText (List.forall_mem_nil _) reqHdr (show 0 < word by decide)
  have second := readParts_sectionText blank resHdr' hdr
  have third := readParts_sectionText blank resBody' body
  exact (first _ _).trans ((second _ _).trans (third _ _))

end Agent

/-! ## The request -/

namespace Agent

variable (a : Agent) (r : Route) (filename : String) (payload : Bytes) (keepAlive : Bool)

theorem chunkLine_eq (n : Nat) : chunkLine n = lineBytes (hex n).toList := by
  rw [chunkLine, Utf8.encode_append, lineBytes, crlf_eq]
  rfl

/-- What follows the head of a RESPMOD request. -/
def body : Bytes :=
  fileRequest r filename ++ (fileResponse ++ (lineBytes (hex payload.length).toList ++ payload ++
    Respmod.trailer))

/-- **The parts of a RESPMOD request**, one after the other. -/
theorem respmod_bytes :
    (a.respmod r filename payload keepAlive).bytes =
      headBytes (a.frontLines r keepAlive ++ [offsetsLine (fileRequest r filename).length
        ((fileRequest r filename).length + fileResponse.length)]) ++ body r filename payload := by
  rw [Respmod.bytes, respmod, respmodHead_eq, chunkLine_eq, body]
  simp only [List.append_assoc]

end Agent

/-! ## The session -/

namespace Session

variable {settings : Settings} {now : Instant} {s s' : Session} {e : Event} {es : List Entry}
  {fx : List Effect} {bytes : Bytes} {patience : Deadline}

/-- How far a session is with writing bytes: there are some left, or it does not go on. -/
def Writes (bytes : Bytes) (patience : Deadline) (es : List Entry) (s : Session) : Prop :=
  ∃ left, sent es ++ left = bytes ∧ (s.activity = .writing left patience ∨ IsOver s)

theorem writes_of_quiet {left : Bytes} (total : sent es ++ left = bytes)
    (quiet : fx.flatMap Effect.bytes = [])
    (activity : s'.activity = .writing left patience ∨ IsOver s') :
    Writes bytes patience (es ++ [⟨now, e, fx⟩]) s' :=
  ⟨left, by rw [sent_append, sent_singleton, quiet, List.append_nil, total], activity⟩

theorem writes_of_step (h : Writes bytes patience es s) (step : Step settings now s e s' fx)
    (unflushed : e ≠ .flushed) : Writes bytes patience (es ++ [⟨now, e, fx⟩]) s' := by
  obtain ⟨left, total, activity | isOver⟩ := h
  · have same : s'.activity = s.activity → s'.activity = .writing left patience ∨ IsOver s' :=
      fun same => .inl (same.trans activity)
    rcases step.rule_or_ended with rule | ended
    swap
    · have isOver : IsOver s' := .inr ended
      exact writes_of_quiet total (sent_singleton ▸ sent_of_over step isOver) (.inr isOver)
    clear step
    cases rule
    case accept count _ _ activity' _ _ =>
      obtain ⟨rfl, rfl⟩ := Activity.writing.inj (activity.symm.trans activity')
      refine ⟨left.drop count, ?_, .inl rfl⟩
      rw [sent_append, List.append_assoc, ← total]
      simp [sent, effects, Effect.bytes]
    case flush => exact absurd rfl unflushed
    case refuse | ready | letGo | claim | orphan | close =>
      exact writes_of_quiet total (by simp [Effect.bytes]) (same rfl)
    case failWrite | expireWrite =>
      exact writes_of_quiet total (by simp [Effect.bytes]) (.inr (.inl rfl))
    case destroy => exact writes_of_quiet total (by simp) (.inr (.inr rfl))
    -- all other steps are those of a task that listens or closes
    all_goals simp_all
  · obtain ⟨isOver, quiet⟩ := isOver.step step
    exact writes_of_quiet total quiet (.inr isOver)

theorem writes_of_run (run : Run settings s es s') (start : s.activity = .writing bytes patience)
    (unflushed : ∀ x ∈ es, x.event ≠ .flushed) : Writes bytes patience es s' := by
  induction run with
  | start => exact ⟨bytes, rfl, .inl start⟩
  | step run h ih =>
    rw [List.forall_mem_append, List.forall_mem_singleton] at unflushed
    exact writes_of_step (ih unflushed.1) (step_of_step? h) unflushed.2

/-- **What a session sends of a request until it has been flushed** is the request. -/
theorem sent_of_flushed (run : Run settings s es s') (start : s.activity = .writing bytes patience)
    (unflushed : ∀ x ∈ es, x.event ≠ .flushed)
    (flushed : (s'.step? settings now .flushed).isSome = true) : sent es = bytes := by
  obtain ⟨⟨s'', fx⟩, step⟩ := Option.isSome_iff_exists.mp flushed
  obtain ⟨left, total, activity⟩ := writes_of_run run start unflushed
  obtain ⟨_, _, rule⟩ := (step_of_step? step).exists_rule
  cases rule with
  | flush activity' =>
    rcases activity with activity | isOver | isOver
    · obtain ⟨rfl, -⟩ := Activity.writing.inj (activity.symm.trans activity')
      rwa [List.append_nil] at total
    · cases isOver.symm.trans activity'
    · cases isOver.symm.trans activity'
  | hangUp _ event => rcases event with event | event <;> cases event

end Session

/-! ## The offsets -/

open Session

/-- **The parts of a RESPMOD request stand where its head announces them.** Behind the head, whose
last line announces the offsets,

* the head of the HTTP request comes first, up to the offset of the response;
* the head of the HTTP response comes next, up to the offset of the body;
* the body is the number of the payload's bytes in hexadecimal on a line, the payload, and the end
  of a body of one chunk.

The size of the request is the number of bytes that a session sends from when it begins to write it
until it has been flushed. -/
theorem Agent.offsets_of_respmod (a : Agent) (r : Route) (filename : String) (payload : Bytes)
    (keepAlive : Bool) :
    ∃ resHdr resBody body,
      (a.respmod r filename payload keepAlive).bytes =
        headBytes (a.frontLines r keepAlive ++ [offsetsLine resHdr resBody]) ++ body ∧
      (resBody < word →
        ∃ field, Field.read (offsetsLine resHdr resBody) = .ok field ∧
          field.name = Item.encapsulated.name ∧
          Sections.read field.value =
            .ok { reqHdr := some 0, resHdr := some resHdr, resBody := some resBody }) ∧
      resHdr ≤ resBody ∧
      body.take resHdr = headBytes [getLine filename, hostLine r] ∧
      blankLine <:+ body.take resHdr ∧
      (body.drop resHdr).take (resBody - resHdr) = headBytes ["HTTP/1.1 200 OK"] ∧
      (∃ digits, IsNumeral 16 digits payload.length ∧
        body.drop resBody =
          lineBytes (digits.map hexDigit) ++ payload ++ [13, 10, 48, 13, 10, 13, 10]) ∧
      ∀ settings s es s' now patience,
        s.activity = .writing (a.respmod r filename payload keepAlive).bytes patience →
        Run settings s es s' → (∀ x ∈ es, x.event ≠ .flushed) →
        (s'.step? settings now .flushed).isSome = true →
        (sent es).length = (a.respmod r filename payload keepAlive).size := by
  have request : (body r filename payload).take (fileRequest r filename).length =
      headBytes [getLine filename, hostLine r] := by
    rw [body, List.take_left, fileRequest_eq]
  refine ⟨_, _, _, a.respmod_bytes r filename payload keepAlive,
    fun bound => read_offsetsLine (by omega) bound, Nat.le_add_right _ _, request, ?_, ?_, ?_, ?_⟩
  · rw [request]
    exact List.suffix_append _ _
  · rw [body, List.drop_left, Nat.add_sub_cancel_left, List.take_left, fileResponse_eq]
  · obtain ⟨digits, -, numeral, printed⟩ := exists_digits_hex payload.length
    refine ⟨digits, numeral, ?_⟩
    rw [body, ← List.drop_drop, List.drop_left, List.drop_left, printed]
    rfl
  · intro settings s es s' now patience start run unflushed flushed
    rw [sent_of_flushed run start unflushed flushed, Respmod.length_bytes]

end Icap
