import Icap.Frame
import Icap.Head.ChunkSize
import Icap.Head.StatusLine
import Icap.Response.Terminator
import Icap.Vendor

/-!
# Responses

A response of an ICAP server as far as it has arrived. It may come in any pieces: `Response.feed`
resumes where the last piece ended and uses up each piece whole.

A response is a head, then, as the head announces, the head of an HTTP response, and a body of one
chunk. It is read in stages; what a stage has to remember is part of the stage. A response that
fails is done, with the cause of the failure in it.

* `Response.step` — what one stage makes of the bytes at hand.
* `Response.feed` — a piece of the response; it passes each stage at most once.
* `Response.cutShort` — the connection ends.
* `Response.takeOutcome` — verdict or cause, handed out once.
-/

namespace Icap

open Text

/-- What of a response is being read. -/
inductive Stage
  | head (frame : Frame)
  /-- The head of the HTTP response that is carried, which a body may follow. -/
  | httpHead (frame : Frame) (body : Bool)
  | chunkSize (frame : Frame)
  | payload (size : Nat) (got : Bytes)
  /-- Nothing, but the end of the body may be owed in part. -/
  | done (owed : Nat)
  deriving DecidableEq, Repr

/-- The number of stages that may follow. -/
def Stage.rank : Stage → Nat
  | .head _ => 4
  | .httpHead _ _ => 3
  | .chunkSize _ => 2
  | .payload _ _ => 1
  | .done _ => 0

/-- The stage that sections announce after the head. -/
def Sections.nextStage (s : Sections) : Stage :=
  if s.resHdr.isSome then .httpHead {} s.resBody.isSome
  else if s.resBody.isSome then .chunkSize {}
  else .done 0

theorem Sections.rank_nextStage_lt (s : Sections) : s.nextStage.rank < 4 := by
  unfold nextStage
  split
  · simp [Stage.rank]
  · split <;> simp [Stage.rank]

/-- A response as far as it has arrived. -/
structure Response where
  /-- The greatest size of a head and of the line in front of a chunk. -/
  limit : Nat
  stage : Stage := .head {}
  /-- The lines of the head, the status line first. -/
  lines : List String := []
  status : Option Nat := none
  cause : Option ScanFault := none
  verdict : Verdict := {}
  deriving DecidableEq, Repr

namespace Response

/-- A response of which nothing has arrived. -/
def fresh (limit : Nat) : Response := { limit }

/-- Forgets all that has arrived. -/
def reset (r : Response) : Response := fresh r.limit

/-- Whether nothing more of the response is read. -/
def isDone (r : Response) : Bool := r.stage.rank == 0

/-- The bytes of the body's end that have not arrived. -/
def owed (r : Response) : Nat :=
  match r.stage with
  | .done n => n
  | _ => 0

/-! ## The head -/

/-- The status code of a head by its first line. -/
def readStatus (first : String) : Except ScanFault Nat :=
  match StatusLine.readIcap first with
  | .ok status => .ok status.code
  | .error .statusCode =>
    let value := trimStart (first.toList.drop StatusLine.icapVersion.length)
    .error (.parse (.invalidValue .icapStatus (excerptChars value)))
  | .error _ => .error (.icapStatus (excerpt first))

/-- The stage after a head by its `Encapsulated` field. -/
def readSections (lines : List String) : Except ScanFault Stage :=
  match Field.find? lines Item.encapsulated.name with
  | none => .error (.parse (.missingHeader .encapsulated))
  | some (_, field) =>
    match Sections.read field.value with
    | .error fault => .error (.parse fault)
    | .ok sections => .ok sections.nextStage

/-- Takes in the lines of a head. A verdict with a disposition is kept, whatever follows. -/
def takeHead (vendor : Vendor) (r : Response) (lines : List String) :
    Response × Except ScanFault Stage :=
  let first := lines.headD ""
  let r := { r with lines }
  match readStatus first with
  | .error fault => (r, .error fault)
  | .ok code =>
    let r := { r with status := some code }
    match vendor.judge code lines with
    | .error fault => (r, .error fault)
    | .ok verdict =>
      let r := if verdict.disposition.isSome then { r with verdict } else r
      if code = 200 ∨ code = 201 then (r, readSections lines)
      else if code = 500 then (r, .error .server)
      else (r, .error (.icapStatus (excerpt first)))

/-! ## Stages -/

/-- What one stage makes of the bytes at hand. -/
inductive Step
  /-- More bytes are needed, or none. -/
  | wait (r : Response) (left : Bytes)
  | next (r : Response) (left : Bytes)
  | fail (r : Response) (fault : ScanFault)

/-- Gathers bytes up to a delimiter and, once it is complete, reads the text before it. -/
def stepFrame (r : Response) (frame : Frame) (delimiter buf : Bytes) (keep : Frame → Stage)
    (read : List Char → Bytes → Step) : Step :=
  let fed := frame.feed delimiter r.limit buf
  match fed.outcome with
  | .error fault => .fail r (.parse fault)
  | .ok false => .wait { r with stage := keep fed.frame } fed.left
  | .ok true =>
    match Utf8.decodeChars fed.frame.line with
    | .error fault => .fail r (.parse (.invalidUtf8 fault))
    | .ok text => read text fed.left

/-- Reads the head. -/
def stepHead (vendor : Vendor) (r : Response) (text : List Char) (left : Bytes) : Step :=
  match takeHead vendor r ((Text.lines text).map String.ofList) with
  | (r, .error fault) => .fail r fault
  | (r, .ok stage) => .next { r with stage } left

/-- Reads the head of the HTTP response, of which the status line alone matters. -/
def stepHttpHead (r : Response) (body : Bool) (text : List Char) (left : Bytes) : Step :=
  match StatusLine.readHttp (String.ofList ((Text.lines text).headD [])) with
  | .error fault => .fail r (.parse (.httpStatusLine fault))
  | .ok _ => .next { r with stage := if body then .chunkSize {} else .done 0 } left

/-- Reads the line in front of the chunk. -/
def stepChunkSize (r : Response) (text : List Char) (left : Bytes) : Step :=
  match ChunkSize.read (trimChars text) with
  | .error _ => .fail r (.parse (.invalidValue .payloadLength (excerptChars (trimChars text))))
  | .ok chunk => .next { r with stage := .payload chunk.size [] } left

/-- Gathers the chunk. With its last byte the response is complete; the rest of the bytes at hand
is dropped, and what they hold of the body's end is owed no more. -/
def stepPayload (r : Response) (size : Nat) (got buf : Bytes) : Step :=
  if size = 0 then .fail r (.parse .emptyPayload)
  else
    let n := min (size - got.length) buf.length
    let got := got ++ buf.take n
    if got.length < size then .wait { r with stage := .payload size got } (buf.drop n)
    else
      .next { r with stage := .done (Terminator.skip Terminator.bytes.length (buf.drop n)).1,
                     verdict := { r.verdict with bytes := some got } } []

/-- What the stage of a response makes of the bytes at hand. -/
def step (vendor : Vendor) (r : Response) (buf : Bytes) : Step :=
  match r.stage with
  | .head frame => stepFrame r frame blankLine buf .head (stepHead vendor r)
  | .httpHead frame body =>
    stepFrame r frame blankLine buf (.httpHead · body) (stepHttpHead r body)
  | .chunkSize frame => stepFrame r frame crlf buf .chunkSize (stepChunkSize r)
  | .payload size got => stepPayload r size got buf
  | .done owed => .wait { r with stage := .done (Terminator.skip owed buf).1 } []

/-! ### Stages go forward -/

theorem readSections_rank_lt {lines : List String} {s : Stage} (h : readSections lines = .ok s) :
    s.rank < 4 := by
  unfold readSections at h
  split at h
  · cases h
  · split at h
    · cases h
    · cases h
      exact Sections.rank_nextStage_lt _

theorem takeHead_rank_lt {vendor : Vendor} {r r' : Response} {lines : List String} {s : Stage}
    (h : takeHead vendor r lines = (r', .ok s)) : s.rank < 4 := by
  simp only [takeHead] at h
  split at h
  · simp at h
  · split at h
    · simp at h
    · split at h
      · exact readSections_rank_lt (Prod.mk.inj h).2
      · split at h <;> simp at h

theorem stepFrame_next {r r' : Response} {frame : Frame} {delimiter buf left : Bytes}
    {keep : Frame → Stage} {read : List Char → Bytes → Step}
    (h : stepFrame r frame delimiter buf keep read = .next r' left) :
    ∃ text rest, read text rest = .next r' left := by
  simp only [stepFrame] at h
  split at h
  · cases h
  · cases h
  · split at h
    · cases h
    · exact ⟨_, _, h⟩

/-- A step that goes on reaches a later stage. -/
theorem rank_lt_of_step {vendor : Vendor} {r r' : Response} {buf left : Bytes}
    (h : step vendor r buf = .next r' left) : r'.stage.rank < r.stage.rank := by
  unfold step at h
  split at h <;> rename_i hs <;> rw [hs]
  · obtain ⟨_, _, h⟩ := stepFrame_next h
    simp only [stepHead] at h
    split at h
    · cases h
    · rename_i heq
      cases h
      exact takeHead_rank_lt heq
  · obtain ⟨_, _, h⟩ := stepFrame_next h
    simp only [stepHttpHead] at h
    split at h
    · cases h
    · cases h
      dsimp only
      split <;> simp [Stage.rank]
  · obtain ⟨_, _, h⟩ := stepFrame_next h
    simp only [stepChunkSize] at h
    split at h
    · cases h
    · cases h
      simp [Stage.rank]
  · simp only [stepPayload] at h
    split at h
    · cases h
    · split at h
      · cases h
      · cases h
        simp [Stage.rank]
  · cases h

/-! ## Feeding -/

/-- The response that fails for a cause. -/
def fail (r : Response) (cause : ScanFault) : Response :=
  { r with cause := some cause, stage := .done 0 }

/-- Takes in a piece of the response; the second part of the answer is what is left of the
piece. -/
def feed (vendor : Vendor) (r : Response) (buf : Bytes) : Response × Bytes :=
  match _h : step vendor r buf with
  | .wait r' left => (r', left)
  | .next r' left => feed vendor r' left
  | .fail r' cause => (r'.fail cause, [])
termination_by r.stage.rank
decreasing_by exact rank_lt_of_step _h

/-- Takes in pieces of the response one after the other. -/
def feedAll (vendor : Vendor) (r : Response) (pieces : List Bytes) : Response :=
  pieces.foldl (fun r piece => (r.feed vendor piece).1) r

/-! ## The end -/

/-- Whether any byte of the response has arrived. -/
def isBegun (r : Response) : Bool :=
  match r.stage with
  | .head frame => !frame.isEmpty
  | _ => true

/-- The connection ends: a response that has begun and is not done fails. The first part of the
answer says whether it does. -/
def cutShort (r : Response) : Bool × Response :=
  if r.isDone ∨ !r.isBegun then (false, r) else (true, r.fail (.parse .truncated))

/-- Hands out the cause of the failure, or else the verdict. Neither is handed out again. -/
def takeOutcome (r : Response) : Outcome × Response :=
  match r.cause with
  | some cause => (.error cause, { r with cause := none })
  | none => (.ok r.verdict, { r with verdict := {} })

/-- A response on one line. -/
def text (r : Response) : String :=
  (match r.cause with
    | some cause => "cause: " ++ cause.message ++ ", "
    | none => "") ++
    "headers: " ++ String.intercalate ", " r.lines

end Response

end Icap
