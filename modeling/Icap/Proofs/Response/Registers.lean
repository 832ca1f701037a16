import Icap.Proofs.Frame.Checked
import Icap.Proofs.Response.Checked

/-!
# Responses in registers

A parser of responses as it lies in memory. What has been read is in registers that live on from
stage to stage and from one piece of the response to the next: there is one frame for all stages
that gather up to a delimiter, the stages to come are queued, and the chunk, its size and the number
of bytes owed of the end of the body have registers of their own. All that is read is read by
positions.

* `Registers` — the parser, and `Registers.response`, the response that it holds.
* `Registers.turn` — what one stage makes of the bytes at hand.
* `Registers.feedWithin` — a piece of the response, in so many turns at most.
* `Operation` — all that can be done to a parser.
-/

namespace Icap

open Text

/-- The stages, without what they remember. -/
inductive Registers.Phase
  | head
  | httpHead
  | chunkSize
  | payload
  | done
  deriving DecidableEq, Repr

/-- The delimiter up to which a phase gathers. -/
def Registers.Phase.delimiter? : Phase → Option Bytes
  | .head | .httpHead => some blankLine
  | .chunkSize => some crlf
  | .payload | .done => none

/-- The registers of a parser. -/
structure Registers where
  limit : Nat
  phase : Registers.Phase := .head
  /-- The phases that follow. -/
  coming : List Registers.Phase := []
  frame : Frame := {}
  lines : List String := []
  status : Option Nat := none
  /-- The size of the chunk. -/
  size : Nat := 0
  /-- What has arrived of the chunk. -/
  payload : Bytes := []
  /-- The bytes of the body's end that have not arrived. -/
  owed : Nat := 0
  cause : Option ScanFault := none
  verdict : Verdict := {}

namespace Registers

/-- A parser that has read nothing. -/
def fresh (limit : Nat) : Registers := { limit }

/-- The response that a parser holds. -/
def response (p : Registers) : Response where
  limit := p.limit
  stage :=
    match p.phase with
    | .head => .head p.frame
    | .httpHead => .httpHead p.frame (p.coming.contains .payload)
    | .chunkSize => .chunkSize p.frame
    | .payload => .payload p.size p.payload
    | .done => .done p.owed
  lines := p.lines
  status := p.status
  cause := p.cause
  verdict := p.verdict

/-- Goes on to the next phase. -/
def nextPhase (p : Registers) : Registers :=
  { p with phase := p.coming.headD .done, coming := p.coming.tail }

/-- The parser that fails for a cause. -/
def fail (p : Registers) (cause : ScanFault) : Registers :=
  { p with cause := some cause, phase := .done }

/-! ## The end of the body -/

/-- What is owed of the end of the body. -/
def ending (p : Registers) : Option Bytes := do
  behind? Terminator.bytes (← less? Terminator.bytes.length p.owed)

/-- Drops bytes, of which those that are owed are owed no more. -/
def skipEnding (p : Registers) (buf : Bytes) : Option Registers := do
  let ending ← p.ending
  let n := Terminator.common ending buf
  if n = buf.length then return { p with owed := ← less? ending.length n }
  else return { p with owed := 0 }

/-! ## Turns -/

/-- What one stage makes of the bytes at hand. -/
inductive Turn
  /-- More bytes are needed, or none. -/
  | wait (p : Registers) (left : Bytes)
  | next (p : Registers) (left : Bytes)
  | fail (p : Registers) (fault : ScanFault)

/-- Gathers bytes up to a delimiter and, once it is complete, reads the text before it. -/
def gather (p : Registers) (delimiter buf : Bytes)
    (read : Registers → List Char → Bytes → Option Turn) : Option Turn := do
  let fed ← p.frame.feedChecked delimiter p.limit buf
  let p := { p with frame := fed.frame }
  match fed.outcome with
  | .error fault => return .fail p (.parse fault)
  | .ok false => return .wait p fed.left
  | .ok true =>
    match Utf8.decodeChars p.frame.line with
    | .error fault => return .fail p (.parse (.invalidUtf8 fault))
    | .ok text => read p text fed.left

/-- Judges the head by its lines; the second part of the answer is the fault, if there is one. -/
def takeHead (vendor : Vendor) (p : Registers) : Option (Registers × Option ScanFault) := do
  let first := p.lines.headD ""
  match ← Response.readStatusChecked first with
  | .error fault => return (p, some fault)
  | .ok code =>
    let p := { p with status := some code }
    match ← vendor.judgeChecked code p.lines with
    | .error fault => return (p, some fault)
    | .ok verdict =>
      let p := if verdict.disposition.isSome then { p with verdict } else p
      if code = 200 ∨ code = 201 then return (p, none)
      else if code = 500 then return (p, some .server)
      else return (p, some (.icapStatus (← excerptChecked first.toList)))

/-- The phases that sections announce. -/
def announced (s : Sections) : List Phase :=
  (if s.resHdr.isSome then [.httpHead] else []) ++
    (if s.resBody.isSome then [.chunkSize, .payload] else []) ++ [.done]

/-- Reads the head. -/
def headTurn (vendor : Vendor) (p : Registers) (text : List Char) (left : Bytes) :
    Option Turn := do
  let p := { p with lines := p.lines ++ (Text.lines text).map String.ofList, frame := {} }
  match ← takeHead vendor p with
  | (p, some fault) => return .fail p fault
  | (p, none) =>
    match ← Response.readSectionsChecked p.lines with
    | .error fault => return .fail p fault
    | .ok sections => return .next { p with coming := announced sections }.nextPhase left

/-- Reads the head of the HTTP response. -/
def httpHeadTurn (p : Registers) (text : List Char) (left : Bytes) : Option Turn := do
  match ← StatusLine.readHttpChecked (String.ofList ((Text.lines text).headD [])) with
  | .error fault => return .fail p (.parse (.httpStatusLine fault))
  | .ok _ => return .next { p with frame := {} }.nextPhase left

/-- Reads the line in front of the chunk. -/
def chunkSizeTurn (p : Registers) (text : List Char) (left : Bytes) : Option Turn := do
  match ← ChunkSize.readChecked (trimChars text) with
  | .error _ =>
    return .fail p (.parse (.invalidValue .payloadLength (← excerptChecked (trimChars text))))
  | .ok chunk =>
    return .next { p with size := chunk.size, payload := [], frame := {} }.nextPhase left

/-- Gathers the chunk, and drops what follows it. -/
def payloadTurn (p : Registers) (buf : Bytes) : Option Turn :=
  if p.size = 0 then some (.fail p (.parse .emptyPayload))
  else do
    let n := min (← less? p.size p.payload.length) buf.length
    let p := { p with payload := p.payload ++ (← front? buf n) }
    let left ← behind? buf n
    if p.payload.length < p.size then return .wait p left
    else
      let p ← { p with owed := Terminator.bytes.length }.skipEnding left
      return .next
        { p with payload := [], verdict := { p.verdict with bytes := some p.payload } }.nextPhase []

/-- What the phase of a parser makes of the bytes at hand. -/
def turn (vendor : Vendor) (p : Registers) (buf : Bytes) : Option Turn :=
  match p.phase with
  | .head => p.gather blankLine buf (headTurn vendor)
  | .httpHead => p.gather blankLine buf httpHeadTurn
  | .chunkSize => p.gather crlf buf chunkSizeTurn
  | .payload => p.payloadTurn buf
  | .done => do return .wait (← p.skipEnding buf) []

/-! ## Operations -/

/-- Takes in a piece of the response in at most `n` turns; the second part of the answer is what is
left of the piece. -/
def feedWithin (vendor : Vendor) : Nat → Registers → Bytes → Option (Registers × Bytes)
  | 0, _, _ => none
  | n + 1, p, buf => do
    match ← p.turn vendor buf with
    | .wait p left => return (p, left)
    | .next p left => feedWithin vendor n p left
    | .fail p fault => return (p.fail fault, [])

/-- The connection ends; the first part of the answer says whether the response fails by it. -/
def cutShort (p : Registers) : Bool × Registers :=
  match p.phase with
  | .done => (false, p)
  | .head => if p.frame.isEmpty then (false, p) else (true, p.fail (.parse .truncated))
  | _ => (true, p.fail (.parse .truncated))

/-- Hands out the cause of the failure, or else the verdict. -/
def takeOutcome (p : Registers) : Outcome × Registers :=
  match p.cause with
  | some cause => (.error cause, { p with cause := none })
  | none => (.ok p.verdict, { p with verdict := {} })

/-- Forgets all that has been read. -/
def reset (p : Registers) : Registers := fresh p.limit

/-- What can be done to a parser. -/
inductive Operation
  | feed (vendor : Vendor) (buf : Bytes)
  | cutShort
  | takeOutcome
  | reset

namespace Operation

/-- An operation on a parser, which has five turns for a piece of the response. -/
def onRegisters : Operation → Registers → Option Registers
  | .feed vendor buf, p => (p.feedWithin vendor 5 buf).map Prod.fst
  | .cutShort, p => some p.cutShort.2
  | .takeOutcome, p => some p.takeOutcome.2
  | .reset, p => some p.reset

/-- An operation on a response. -/
def onResponse : Operation → Response → Response
  | .feed vendor buf, r => (r.feed vendor buf).1
  | .cutShort, r => r.cutShort.2
  | .takeOutcome, r => r.takeOutcome.2
  | .reset, r => r.reset

end Operation

end Registers

end Icap
