import Icap.Session.State
import Icap.Text.Utf8

/-!
# Failures

Every way in which a line, a response, a scan or the wait for a scan can fail. A failure is a cause;
its wording is in one function for each type.

* `LineFault` — a line of a head does not have its form.
* `ParseFault` — a response does not have its form.
* `ScanFault` — a scan ends without a verdict.
* `WaitFault` — the wait for a scan ends without a verdict.
-/

namespace Icap

/-! ## Lines -/

/-- Why a line does not have its form. -/
inductive LineFault
  | tooShort
  | noDelimiter (c : Char)
  | noName
  | icapVersion
  | httpVersion
  | statusCode
  | chunkSize
  deriving DecidableEq, Repr

/-- The text of a fault. -/
def LineFault.message : LineFault → String
  | .tooShort => "not long enough"
  | .noDelimiter c => "no delimiter '" ++ c.toString ++ "' found"
  | .noName => "missing header name"
  | .icapVersion => "invalid icap version"
  | .httpVersion => "invalid http version"
  | .statusCode => "invalid status code"
  | .chunkSize => "invalid chunk size"

/-! ## Responses -/

/-- The parts of a response that faults name. -/
inductive Item
  | icapStatus
  | encapsulated
  | violationsFound
  | payloadLength
  deriving DecidableEq, Repr

/-- The name of an item; that of a header is the header's own. -/
def Item.name : Item → String
  | .icapStatus => "icap status"
  | .encapsulated => "Encapsulated"
  | .violationsFound => "X-Violations-Found"
  | .payloadLength => "payload length"

/-- Why a response does not have its form. -/
inductive ParseFault
  /-- An item has a value that it cannot have; the fault shows the start of it. -/
  | invalidValue (item : Item) (excerpt : String)
  | missingHeader (item : Item)
  /-- More violations are declared than records follow. -/
  | truncatedViolations (declared : Nat)
  | unknownDisposition (excerpt : String)
  | emptyPayload
  | headerTooLarge (limit : Nat)
  /-- The connection ended inside the response. -/
  | truncated
  | httpStatusLine (fault : LineFault)
  | invalidUtf8 (fault : Utf8.Fault)
  deriving DecidableEq, Repr

/-- The text of a fault. -/
def ParseFault.message : ParseFault → String
  | .invalidValue item excerpt => "invalid value for " ++ item.name ++ ": " ++ excerpt
  | .missingHeader item => "no " ++ item.name ++ " header found"
  | .truncatedViolations n => "violation records truncated, " ++ toString n ++ " declared"
  | .unknownDisposition excerpt => "unknown disposition code " ++ excerpt
  | .emptyPayload => "zero sized payload chunk"
  | .headerTooLarge limit => "too large header, should be less than " ++ toString limit
  | .truncated => "stream closed before the end of message"
  | .httpStatusLine fault => "invalid encapsulated http status line: " ++ fault.message
  | .invalidUtf8 fault => "invalid utf-8 encoding: " ++ fault.message

/-! ## Scans -/

/-- How a connection breaks. -/
inductive Breakage
  | brokenPipe
  | reset
  | aborted
  deriving DecidableEq, Repr

/-- The name of a breakage. -/
def Breakage.name : Breakage → String
  | .brokenPipe => "BrokenPipe"
  | .reset => "ConnectionReset"
  | .aborted => "ConnectionAborted"

/-- Why a request could not be sent. -/
inductive SendFault
  | broken (breakage : Breakage)
  /-- The request was not taken whole in time. -/
  | timedOut
  /-- The task that drives the connection is gone. -/
  | taskGone
  deriving DecidableEq, Repr

/-- The text of a fault. -/
def SendFault.message : SendFault → String
  | .broken b => "Kind(" ++ b.name ++ ")"
  | .timedOut =>
    "Custom \x7b kind: TimedOut, error: \"write to icap server timed out\" \x7d"
  | .taskGone => "Custom \x7b kind: NotConnected, error: \"session task has quit\" \x7d"

/-- Why a scan ends without a verdict. -/
inductive ScanFault
  | parse (fault : ParseFault)
  /-- The first line of a response is no ICAP status line of a scan; the fault shows its start. -/
  | icapStatus (excerpt : String)
  /-- The server reports an error of its own. -/
  | server
  | notConnected
  | timeout
  /-- All sessions of the route are in use. -/
  | noFreeSession
  /-- The client serves no further route. -/
  | noMoreRoutes
  | sessionInUse
  | requestFailed (fault : SendFault)
  /-- The outcome has been handed out before. -/
  | alreadyTaken
  /-- The table of routes could not be had in time. -/
  | tableTaken
  /-- Sessions are to be reused while their number has no limit. -/
  | reuseUnlimited
  | inactivity
  /-- The connection ended in a state. -/
  | disconnected (state : SessionState)
  deriving DecidableEq, Repr

/-- The text of a fault. -/
def ScanFault.message : ScanFault → String
  | .parse fault => "parse error: " ++ fault.message
  | .icapStatus excerpt => "invalid icap status line: " ++ excerpt
  | .server => "icap server error"
  | .notConnected => "not connected to icap server"
  | .timeout => "timed out"
  | .noFreeSession => "no free session"
  | .noMoreRoutes => "no more routes allowed"
  | .sessionInUse => "session in use"
  | .requestFailed fault => "scan request failed: " ++ fault.message
  | .alreadyTaken => "internal error: scan result already taken"
  | .tableTaken => "internal error: timed out to lock the route table"
  | .reuseUnlimited => "connection reuse not implemented"
  | .inactivity => "inactivity timeout"
  | .disconnected state => "channel disconnected, state: " ++ state.name

/-- Why the wait for a scan ends without a verdict. -/
inductive WaitFault
  | expired
  | failed (fault : ScanFault)
  deriving DecidableEq, Repr

/-- The text of a fault. -/
def WaitFault.message : WaitFault → String
  | .expired => "wait timeout"
  | .failed fault => "scan failed: " ++ fault.message

end Icap
