import Icap.Response
import Icap.Settings
import Icap.Text.Quoted
import Icap.Time.Instant

/-!
# Sessions

A session is one connection to a server and the task that drives it. Its users start scans on it
and close it; the task takes their commands in turn, writes the two requests of a scan, and reads
the two responses.

* `Session.scan`, `Session.close` — what users do.
* `Session.step?` — one event of a session. An event is atomic: whatever happens in between two
  events, other sessions and the users of this one may act there.

A step answers with effects. What they say of a scan names it by its number among the scans of its
session.
-/

namespace Icap

/-- A scan that has been started. -/
structure ScanRequest where
  number : Nat
  filename : String
  payload : Bytes
  deriving DecidableEq, Repr

/-- What users tell the task of a session. -/
inductive Command
  | scan (request : ScanRequest)
  | close
  deriving DecidableEq, Repr

/-- What the task of a session waits for. -/
inductive Activity
  /-- A command, bytes of the server, or the end of its patience. -/
  | listening (patience : Deadline)
  /-- The connection to take these bytes and to flush them. -/
  | writing (left : Bytes) (patience : Deadline)
  /-- The connection to shut down. -/
  | closing
  /-- Nothing: the task has come to its end. -/
  | ended
  deriving DecidableEq, Repr

/-- A session. -/
structure Session where
  /-- The number of the session among those of its client. -/
  number : Nat
  route : Route
  /-- Whether it serves more than one scan. -/
  reuse : Bool
  /-- When it was opened. -/
  opened : Instant
  activity : Activity
  /-- The response that is being read, or that comes next. -/
  response : Response
  state : SessionState := .connected
  /-- The number of scans that have been started. -/
  commands : Nat := 0
  /-- Whether anybody can still use the session. -/
  held : Bool := true
  /-- The commands that the task has not taken. -/
  queue : List Command := []
  /-- Whether the task knows that nobody can use the session any more. -/
  released : Bool := false
  /-- The scan that the task works on. -/
  pending : Option ScanRequest := none
  /-- The bytes of the last response's end that have not arrived. -/
  owed : Nat := 0
  deriving DecidableEq, Repr

/-- What starting a scan comes to. -/
inductive Reply
  /-- The verdict is known without asking the server. -/
  | ready (verdict : Verdict)
  /-- The outcome of the scan with this number will follow. -/
  | promised (number : Nat)
  deriving DecidableEq, Repr

namespace Session

/-- A session that has just been connected. -/
def start (settings : Settings) (number : Nat) (route : Route) (reuse : Bool) (now : Instant) :
    Session :=
  { number, route, reuse, opened := now
    activity := .listening (Instant.after? now settings.inactivityTimeout)
    response := .fresh settings.maxHeader }

/-- Whether the session can never be used again. -/
def isDead (s : Session) : Bool := s.state == .disconnected

/-- Whether a scan may start. -/
def isIdle (s : Session) : Bool := s.state == .connected

/-- Whether the task has come to its end. -/
def hasEnded (s : Session) : Bool := s.activity == .ended

/-! ## Users -/

/-- The verdict on a file without content: it is clean, and it stays as it is. -/
def emptyVerdict : Verdict := { Verdict.clean with bytes := some [] }

/-- Starts a scan. A file without content is not sent to the server. -/
def scan (s : Session) (filename : String) (payload : Bytes) : Session × Except ScanFault Reply :=
  match s.state with
  | .disconnected => (s, .error .notConnected)
  | .awaitingOptions | .awaitingScan => (s, .error .sessionInUse)
  | .connected =>
    if payload = [] then (s, .ok (.ready emptyVerdict))
    else
      let number := s.commands + 1
      if s.hasEnded then
        ({ s with state := .disconnected, commands := number },
          .error (.requestFailed .taskGone))
      else
        ({ s with
          state := .awaitingOptions
          commands := number
          queue := s.queue ++ [.scan ⟨number, filename, payload⟩] },
          .ok (.promised number))

/-- Closes a session: nobody can use it from now on, and its task will come to its end. -/
def close (s : Session) : Session :=
  { s with
    state := .disconnected
    queue := if s.hasEnded then s.queue else s.queue ++ [.close] }

/-! ## Events -/

/-- What may happen to a session. -/
inductive Event
  | scan (filename : String) (payload : Bytes)
  | close
  /-- The last of its users lets it go. -/
  | letGo
  /-- The task takes the next command. -/
  | command
  /-- The task finds that the session has no users. -/
  | released
  | read (bytes : Bytes)
  | endOfStream
  | readFailed
  /-- The patience of the task is over while it listens. -/
  | idle
  /-- The connection takes so many bytes. -/
  | accepted (count : Nat)
  | flushed
  | writeFailed (breakage : Breakage)
  /-- The patience of the task is over while it writes. -/
  | writeExpired
  /-- The connection has been shut down, or that has taken too long. -/
  | shut
  /-- The task is destroyed from outside. -/
  | destroyed
  deriving DecidableEq, Repr

/-- The event of a session whose patience is over. -/
def lapse (s : Session) : Event :=
  match s.activity with
  | .writing _ _ => .writeExpired
  | _ => .idle

attribute [local instance] decEqResult in
/-- What an event brings about. -/
inductive Effect
  /-- The answer to a user that starts a scan. -/
  | replied (reply : Except ScanFault Reply)
  /-- Bytes that the connection has taken. -/
  | sent (bytes : Bytes)
  /-- The outcome of a scan. -/
  | answered (number : Nat) (outcome : Outcome)
  /-- A scan will have no outcome. -/
  | dropped (number : Nat)
  /-- The connection is told to shut down. -/
  | shutDown
  deriving DecidableEq, Repr

/-! ### The task -/

/-- Writes bytes from now on. -/
def write (settings : Settings) (now : Instant) (bytes : Bytes) (s : Session) : Session :=
  { s with activity := .writing bytes (Instant.after? now settings.inactivityTimeout) }

/-- The scan that the task works on, told to have no outcome. -/
def dropPending (s : Session) : List Effect :=
  s.pending.toList.map fun r => .dropped r.number

/-- The scans that the task has not taken, told to have no outcome. -/
def dropQueue (s : Session) : List Effect :=
  s.queue.filterMap fun
    | .scan r => some (.dropped r.number)
    | .close => none

/-- Shuts the connection down. -/
def shutDown (s : Session) : Session × List Effect :=
  ({ s with state := .disconnected, pending := none, activity := .closing },
    s.dropPending ++ [.shutDown])

/-- Comes to the end of the task. Nobody will take the commands that are left. -/
def finish (s : Session) : Session × List Effect :=
  ({ s with pending := none, queue := [], activity := .ended }, s.dropPending ++ s.dropQueue)

/-- A session that listens, with a patience that begins now. -/
def listening (settings : Settings) (now : Instant) (s : Session) : Session :=
  { s with activity := .listening (Instant.after? now settings.inactivityTimeout) }

/-- Listens again. The end of the new patience has to be on the clock: the task breaks off if it is
not, and leaves the state of the session as it is. -/
def listen (settings : Settings) (now : Instant) (s : Session) : Session × List Effect :=
  if (Instant.after? now settings.inactivityTimeout).isSome then (s.listening settings now, [])
  else s.finish

/-- The scan that the task works on, told its outcome. -/
def tell (s : Session) (outcome : Outcome) : List Effect :=
  s.pending.toList.map fun r => .answered r.number outcome

/-- Tells the scan its outcome and shuts the connection down. -/
def tellAndShutDown (s : Session) (outcome : Outcome) : Session × List Effect :=
  let told := s.tell outcome
  let (s, effects) := shutDown { s with pending := none }
  (s, told ++ effects)

/-- Begins with a scan: the OPTIONS request is to be written. A session that has been closed since
the scan was started turns it down. -/
def begin (settings : Settings) (now : Instant) (s : Session) (r : ScanRequest) :
    Session × List Effect :=
  if s.state = .awaitingOptions then
    (write settings now (settings.agent.options s.route)
      { s with response := s.response.reset, pending := some r }, [])
  else
    let (s', effects) := s.shutDown
    (s', .answered r.number (.error (.disconnected s.state)) :: effects)

/-- Takes the next command. -/
def takeCommand (settings : Settings) (now : Instant) (s : Session) :
    Command → Session × List Effect
  | .scan r => s.begin settings now r
  | .close => s.shutDown

/-- Takes note that the session has no users. A scan is brought to its end all the same. -/
def takeRelease (settings : Settings) (now : Instant) (s : Session) : Session × List Effect :=
  let s := { s with released := true }
  if s.pending.isSome then s.listen settings now else s.shutDown

/-- A response is complete while the session waits for the one to its OPTIONS request: the RESPMOD
request is to be written. -/
def optionsDone (settings : Settings) (now : Instant) (s : Session) (r : ScanRequest) :
    Session × List Effect :=
  match s.response.takeOutcome with
  | (.error fault, _) => s.tellAndShutDown (.error fault)
  | (.ok _, response) =>
    let request := settings.agent.respmod s.route r.filename r.payload s.reuse
    (write settings now request.bytes
      { s with response := response.reset, state := .awaitingScan }, [])

/-- A response is complete while the session waits for the one to its RESPMOD request: the scan
has its outcome. -/
def scanDone (settings : Settings) (now : Instant) (s : Session) : Session × List Effect :=
  let (outcome, response) := s.response.takeOutcome
  let s := { s with response := response.reset, owed := s.response.owed }
  if s.reuse ∧ outcome.toBool ∧ !s.released then
    let told := s.tell outcome
    let (s, effects) := listen settings now { s with state := .connected, pending := none }
    (s, told ++ effects)
  else s.tellAndShutDown outcome

/-- Takes in bytes of the server. What is owed of the last response is skipped, and bytes that no
scan waits for are dropped. -/
def takeBytes (settings : Settings) (now : Instant) (s : Session) (bytes : Bytes) :
    Session × List Effect :=
  let (owed, bytes) := Terminator.skip s.owed bytes
  let s := { s with owed }
  match s.pending with
  | none => s.listen settings now
  | some r =>
    if bytes = [] then s.listen settings now
    else
      let s := { s with response := (s.response.feed settings.vendor bytes).1 }
      if !s.response.isDone then s.listen settings now
      else
        match s.state with
        | .awaitingOptions => s.optionsDone settings now r
        | .awaitingScan => s.scanDone settings now
        | state => s.tellAndShutDown (.error (.disconnected state))

/-- Takes note that the connection is gone. A scan fails; if its response has begun, for that. -/
def takeEnd (s : Session) : Session × List Effect :=
  let fault := if s.response.cutShort.1 then .parse .truncated else .disconnected s.state
  let told := s.tell (.error fault)
  let (s, effects) := finish { s with state := .disconnected, pending := none }
  (s, told ++ effects)

/-! ### Steps -/

/-- One event at an instant, unless it cannot happen now. -/
def step? (settings : Settings) (now : Instant) (s : Session) (e : Event) :
    Option (Session × List Effect) :=
  match e, s.activity with
  | .scan filename payload, _ =>
    if s.held then
      let (s, reply) := s.scan filename payload
      some (s, [.replied reply])
    else none
  | .close, _ => if s.held then some (s.close, []) else none
  | .letGo, _ => if s.held then some ({ s with held := false }, []) else none
  | .command, .listening _ =>
    match s.queue with
    | c :: queue =>
      if s.released then none else some (takeCommand settings now { s with queue } c)
    | [] => none
  | .released, .listening _ =>
    if s.held || s.released || !s.queue.isEmpty then none else some (s.takeRelease settings now)
  | .read bytes, .listening _ => if bytes = [] then none else some (s.takeBytes settings now bytes)
  | .endOfStream, .listening _ => some s.takeEnd
  | .readFailed, .listening _ => some s.takeEnd
  | .idle, .listening patience =>
    if patience.isPast now then some (s.tellAndShutDown (.error .inactivity)) else none
  | .accepted count, .writing left patience =>
    if 0 < count ∧ count ≤ left.length then
      some ({ s with activity := .writing (left.drop count) patience }, [.sent (left.take count)])
    else none
  | .flushed, .writing left _ => if left = [] then some (s.listen settings now) else none
  | .writeFailed breakage, .writing _ _ =>
    some (s.tellAndShutDown (.error (.requestFailed (.broken breakage))))
  | .writeExpired, .writing _ patience =>
    if patience.isPast now then some (s.tellAndShutDown (.error (.requestFailed .timedOut)))
    else none
  | .shut, .closing => some s.finish
  | .destroyed, .ended => none
  | .destroyed, _ => some s.finish
  | _, _ => none

/-! ## Text -/

/-- A session on one line. -/
def text (s : Session) : String :=
  "IcapSession \x7b id: " ++ Text.decimal s.number ++
    ", route: IcapRoute \x7b host: " ++ Text.quoted s.route.host ++
    ", port: " ++ Text.decimal s.route.port.toNat ++
    ", service: " ++ Text.quoted s.route.service ++
    " \x7d, state: " ++ s.state.name ++ " \x7d"

end Session

end Icap
