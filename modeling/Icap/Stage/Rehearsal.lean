import Icap.Client
import Icap.Stage.Link
import Icap.Promise

/-!
# Rehearsing a client

A client played on its own: servers, network and clock do what a script says. `Rehearsal.settle`
lets everything happen that happens by itself until nothing can; the clock stands still meanwhile.

Sessions count as opened when the clock starts, and a call's time at the desk of a pool is over at
once if it is zero, and never otherwise. All other times run on the clock of the script.
-/

namespace Icap

/-- How the network answers to connections from now on. -/
inductive Network
  | connects
  | refuses
  /-- It never answers. -/
  | hangs
  | connectsAfter (delay : Duration)
  deriving DecidableEq, Repr

/-- What becomes of a connection that is being opened. -/
inductive Dial
  | connected
  | refused
  | hanging
  | connectedAt (t : Deadline)
  deriving DecidableEq, Repr

/-- What a call has come to, as the script counts promises and sessions. -/
inductive Ending
  | promise (index : Nat)
  | session (index number : Nat)
  | noPool
  deriving DecidableEq, Repr

/-- A promise that the script holds, and the scan that it is of: session and number. -/
structure Ticket where
  promise : Promise
  scan : Option (Nat × Nat)

/-- A client and the stage around it. -/
structure Rehearsal where
  client : Client
  routes : List Route
  /-- The capacity of links. -/
  capacity : Nat
  /-- Whether the script holds the client. -/
  present : Bool := true
  network : Network := .connects
  now : Instant := 0
  links : List Link := []
  dials : List (Nat × Dial) := []
  /-- Calls that have not begun. -/
  todo : List Job := []
  /-- The number of calls. -/
  calls : Nat := 0
  /-- The outcomes of scans, by session and number; none for those that are lost. -/
  outcomes : List ((Nat × Nat) × Option Outcome) := []
  /-- The promises of the script, but for those that it has dropped. -/
  tickets : List (Option Ticket) := []
  /-- The sessions of the script, but for those that it has dropped. -/
  handles : List (Option Nat) := []
  /-- The calls that have ended since the step began. -/
  ended : List (Nat × Except ScanFault Ending) := []

namespace Rehearsal

/-! ## Effects -/

/-- The link of a session. -/
def linkOf? (r : Rehearsal) (session : Nat) : Option Link :=
  r.links.find? (·.session == session)

/-- Changes the link of a session. -/
def withLink (r : Rehearsal) (session : Nat) (f : Link → Link) : Rehearsal :=
  { r with links := r.links.map fun l => if l.session = session then f l else l }

/-- Holds a promise. -/
def hold (r : Rehearsal) (session : Nat) (reply : Reply) : Rehearsal × Nat :=
  let ticket : Ticket :=
    match reply with
    | .ready verdict => ⟨.ready (.ok verdict), none⟩
    | .promised number => ⟨.awaiting, some (session, number)⟩
  ({ r with tickets := r.tickets ++ [some ticket] }, r.tickets.length)

/-- Takes note of how a call has ended. -/
def recordEnd (r : Rehearsal) (call : Nat) : Except ScanFault Gain → Rehearsal
  | .error fault => { r with ended := r.ended ++ [(call, .error fault)] }
  | .ok .noPool => { r with ended := r.ended ++ [(call, .ok .noPool)] }
  | .ok (.session number) =>
    { r with
      handles := r.handles ++ [some number]
      ended := r.ended ++ [(call, .ok (.session r.handles.length number))] }
  | .ok (.scan session reply) =>
    let (r, index) := r.hold session reply
    { r with ended := r.ended ++ [(call, .ok (.promise index))] }

/-- Answers to a connection that is to be opened. -/
def dial (r : Rehearsal) (session : Nat) : Rehearsal :=
  let dial : Dial :=
    match r.network with
    | .connects => .connected
    | .refuses => .refused
    | .hangs => .hanging
    | .connectsAfter delay => .connectedAt (Instant.after? r.now delay)
  { r with dials := r.dials ++ [(session, dial)] }

/-- Does what an effect of the client asks for. -/
def heed (r : Rehearsal) : Client.Effect → Rehearsal
  | .connect session _ => r.dial session
  | .finished call result => r.recordEnd call result
  | .session session (.answered number outcome) =>
    { r with outcomes := r.outcomes ++ [((session, number), some outcome)] }
  | .session session (.dropped number) =>
    { r with outcomes := r.outcomes ++ [((session, number), none)] }
  | .session session .shutDown => r.withLink session Link.shutDown
  | .session _ (.sent _) | .session _ (.replied _) => r

/-- Drops the session's end of a link if the task of the session has come to its end. -/
def dropEnded (r : Rehearsal) (session : Nat) : Rehearsal :=
  match r.client.session? session with
  | some s => if s.hasEnded then r.withLink session Link.drop else r
  | none => r

/-- One event of the client and what it entails, unless it cannot happen now. -/
def event? (r : Rehearsal) (e : Client.Event) : Option (Rehearsal × List Client.Effect) :=
  (r.client.step? r.now 0 e).map fun (client, effects) =>
    (effects.foldl heed { r with client }, effects)

/-- One event of a session, unless it cannot happen now. -/
def sessionEvent? (r : Rehearsal) (session : Nat) (e : Session.Event) :
    Option (Rehearsal × List Client.Effect) :=
  (r.event? (.session session e)).map fun (r, effects) => (r.dropEnded session, effects)

/-- The delivery of an outcome. -/
def delivery (r : Rehearsal) (scan : Option (Nat × Nat)) : Delivery :=
  match scan.bind fun key => r.outcomes.lookup key with
  | some (some outcome) => .sent outcome
  | some none => .lost
  | none => .awaited

/-! ## What happens by itself -/

/-- The next call begins. -/
def beginCall? (r : Rehearsal) : Option Rehearsal :=
  match r.todo with
  | job :: todo => ({ r with todo }.event? (.call job)).map Prod.fst
  | [] => none

/-- A connection is there, and with it a link. -/
def connect? (r : Rehearsal) (session : Nat) : Option Rehearsal :=
  let link : Link := { session, capacity := r.capacity }
  let r := { r with dials := r.dials.filter (·.1 != session), links := r.links ++ [link] }
  (r.event? (.connected session)).map Prod.fst

/-- A connection is not to be had. -/
def refuse? (r : Rehearsal) (session : Nat) : Option Rehearsal :=
  ({ r with dials := r.dials.filter (·.1 != session) }.event? (.notConnected session)).map Prod.fst

/-- The network answers at once. -/
def answerDial? (r : Rehearsal) : Option Rehearsal :=
  r.dials.findSome? fun
    | (session, .connected) => r.connect? session
    | (session, .refused) => r.refuse? session
    | _ => none

/-- Whether the time of a call at the desk of a pool is over. -/
def isLate (r : Rehearsal) (call : Nat) : Bool :=
  match r.client.job? call with
  | some ⟨_, _, .lease patience⟩ => patience == 0
  | _ => r.client.settings.connectTimeout == 0

/-- A call is served at the desk of a pool, or has been. -/
def serve? (r : Rehearsal) : Option Rehearsal :=
  r.client.desks.findSome? fun (route, desk) =>
    match desk.served, desk.line with
    | some (_, .using _ _), _ => (r.event? (.use route)).map Prod.fst
    | none, call :: _ => (r.event? (.serve route fun _ => r.isLate call.number)).map Prod.fst
    | _, _ => none

/-- The task of a session goes on. -/
def act? (r : Rehearsal) : Option Rehearsal :=
  r.client.sessions.findSome? fun s =>
    match r.linkOf? s.number with
    | none => none
    | some link =>
      match link.act? s with
      | some (link, e) =>
        ((r.withLink s.number fun _ => link).sessionEvent? s.number e).map Prod.fst
      | none => none

/-- The client goes, if nobody holds it. -/
def dismiss? (r : Rehearsal) : Option Rehearsal :=
  if r.present ∨ r.client.desks = [] ∨ r.client.jobs ≠ [] ∨ r.todo ≠ [] then none
  else some { r with client := { r.client with desks := [] } }

/-- A session is let go, if nobody holds it. -/
def letGo? (r : Rehearsal) : Option Rehearsal :=
  r.client.sessions.findSome? fun s =>
    if s.held ∧ !r.handles.contains (some s.number) then
      (r.sessionEvent? s.number .letGo).map Prod.fst
    else none

/-! ## Time -/

/-- What a timer is for. -/
inductive Timer
  | session (number : Nat)
  | dial (session : Nat)
  | line (route : Route) (call : Nat)
  deriving Repr

/-- The timers that are running, with the times when they go off. -/
def timers (r : Rehearsal) : List (Instant × Timer) :=
  r.client.sessions.filterMap (fun s =>
      match s.activity with
      | .listening (some t) | .writing _ (some t) => some (t, .session s.number)
      | _ => none) ++
    r.dials.filterMap (fun
      | (session, .connectedAt (some t)) => some (t, .dial session)
      | _ => none) ++
    r.client.attempts.filterMap (fun a => a.patience.map fun t => (t, .dial a.session)) ++
    r.client.desks.flatMap fun (route, desk) =>
      desk.line.filterMap fun call => call.patience.map fun t => (t, .line route call.number)

/-- The timer that goes off first. -/
def nextTimer? (r : Rehearsal) : Option (Instant × Timer) :=
  r.timers.foldl (fun
    | none, t => some t
    | some a, b => if b.1 < a.1 then some b else some a) none

/-- What happens when a timer goes off. A connection that is there by then is taken, even if the
patience of its call is over, too. -/
def goOff? (r : Rehearsal) : Timer → Option Rehearsal
  | .session number =>
    (r.client.session? number).bind fun s =>
      (r.sessionEvent? number s.lapse).map Prod.fst
  | .dial session =>
    match r.dials.lookup session with
    | some (.connectedAt t) => if t.isPast r.now then r.connect? session else r.refuse? session
    | _ => r.refuse? session
  | .line route call => (r.event? (.expire route call)).map Prod.fst

/-- A timer that is due goes off. -/
def timeOut? (r : Rehearsal) : Option Rehearsal :=
  match r.nextTimer? with
  | some (t, timer) => if t ≤ r.now then r.goOff? timer else none
  | none => none

/-! ## Settling -/

/-- The next thing that happens by itself. -/
def turn? (r : Rehearsal) : Option Rehearsal :=
  r.beginCall? <|> r.answerDial? <|> r.serve? <|> r.act? <|> r.dismiss? <|> r.letGo? <|> r.timeOut?

/-- Lets things happen, at most so many. -/
def settleFor : Nat → Rehearsal → Rehearsal
  | 0, r => r
  | n + 1, r =>
    match r.turn? with
    | some r => settleFor n r
    | none => r

/-- A bound on the number of things that can happen before the clock or the script goes on: each
call and each session comes to a halt after a few of them, and a session may serve each call. -/
def bound (r : Rehearsal) : Nat :=
  64 * (1 + r.todo.length + r.client.jobs.length) * (1 + r.todo.length + r.client.jobs.length +
    r.client.sessions.length + (r.client.sessions.flatMap (·.queue)).length)

/-- Lets everything happen that happens by itself. -/
def settle (r : Rehearsal) : Rehearsal := settleFor r.bound r

end Rehearsal

end Icap
