import Icap.Pool.Desk
import Icap.Session

/-!
# Clients

A client has a pool of sessions for each of its routes, and opens sessions when the pools ask for
them. A call for a scan takes a session from the pool of its route and starts the scan on it; other
calls lease a session from a pool, or have one opened that belongs to no pool.

* `Client.begin` — a call comes in.
* `Client.step?` — one event of a client. Like the events of sessions and desks that it is made of,
  it is atomic.

`now` is read on the clock that timeouts run on, `wall` on the one that tells how old sessions are.
-/

namespace Icap

/-- What a call asks of a client. -/
inductive Wish
  | scan (filename : String) (payload : Bytes)
  /-- A scan on a session of its own, which is closed afterwards. -/
  | scanOnce (filename : String) (payload : Bytes)
  /-- A session that belongs to no pool. -/
  | connect
  /-- A session of a pool. -/
  | lease (patience : Duration)
  deriving DecidableEq, Repr

/-- A call that has not come to its end. -/
structure Job where
  call : Nat
  route : Route
  wish : Wish
  deriving DecidableEq, Repr

/-- A session that is being connected for a call. -/
structure Attempt where
  /-- The number that the session will have. -/
  session : Nat
  route : Route
  reuse : Bool
  call : Nat
  /-- Whether the pool of the route asks for the session. -/
  pooled : Bool
  patience : Deadline
  deriving DecidableEq, Repr

/-- What a call comes to, unless it fails. -/
inductive Gain
  | session (number : Nat)
  | scan (session : Nat) (reply : Reply)
  /-- There is no pool to lease a session from. -/
  | noPool
  deriving DecidableEq, Repr

/-- A client. -/
structure Client where
  settings : Settings
  /-- The pools, in the order in which their routes were first used. -/
  desks : List (Route × Desk) := []
  /-- All sessions that have been connected. -/
  sessions : List Session := []
  attempts : List Attempt := []
  /-- The number of sessions that have been asked for. -/
  asked : Nat := 0
  jobs : List Job := []
  deriving Repr

namespace Client

/-- A client with these settings, if they are acceptable. -/
def make (settings : Settings) : Except ScanFault Client :=
  settings.check.map fun _ => { settings }

/-! ## Events -/

/-- What may happen to a client. -/
inductive Event
  | call (job : Job)
  /-- A call comes in, and cannot get at the table of routes in time. -/
  | shutOut (job : Job)
  /-- The first call in line for the pool of a route is served; `late` tells when its time is
  over. -/
  | serve (route : Route) (late : Nat → Bool)
  /-- The call that is served at the pool of a route starts its scan. -/
  | use (route : Route)
  /-- A call in line for the pool of a route loses its patience. -/
  | expire (route : Route) (call : Nat)
  | connected (session : Nat)
  /-- The connection was refused or has taken too long. -/
  | notConnected (session : Nat)
  | session (number : Nat) (event : Session.Event)
  /-- A call that is waiting is given up from outside. -/
  | giveUp (call : Nat)

attribute [local instance] decEqResult in
/-- What an event brings about. -/
inductive Effect
  /-- A connection is to be opened. -/
  | connect (session : Nat) (route : Route)
  | finished (call : Nat) (result : Except ScanFault Gain)
  | session (number : Nat) (effect : Session.Effect)
  deriving DecidableEq, Repr

/-! ## Parts -/

/-- The session with a number. -/
def session? (c : Client) (number : Nat) : Option Session :=
  c.sessions.find? (·.number == number)

/-- Replaces the session with the number of `s`. -/
def setSession (c : Client) (s : Session) : Client :=
  { c with sessions := c.sessions.map fun t => if t.number = s.number then s else t }

/-- The pool of a route and the calls for it. -/
def desk? (c : Client) (route : Route) : Option Desk := c.desks.lookup route

/-- Replaces the desk of a route. -/
def setDesk (c : Client) (route : Route) (d : Desk) : Client :=
  { c with desks := c.desks.map fun e => if e.1 = route then (route, d) else e }

/-- The call with a number. -/
def job? (c : Client) (call : Nat) : Option Job := c.jobs.find? (·.call == call)

/-- The connection that is being opened for a session. -/
def attempt? (c : Client) (session : Nat) : Option Attempt :=
  c.attempts.find? (·.session == session)

/-- What a pool sees of a session. -/
def view (c : Client) (wall : Instant) (number : Nat) : SessionView :=
  match c.session? number with
  | some s => ⟨s.isDead, s.isIdle, s.commands, wall - s.opened⟩
  | none => ⟨true, false, 0, 0⟩

/-- Whether a session belongs to a pool. -/
def isPooled (c : Client) (session : Nat) : Bool :=
  c.desks.any fun e => e.2.pool.members.contains session

/-! ## Calls -/

/-- Ends a call. -/
def finish (c : Client) (call : Nat) (result : Except ScanFault Gain) : Client × List Effect :=
  ({ c with jobs := c.jobs.filter (·.call != call) }, [.finished call result])

/-- Opens a connection for a call. -/
def attempt (c : Client) (now : Instant) (route : Route) (reuse : Bool) (call : Nat)
    (pooled : Bool) : Client × List Effect :=
  let session := c.asked + 1
  let attempt : Attempt :=
    ⟨session, route, reuse, call, pooled, Instant.after? now c.settings.connectTimeout⟩
  ({ c with asked := session, attempts := c.attempts ++ [attempt] }, [.connect session route])

/-- Starts a scan on a session. -/
def startScan (c : Client) (session : Nat) (filename : String) (payload : Bytes) :
    Client × Except ScanFault Gain :=
  match c.session? session with
  | none => (c, .error .notConnected)
  | some s =>
    let (s, reply) := s.scan filename payload
    (c.setSession s, reply.map (.scan session))

/-- The fault that a call fails with if its lease does: a scan does not tell that the lease took
too long. -/
def leaseFault (wish : Wish) (fault : ScanFault) : ScanFault :=
  match wish, fault with
  | .scan _ _, .timeout => .notConnected
  | _, fault => fault

/-- Does what a notice of a route's desk asks for. -/
def heed (now : Instant) (route : Route) (c : Client) : Desk.Notice → Client × List Effect
  | .handed call session =>
    match c.job? call with
    | some ⟨_, _, .lease _⟩ => c.finish call (.ok (.session session))
    | _ => (c, [])
  | .refused call fault =>
    match c.job? call with
    | some job => c.finish call (.error (leaseFault job.wish fault))
    | none => (c, [])
  | .close session => ((c.session? session).elim c fun s => c.setSession s.close, [])
  | .open call => c.attempt now route c.settings.reuse call true

/-- Does what notices of a route's desk ask for. -/
def heedAll (now : Instant) (route : Route) (c : Client) :
    List Desk.Notice → Client × List Effect
  | [] => (c, [])
  | notice :: more =>
    let (c, effects) := heed now route c notice
    let (c, others) := heedAll now route c more
    (c, effects ++ others)

/-- One event at the desk of a route and what it entails, unless it cannot happen now. -/
def deskStep? (c : Client) (now wall : Instant) (route : Route) (e : Desk.Event) :
    Option (Client × List Effect) :=
  match c.desk? route with
  | none => none
  | some d =>
    (d.step? (fun _ => c.view wall) c.settings.poolLimits e).map fun (d, notices) =>
      heedAll now route (c.setDesk route d) notices

/-- Gets in line for the pool of a route. -/
def lineUp (c : Client) (now wall : Instant) (job : Job) (uses : Bool) (patience : Duration) :
    Client × List Effect :=
  (c.deskStep? now wall job.route (.arrive ⟨job.call, uses, Instant.after? now patience⟩)).getD
    (c, [])

/-- Takes in a call. A route that has no pool gets one for a scan, if there is room. -/
def begin (c : Client) (now wall : Instant) (job : Job) : Client × List Effect :=
  let c := { c with jobs := c.jobs ++ [job] }
  match job.wish with
  | .connect => c.attempt now job.route c.settings.reuse job.call false
  | .scanOnce _ _ => c.attempt now job.route false job.call false
  | .lease patience =>
    match c.desk? job.route with
    | some _ => c.lineUp now wall job false patience
    | none => c.finish job.call (.ok .noPool)
  | .scan _ _ =>
    match c.desk? job.route with
    | some _ => c.lineUp now wall job true c.settings.connectTimeout
    | none =>
      if c.settings.maxRoutes ≤ c.desks.length then c.finish job.call (.error .noMoreRoutes)
      else
        let desk : Desk := {}
        lineUp { c with desks := c.desks ++ [(job.route, desk)] } now wall job true
          c.settings.connectTimeout

/-- Turns away a call that cannot get at the table of routes in time. Only calls for scans put an
end to their wait for it. -/
def shutOut? (c : Client) (job : Job) : Option (Client × List Effect) :=
  match job.wish with
  | .scan _ _ =>
    if (c.job? job.call).isSome then none
    else some (c, [.finished job.call (.error .tableTaken)])
  | .scanOnce _ _ | .connect | .lease _ => none

/-! ## Steps -/

/-- The call that is served starts its scan, and the desk is free. -/
def useStep? (c : Client) (now wall : Instant) (route : Route) : Option (Client × List Effect) :=
  match c.desk? route with
  | some { served := some (call, .using session _), .. } =>
    match c.job? call.number with
    | some ⟨_, _, .scan filename payload⟩ =>
      let (c, result) := c.startScan session filename payload
      let (c, effects) := c.finish call.number result
      (c.deskStep? now wall route .used).map fun (c, others) => (c, effects ++ others)
    | _ => none
  | _ => none

/-- A connection is there: the call that it was opened for goes on. -/
def connectedStep? (c : Client) (now wall : Instant) (session : Nat) :
    Option (Client × List Effect) :=
  match c.attempt? session with
  | none => none
  | some a =>
    let s := Session.start c.settings session a.route a.reuse now
    let c :=
      { c with
        attempts := c.attempts.filter (·.session != session)
        sessions := c.sessions ++ [{ s with opened := wall }] }
    if a.pooled then c.deskStep? now wall a.route (.opened session)
    else
      match c.job? a.call with
      | some ⟨_, _, .scanOnce filename payload⟩ =>
        let (c, result) := c.startScan session filename payload
        some (c.finish a.call result)
      | _ => some (c.finish a.call (.ok (.session session)))

/-- A connection is not to be had: the call that it was opened for fails. -/
def notConnectedStep? (c : Client) (now wall : Instant) (session : Nat) :
    Option (Client × List Effect) :=
  match c.attempt? session with
  | none => none
  | some a =>
    let c := { c with attempts := c.attempts.filter (·.session != session) }
    if a.pooled then c.deskStep? now wall a.route (.notOpened .notConnected)
    else some (c.finish a.call (.error .notConnected))

/-- An event of a session. A session that belongs to a pool is not let go. -/
def sessionStep? (c : Client) (now : Instant) (number : Nat) (e : Session.Event) :
    Option (Client × List Effect) :=
  match c.session? number with
  | none => none
  | some s =>
    if e = .letGo ∧ c.isPooled number then none
    else
      (s.step? c.settings now e).map fun (s, effects) =>
        (c.setSession s, effects.map (.session number))

/-- A call is given up: whatever was opened for it is not opened. -/
def giveUpStep? (c : Client) (now wall : Instant) (call : Nat) : Option (Client × List Effect) :=
  match c.job? call with
  | none => none
  | some job =>
    let c :=
      { c with
        jobs := c.jobs.filter (·.call != call)
        attempts := c.attempts.filter (·.call != call) }
    some ((c.deskStep? now wall job.route (.leave call)).getD (c, []))

/-- One event, unless it cannot happen now. -/
def step? (c : Client) (now wall : Instant) : Event → Option (Client × List Effect)
  | .call job => if (c.job? job.call).isSome then none else some (c.begin now wall job)
  | .shutOut job => c.shutOut? job
  | .serve route late => c.deskStep? now wall route (.serve late)
  | .use route => c.useStep? now wall route
  | .expire route call => c.deskStep? now wall route (.expire call)
  | .connected session => c.connectedStep? now wall session
  | .notConnected session => c.notConnectedStep? now wall session
  | .session number e => c.sessionStep? now number e
  | .giveUp call => c.giveUpStep? now wall call

end Client

end Icap
