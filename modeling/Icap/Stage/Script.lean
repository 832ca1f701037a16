import Icap.Stage.Rehearsal

/-!
# Scripts

What a script may do with a client, its sessions, its promises and the servers, and what it sees of
it. Calls, promises, sessions and links count from zero, each kind by itself, in the order in which
they come up.

The modules on the stage are for trying clients and pools out: they choose what comes next among the
events that may, and put connections, servers and a clock around them. They are no part of what
clients, pools and sessions are. No theorem is about them, and no other module uses them.

* `Rehearsal.perform` — one step of a script.
-/

namespace Icap

/-- The operations of the session's end of a link. -/
inductive LinkOperation
  | read
  /-- A write, once so many more bytes have been taken. -/
  | write (after : Nat)
  | flush
  deriving DecidableEq, Repr

namespace Rehearsal

/-- A step of a script. -/
inductive Step
  | call (route : Nat) (wish : Wish)
  | scan (handle : Nat) (filename : String) (payload : Bytes)
  | close (handle : Nat)
  | dropSession (handle : Nat)
  | dropPromise (promise : Nat)
  | dropClient
  | send (link : Nat) (bytes : Bytes)
  | receive (link : Nat)
  | hangUp (link : Nat)
  | halfClose (link : Nat)
  | fault (link : Nat) (operation : LinkOperation) (breakage : Breakage)
  | network (network : Network)
  | advance (d : Duration)
  | settle
  | isDone (promise : Nat)
  | poll (promise : Nat)
  | wait (promise : Nat) (patience : Duration)
  | block (promise : Nat) (timed : Bool)
  | showPromise (promise : Nat)
  | showSession (handle : Nat)
  | showSettings
  | showRoute (link : Nat)
  | describe (handle : Nat)
  deriving DecidableEq, Repr

/-- What a script sees of a step. -/
inductive Sight
  | nothing
  /-- What the step is about has been dropped. -/
  | gone
  | call (index : Nat)
  | promise (index : Nat)
  | fault (fault : ScanFault)
  /-- The number of bytes sent, and whether the link was found broken. -/
  | sent (count : Nat) (broken : Bool)
  /-- The bytes received, and whether no more will come. -/
  | received (bytes : Bytes) (last : Bool)
  | flag (b : Bool)
  | pending
  | outcome (outcome : Outcome)
  | waited (result : Except WaitFault Verdict)
  | text (s : String)
  | settings (settings : Settings)
  | session (session : Session)

/-- A rehearsal that has not begun, if the settings are acceptable. -/
def make (settings : Settings) (routes : List Route) (capacity : Nat) :
    Except ScanFault Rehearsal :=
  (Client.make settings).map fun client => { client, routes, capacity }

/-! ## Sessions -/

/-- The session behind a handle. -/
def sessionAt? (r : Rehearsal) (handle : Nat) : Option Session :=
  (r.handles[handle]?.join).bind r.client.session?

/-- Starts a scan on a session. -/
def scan (r : Rehearsal) (session : Nat) (filename : String) (payload : Bytes) :
    Rehearsal × Sight :=
  match r.sessionEvent? session (.scan filename payload) with
  | some (r, [.session _ (.replied (.ok reply))]) =>
    let (r, index) := r.hold session reply
    (r, .promise index)
  | some (r, [.session _ (.replied (.error fault))]) => (r, .fault fault)
  | _ => (r, .gone)

/-! ## Promises -/

/-- The promise with an index. -/
def ticketAt? (r : Rehearsal) (index : Nat) : Option Ticket := r.tickets[index]?.join

/-- Does something with a promise. -/
def withPromise {α : Type} (r : Rehearsal) (index : Nat) (ticket : Ticket)
    (f : Promise → Delivery → α × Promise) : Rehearsal × α :=
  let (a, promise) := f ticket.promise (r.delivery ticket.scan)
  ({ r with tickets := r.tickets.set index (some { ticket with promise }) }, a)

/-- Waits for a promise while time goes on. The clock jumps to the next timer, at most so often. -/
def waitFor (index : Nat) (patience : Deadline) :
    Nat → Rehearsal → Rehearsal × Except WaitFault Verdict
  | 0, r => (r, .error .expired)
  | n + 1, r =>
    match r.ticketAt? index with
    | none => (r, .error .expired)
    | some ticket =>
      match r.withPromise index ticket fun p d => p.wait d (patience.isPast r.now) with
      | (r, some result) => (r, result)
      | (r, none) =>
        match (r.nextTimer?.map Prod.fst).merge min patience with
        | some t => waitFor index patience n (settle { r with now := max r.now t })
        | none => (r, .error .expired)

/-! ## Servers -/

/-- The server writes bytes and goes on while the session makes room for them, at most so often.
The answer tells how many bytes are left, and whether the link is broken. -/
def sendFor (link : Nat) : Nat → Bytes → Rehearsal → Rehearsal × Nat × Bool
  | 0, bytes, r => (r, bytes.length, false)
  | n + 1, bytes, r =>
    match r.links[link]? with
    | none => (r, bytes.length, false)
    | some l =>
      if bytes = [] then (r, 0, false)
      else if l.sessionClosed then (r, bytes.length, true)
      else
        let (l, rest) := l.send bytes
        let r := { r with links := r.links.set link l }
        if rest = [] then (r, 0, false)
        else if rest.length = bytes.length then (r, bytes.length, false)
        else sendFor link n rest r.settle

/-- The server reads bytes and goes on while the session writes more, at most so often. What has
been read so far is in `got`, the last byte first. -/
def receiveFor (link : Nat) : Nat → Bytes → Rehearsal → Rehearsal × Bytes × Bool
  | 0, got, r => (r, got.reverse, false)
  | n + 1, got, r =>
    match r.links[link]? with
    | none => (r, got.reverse, false)
    | some l =>
      let (l', bytes) := l.receive
      if bytes = [] then (r, got.reverse, l.serverClosed)
      else
        receiveFor link n (bytes.reverse ++ got) (settle { r with links := r.links.set link l' })

/-- The link with an index, unless the server has dropped its end. -/
def linkAt? (r : Rehearsal) (index : Nat) : Option Link :=
  (r.links[index]?).bind fun l => if l.abandoned then none else some l

/-- Changes a link. -/
def setLink (r : Rehearsal) (index : Nat) (f : Link → Link) : Rehearsal :=
  { r with links := r.links.modify index f }

/-- A bound on the number of bytes that the task of a session may write while the server sends it
nothing more: what it is writing, and the requests of its scans. -/
def unwritten (r : Rehearsal) (session : Nat) : Nat :=
  match r.client.session? session with
  | none => 0
  | some s =>
    let agent := r.client.settings.agent
    let requests (q : ScanRequest) : Nat :=
      (agent.options s.route).length + (agent.respmod s.route q.filename q.payload s.reuse).size
    (match s.activity with
      | .writing left _ => left.length
      | _ => 0) +
      s.pending.elim 0 requests +
      s.queue.foldr (fun c n => match c with
        | .scan q => requests q + n
        | .close => n) 0

/-- Sets a fault of a link. -/
def setFault (l : Link) (breakage : Breakage) : LinkOperation → Link
  | .read => { l with readFault := some breakage }
  | .write after => { l with writeFault := some (breakage, after) }
  | .flush => { l with flushFault := some breakage }

/-! ## Steps -/

/-- What a step does and shows before things settle. -/
def begin (r : Rehearsal) : Step → Rehearsal × Sight
  | .call route wish =>
    match r.present, r.routes[route]? with
    | true, some route =>
      let job : Job := ⟨r.calls, route, wish⟩
      ({ r with calls := r.calls + 1, todo := r.todo ++ [job] }, .call r.calls)
    | _, _ => (r, .gone)
  | .scan handle filename payload =>
    match r.sessionAt? handle with
    | some s => r.scan s.number filename payload
    | none => (r, .gone)
  | .close handle =>
    match r.sessionAt? handle with
    | some s => (((r.sessionEvent? s.number .close).map Prod.fst).getD r, .nothing)
    | none => (r, .gone)
  | .dropSession handle => ({ r with handles := r.handles.set handle none }, .nothing)
  | .dropPromise promise => ({ r with tickets := r.tickets.set promise none }, .nothing)
  | .dropClient => ({ r with present := false }, .nothing)
  | .send link bytes =>
    match r.linkAt? link with
    | some _ =>
      let (r, left, broken) := r.sendFor link (bytes.length + 1) bytes
      (r, .sent (bytes.length - left) broken)
    | none => (r, .gone)
  | .receive link =>
    match r.linkAt? link with
    | some l =>
      let (r, bytes, last) := r.receiveFor link (r.unwritten l.session + l.capacity + 2) []
      (r, .received bytes last)
    | none => (r, .gone)
  | .hangUp link =>
    match r.linkAt? link with
    | some _ => (r.setLink link Link.hangUp, .flag true)
    | none => (r, .flag false)
  | .halfClose link => (r.setLink link Link.halfClose, .nothing)
  | .fault link operation breakage =>
    (r.setLink link fun l => setFault l breakage operation, .nothing)
  | .network network => ({ r with network }, .nothing)
  | .advance d => ({ r with now := r.now + d }, .nothing)
  | .settle => (r, .nothing)
  | .isDone promise =>
    match r.ticketAt? promise with
    | some ticket =>
      let (r, done) := r.withPromise promise ticket Promise.isDone
      (r, .flag done)
    | none => (r, .gone)
  | .poll promise =>
    match r.ticketAt? promise with
    | some ticket =>
      match r.withPromise promise ticket Promise.poll with
      | (r, some outcome) => (r, .outcome outcome)
      | (r, none) => (r, .pending)
    | none => (r, .gone)
  | .wait promise patience =>
    match r.ticketAt? promise with
    | some _ =>
      let (r, result) :=
        r.waitFor promise (Instant.after? r.now patience) (2 + r.bound + r.timers.length)
      (r, .waited result)
    | none => (r, .gone)
  | .block promise timed =>
    match r.ticketAt? promise with
    | some ticket =>
      match r.withPromise promise ticket fun p d => p.block d timed with
      | (r, some result) => (r, .waited result)
      | (r, none) => (r, .pending)
    | none => (r, .gone)
  | .showPromise promise =>
    match r.ticketAt? promise with
    | some ticket => (r, .text ticket.promise.text)
    | none => (r, .gone)
  | .showSession handle =>
    match r.sessionAt? handle with
    | some s => (r, .text s.text)
    | none => (r, .gone)
  | .showSettings => (r, if r.present then .settings r.client.settings else .nothing)
  | .showRoute link =>
    match (r.links[link]?).bind fun l => r.client.session? l.session with
    | some s => (r, .text s.route.text)
    | none => (r, .gone)
  | .describe handle =>
    match r.sessionAt? handle with
    | some s => (r, .session s)
    | none => (r, .gone)

/-- One step of a script, after which things settle if they may. -/
def perform (r : Rehearsal) (s : Step) (settles : Bool) : Rehearsal × Sight :=
  let (r, sight) := begin { r with ended := [] } s
  (if settles then r.settle else r, sight)

/-! ## Sights -/

/-- What the script sees of its sessions. -/
def sessions (r : Rehearsal) : List (Option Session) :=
  (List.range r.handles.length).map r.sessionAt?

/-- The number of pools, and the sizes of the pool of each route, unless its desk is taken. -/
def pools? (r : Rehearsal) : Option (Nat × List (Option (Option (Nat × Nat × Nat)))) :=
  if r.present then
    some (r.client.desks.length, r.routes.map fun route => (r.client.desk? route).map Desk.sizes?)
  else none

end Rehearsal

end Icap
