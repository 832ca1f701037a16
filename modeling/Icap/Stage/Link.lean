import Icap.Session

/-!
# Links

A connection in memory between a session and a server that a script plays. Each direction holds a
bounded number of bytes that have been written and not been read. Either end may be closed, and the
session's end can be made to fail.

* `Link.act?` — what the connection has for the task of its session.
* `Link.send`, `Link.receive` — what the server does.
-/

namespace Icap

/-- A connection in memory. -/
structure Link where
  session : Nat
  /-- The greatest number of bytes that a direction holds. -/
  capacity : Nat
  toServer : Bytes := []
  toSession : Bytes := []
  /-- Whether the direction to the server takes no more bytes. -/
  serverClosed : Bool := false
  /-- Whether the direction to the session takes no more bytes. -/
  sessionClosed : Bool := false
  /-- Whether the server has dropped its end. -/
  abandoned : Bool := false
  readFault : Option Breakage := none
  /-- The fault of writes, once so many bytes have been taken. -/
  writeFault : Option (Breakage × Nat) := none
  flushFault : Option Breakage := none
  deriving DecidableEq, Repr

namespace Link

/-! ## The session's end -/

/-- The number of bytes that the direction to the server has room for. -/
def room (l : Link) : Nat := l.capacity - l.toServer.length

/-- What the connection has for a task that listens. -/
def read? (l : Link) : Option (Link × Session.Event) :=
  match l.readFault with
  | some _ => some (l, .readFailed)
  | none =>
    if l.toSession ≠ [] then some ({ l with toSession := [] }, .read l.toSession)
    else if l.sessionClosed then some (l, .endOfStream)
    else none

/-- What comes of an attempt to write, unless there is no room. -/
def write? (l : Link) (left : Bytes) : Option (Link × Session.Event) :=
  if left = [] then
    match l.flushFault with
    | some breakage => some (l, .writeFailed breakage)
    | none => some (l, .flushed)
  else
    match l.writeFault with
    | some (breakage, 0) => some (l, .writeFailed breakage)
    | fault =>
      if l.serverClosed then some (l, .writeFailed .brokenPipe)
      else
        let count := min left.length (min l.room ((fault.map Prod.snd).getD left.length))
        if count = 0 then none
        else
          some ({ l with
            toServer := l.toServer ++ left.take count
            writeFault := fault.map fun (breakage, after) => (breakage, after - count) },
            .accepted count)

/-- What the connection has for the task of a session. A write waits as long as there is no room
and nothing is wrong with its direction. -/
def act? (l : Link) (s : Session) : Option (Link × Session.Event) :=
  match s.activity with
  | .ended => none
  | .closing => some (l, .shut)
  | .writing left _ => l.write? left
  | .listening _ =>
    if s.released then l.read?
    else if s.queue ≠ [] then some (l, .command)
    else if s.held then l.read?
    else some (l, .released)

/-- The session shuts its end down. -/
def shutDown (l : Link) : Link := { l with serverClosed := true }

/-- The session's end is dropped. -/
def drop (l : Link) : Link := { l with serverClosed := true, sessionClosed := true }

/-! ## The server's end -/

/-- The server writes as many bytes as there is room for; the rest is given back. -/
def send (l : Link) (bytes : Bytes) : Link × Bytes :=
  let count := l.capacity - l.toSession.length
  ({ l with toSession := l.toSession ++ bytes.take count }, bytes.drop count)

/-- The server reads all bytes there are. -/
def receive (l : Link) : Link × Bytes := ({ l with toServer := [] }, l.toServer)

/-- The server drops its end. -/
def hangUp (l : Link) : Link :=
  { l with abandoned := true, serverClosed := true, sessionClosed := true }

/-- The server ends its direction. -/
def halfClose (l : Link) : Link := { l with sessionClosed := true }

end Link

end Icap
