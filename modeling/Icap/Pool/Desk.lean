import Icap.Pool
import Icap.Time.Instant

/-!
# The desk of a pool

Calls for a session are served one at a time. The call that is served keeps the desk while a
session is opened for it, and while it starts a scan on the session; the calls behind it stand in
line, each as long as it has patience.

`Desk.step?` is one event at a desk. It answers with notices: what is told to the calls, and what
is asked of the world around the pool.
-/

namespace Icap

/-- A call for a session. -/
structure Call where
  number : Nat
  /-- Whether the call uses its session before it leaves the desk. -/
  uses : Bool
  /-- How long it stands in line. -/
  patience : Deadline
  deriving DecidableEq, Repr

/-- Why a call keeps the desk. -/
inductive Hold
  /-- A session is being opened. -/
  | opening
  /-- The call uses a session that had run so many commands. -/
  | using (session commands : Nat)
  deriving DecidableEq, Repr

/-- A pool and the calls for its sessions. -/
structure Desk where
  pool : Pool := {}
  /-- The call that is served. -/
  served : Option (Call × Hold) := none
  line : List Call := []
  deriving DecidableEq, Repr, Inhabited

namespace Desk

/-- What may happen at a desk. -/
inductive Event
  | arrive (call : Call)
  /-- The first in line is served; `late` tells when its time is over. -/
  | serve (late : Nat → Bool)
  /-- A session has been opened. -/
  | opened (session : Nat)
  | notOpened (fault : ScanFault)
  /-- The call that is served has used its session. -/
  | used
  /-- A call in line loses its patience. -/
  | expire (call : Nat)
  /-- A call is given up from outside. -/
  | leave (call : Nat)

/-- What a desk has to say. -/
inductive Notice
  | handed (call session : Nat)
  | refused (call : Nat) (fault : ScanFault)
  /-- A session is to be closed. -/
  | close (session : Nat)
  /-- A session is to be opened for a call. -/
  | open (call : Nat)
  deriving DecidableEq, Repr

/-- Hands a session, which has run so many commands and is recorded as leased, to a call. -/
def hand (d : Desk) (call : Call) (session commands : Nat) : Desk × List Notice :=
  ({ d with served := if call.uses then some (call, .using session commands) else none },
    [.handed call.number session])

/-- Serves a call. -/
def serve (d : Desk) (look : Looks) (limits : PoolLimits) (late : Nat → Bool) (call : Call) :
    Desk × List Notice :=
  let s := d.pool.seek look limits late
  let d := { d with pool := s.pool }
  let closing := s.closed.map Notice.close
  match s.found with
  | .error fault => (d, closing ++ [.refused call.number fault])
  | .ok (some id) =>
    let (d, notices) := d.hand call id (look s.looks id).commands
    (d, closing ++ notices)
  | .ok none => ({ d with served := some (call, .opening) }, closing ++ [.open call.number])

/-- Whether a call is in line or served. -/
def hasCall (d : Desk) (number : Nat) : Bool :=
  d.line.any (·.number == number) || d.served.any (·.1.number == number)

/-- One event at a desk, unless it cannot happen now. -/
def step? (d : Desk) (look : Looks) (limits : PoolLimits) :
    Event → Option (Desk × List Notice)
  | .arrive call =>
    if d.hasCall call.number then none else some ({ d with line := d.line ++ [call] }, [])
  | .serve late =>
    match d.served, d.line with
    | none, call :: line => some (serve { d with line } look limits late call)
    | _, _ => none
  | .opened session =>
    match d.served with
    | some (call, .opening) =>
      some (hand { d with pool := d.pool.lend session (look 0 session).commands } call session
        (look 1 session).commands)
    | _ => none
  | .notOpened fault =>
    match d.served with
    | some (call, .opening) => some ({ d with served := none }, [.refused call.number fault])
    | _ => none
  | .used =>
    match d.served with
    | some (_, .using session commands) =>
      let pool :=
        if (look 0 session).commands = commands then d.pool.giveBack session (look 1 session).idle
        else d.pool
      some ({ d with pool, served := none }, [])
    | _ => none
  | .expire number =>
    if d.line.any (·.number == number) then
      some ({ d with line := d.line.filter (·.number != number) }, [.refused number .timeout])
    else none
  | .leave number =>
    match d.served with
    | some (call, .opening) =>
      if call.number = number then some ({ d with served := none }, [])
      else some ({ d with line := d.line.filter (·.number != number) }, [])
    | _ => some ({ d with line := d.line.filter (·.number != number) }, [])

/-- The sizes of a pool, unless its desk is taken. -/
def sizes? (d : Desk) : Option (Nat × Nat × Nat) :=
  if d.served.isSome then none
  else some (d.pool.size, d.pool.leased.length, d.pool.available.length)

end Desk

end Icap
