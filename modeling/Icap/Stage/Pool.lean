import Icap.Pool.Desk

/-!
# Rehearsing a pool

A pool played on its own. Its sessions are actors that do what a script says, sessions open in the
way the script has last asked for, and time moves when the script says so. The time that a call may
spend at the desk is over at once if it is zero, and never otherwise; the time in line runs on the
clock of the script. Actors do not move while the pool looks at them.

* `Rehearsal.perform` — one step of a script, after which all calls go as far as they can.
-/

namespace Icap.Pool

/-- A session that does what a script says. -/
structure Actor where
  number : Nat
  dead : Bool := false
  available : Bool := false
  commands : Nat := 0
  age : Duration := 0
  /-- How often the pool has closed it. -/
  closed : Nat := 0
  deriving DecidableEq, Repr

/-- What a pool sees of an actor. -/
def Actor.view (a : Actor) : SessionView :=
  ⟨a.dead, !a.dead && a.available, a.commands, a.age⟩

/-- What an actor is told to be. -/
structure Cue where
  dead : Option Bool := none
  available : Option Bool := none
  commands : Option Nat := none
  moreCommands : Nat := 0
  age : Option Duration := none
  deriving DecidableEq, Repr

/-- The actor that follows a cue. -/
def Actor.follow (a : Actor) (c : Cue) : Actor :=
  { a with
    dead := c.dead.getD a.dead
    available := c.available.getD a.available
    commands := (c.commands.getD a.commands + c.moreCommands) % Text.word
    age := c.age.getD a.age }

/-- How sessions open. -/
inductive Opening
  | works
  | fails (fault : ScanFault)
  /-- The session opens when the script lets it. -/
  | hangs
  deriving DecidableEq, Repr

/-- What is known of a session that is being opened. -/
inductive Arrival
  | open (cue : Cue)
  | failed (fault : ScanFault)
  | hanging (cue : Cue)
  deriving DecidableEq, Repr

/-- What a call is to do. -/
structure Part where
  call : Nat
  /-- Whether the time of the call at the desk is over. -/
  late : Bool
  /-- What the call tells its session, and whether it then fails. -/
  use : Option (Cue × Bool) := none
  deriving DecidableEq, Repr

/-- A pool and the stage around it. -/
structure Rehearsal where
  limits : PoolLimits
  desk : Desk := {}
  actors : List Actor := []
  parts : List Part := []
  opening : Opening := .works
  /-- What a new actor is told. -/
  cue : Cue := {}
  arrival : Option Arrival := none
  now : Instant := 0
  /-- The number of sessions that have been asked for. -/
  asked : Nat := 0
  /-- The calls that have ended since the step began. -/
  ended : List (Nat × Except ScanFault Nat) := []

/-- A step of a script. -/
inductive Step
  | call (timeout : Duration) (use : Option (Cue × Bool))
  | direct (session : Nat) (cue : Cue)
  | opening (way : Opening) (cue : Cue)
  | release
  | advance (d : Duration)
  deriving DecidableEq, Repr

namespace Rehearsal

/-- What the pool sees of a session. -/
def look (r : Rehearsal) (session : Nat) : SessionView :=
  ((r.actors.find? (·.number == session)).map Actor.view).getD ⟨true, false, 0, 0⟩

/-- Gives a session a cue. -/
def direct (r : Rehearsal) (session : Nat) (cue : Cue) : Rehearsal :=
  { r with actors := r.actors.map fun a => if a.number = session then a.follow cue else a }

/-- Closes a session. -/
def close (r : Rehearsal) (session : Nat) : Rehearsal :=
  { r with actors := r.actors.map fun a =>
      if a.number = session then { a with dead := true, closed := a.closed + 1 } else a }

/-- The part of a call. -/
def partOf (r : Rehearsal) (call : Nat) : Part :=
  (r.parts.find? (·.call == call)).getD ⟨call, false, none⟩

/-- Ends a call. -/
def finish (r : Rehearsal) (call : Nat) (result : Except ScanFault Nat) : Rehearsal :=
  { r with ended := r.ended ++ [(call, result)] }

/-- Does what a notice asks for. A call that uses its session ends when it has done so. -/
def heed (r : Rehearsal) : Desk.Notice → Rehearsal
  | .handed call session =>
    if (r.partOf call).use.isSome then r else r.finish call (.ok session)
  | .refused call fault => r.finish call (.error fault)
  | .close session => r.close session
  | .open _ =>
    { r with
      asked := r.asked + 1
      arrival := some (match r.opening with
        | .works => .open r.cue
        | .fails fault => .failed fault
        | .hangs => .hanging r.cue) }

/-- One event at the desk and what it entails, unless it cannot happen now. -/
def event? (r : Rehearsal) (e : Desk.Event) : Option Rehearsal :=
  (r.desk.step? (fun _ => r.look) r.limits e).map fun (desk, notices) =>
    notices.foldl heed { r with desk }

/-- The use that a call makes of its session. -/
def use (r : Rehearsal) (call session : Nat) : Rehearsal :=
  match (r.partOf call).use with
  | none => r
  | some (cue, fails) =>
    (r.direct session cue).finish call (if fails then .error .sessionInUse else .ok session)

/-- The next thing that happens by itself, if there is any. -/
def turn? (r : Rehearsal) : Option Rehearsal :=
  match r.desk.served with
  | some (_, .opening) =>
    match r.arrival with
    | some (.open cue) =>
      let number := r.actors.length + 1
      let actor := Actor.follow { number } cue
      { r with actors := r.actors ++ [actor], arrival := none }.event? (.opened number)
    | some (.failed fault) => { r with arrival := none }.event? (.notOpened fault)
    | _ => impatient
  | some (call, .using session _) => (r.use call.number session).event? .used
  | none =>
    match r.desk.line with
    | call :: _ => r.event? (.serve fun _ => (r.partOf call.number).late)
    | [] => none
where
  /-- The first call in line that has lost its patience leaves. -/
  impatient : Option Rehearsal :=
    match r.desk.line.find? fun c => c.patience.isPast r.now with
    | some call => r.event? (.expire call.number)
    | none => none

/-- Lets things happen, at most so many. -/
def settle : Nat → Rehearsal → Rehearsal
  | 0, r => r
  | n + 1, r =>
    match r.turn? with
    | some r => settle n r
    | none => r

/-- What a step of a script does at first. -/
def begin (r : Rehearsal) : Step → Rehearsal
  | .call timeout use =>
    let number := r.parts.length
    let call : Call := ⟨number, use.isSome, Instant.after? r.now timeout⟩
    let part : Part := ⟨number, timeout = 0, use⟩
    let r := { r with parts := r.parts ++ [part] }
    (r.event? (.arrive call)).getD r
  | .direct session cue => r.direct session cue
  | .opening way cue => { r with opening := way, cue }
  | .release =>
    match r.arrival with
    | some (.hanging cue) => { r with arrival := some (.open cue) }
    | _ => r
  | .advance d => { r with now := r.now + d }

/-- One step of a script. Each call in line may be served, and then have its session opened and
used. -/
def perform (r : Rehearsal) (s : Step) : Rehearsal :=
  let r := begin { r with ended := [] } s
  settle (4 * (r.desk.line.length + 1)) r

end Rehearsal

end Icap.Pool
