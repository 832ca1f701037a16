import Icap.Settings

/-!
# Pools

A pool keeps the sessions of one route: those that are available and those that are leased. A
session that was leased comes back by itself: once a command has been started on it and it is idle
again, the next lease finds it released. Sessions that are dead, too old or worn out are dropped
when a lease comes across them.

* `Pool.sweep` — the sessions that are leased are looked over.
* `Pool.choose` — the first available session that can be used.
* `Pool.seek` — both, and the room for a new session.
* `Pool.giveBack` — a lease that came to nothing.

The pool reads the clock now and then and gives up once it is late; `late n` says whether it is at
the reading with number `n`. Sessions go on while the pool looks at them, so what it sees of them is
up to the look.
-/

namespace Icap

/-- What a pool sees of a session. -/
structure SessionView where
  /-- Whether the connection is gone. -/
  dead : Bool
  /-- Whether the session is connected and does nothing. -/
  idle : Bool
  /-- The number of scans that have been started. -/
  commands : Nat
  age : Duration
  deriving DecidableEq, Repr, Inhabited

/-- What a pool sees of sessions by the number of the look and the number of the session. -/
abbrev Looks := Nat → Nat → SessionView

/-- A session that has been handed out, and its number of commands at that time. -/
structure Lease where
  session : Nat
  commands : Nat
  deriving DecidableEq, Repr

/-- The sessions of a route by their numbers. -/
structure Pool where
  /-- Those that can be handed out, the first one first. -/
  available : List Nat := []
  leased : List Lease := []
  deriving DecidableEq, Repr, Inhabited

/-- The limits of a pool. -/
structure PoolLimits where
  /-- The greatest number of sessions, or zero for no limit. -/
  sessions : Nat
  age : Duration
  commands : Nat
  deriving DecidableEq, Repr

/-- The limits that settings put on the pool of each route. -/
def Settings.poolLimits (s : Settings) : PoolLimits :=
  ⟨s.maxSessions, s.maxSessionTime, s.maxCommands⟩

/-- Whether a leased session that is idle, or not, and has run so many commands is released: it has
run one since it was handed out and is idle again. -/
def Lease.isReleased (l : Lease) (idle : Bool) (commands : Nat) : Bool :=
  idle && commands != l.commands

/-- Whether a session can be handed out: it lives, is young enough, and has two commands or more
left to the limit. -/
def PoolLimits.admit (limits : PoolLimits) (dead : Bool) (age : Duration) (commands : Nat) : Bool :=
  !dead && decide (age < limits.age) && decide (commands + 1 < limits.commands)

namespace Pool

/-- The number of sessions of a pool. -/
def size (p : Pool) : Nat := p.available.length + p.leased.length

/-- The sessions of a pool. -/
def members (p : Pool) : List Nat := p.available ++ p.leased.map Lease.session

/-! ## Sweeping -/

/-- What is left of a list whose first element has been removed: its last element takes the place
of the first. -/
def fillFirst {α : Type} : List α → List α
  | [] => []
  | x :: xs => (x :: xs).getLast (List.cons_ne_nil x xs) :: (x :: xs).dropLast

@[simp] theorem length_fillFirst {α : Type} (xs : List α) : (fillFirst xs).length = xs.length := by
  cases xs <;> simp [fillFirst]

/-- How the pool is left when its leased sessions have been looked over. -/
structure Sweep where
  inTime : Bool
  pool : Pool
  /-- The number of looks there have been. -/
  looks : Nat
  deriving DecidableEq, Repr

/-- Looks over the leased sessions `rest`, beginning with the look number `n`. Dead ones are dropped
and released ones made available; `kept` are those that stay leased. -/
def sweep (look : Looks) (late : Nat → Bool) (n : Nat) (available : List Nat)
    (kept rest : List Lease) : Sweep :=
  match rest with
  | [] => ⟨true, ⟨available, kept⟩, n⟩
  | l :: more =>
    if (look n l.session).dead then sweep look late (n + 1) available kept (fillFirst more)
    else if l.isReleased (look (n + 1) l.session).idle (look (n + 2) l.session).commands then
      sweep look late (n + 3) (available ++ [l.session]) kept (fillFirst more)
    else if late kept.length then ⟨false, ⟨available, kept ++ l :: more⟩, n + 3⟩
    else sweep look late (n + 3) available (kept ++ [l]) more
termination_by rest.length

/-! ## Choosing -/

/-- How the search among available sessions ends. -/
structure Choice where
  /-- The sessions that could not be used, which are closed. -/
  closed : List Nat := []
  found : Option Nat := none
  /-- The sessions behind the last one looked at. -/
  rest : List Nat := []
  inTime : Bool := true
  /-- The number of looks there have been. -/
  looks : Nat
  deriving DecidableEq, Repr

/-- Searches for a session that can be used, beginning with the look number `n`; the clock has been
read `readings` times. -/
def choose (look : Looks) (limits : PoolLimits) (late : Nat → Bool) (n readings : Nat) :
    List Nat → Choice
  | [] => { looks := n }
  | id :: more =>
    if limits.admit (look n id).dead (look (n + 1) id).age (look (n + 2) id).commands then
      { found := some id, rest := more, looks := n + 3 }
    else if late readings then { closed := [id], rest := more, inTime := false, looks := n + 3 }
    else
      let c := choose look limits late (n + 3) (readings + 1) more
      { c with closed := id :: c.closed }

/-! ## Seeking -/

/-- Records that a session that has run so many commands has been handed out. -/
def lend (p : Pool) (session commands : Nat) : Pool :=
  { p with leased := p.leased ++ [⟨session, commands⟩] }

/-- What a search for a session comes to: the pool after it, the sessions to close, and the
session found. Without one, a new session is to be opened. -/
structure Search where
  pool : Pool
  closed : List Nat := []
  found : Except ScanFault (Option Nat)
  /-- The number of looks there have been. -/
  looks : Nat

/-- Searches for a session. One that is found is handed out. -/
def seek (p : Pool) (look : Looks) (limits : PoolLimits) (late : Nat → Bool) : Search :=
  let swept := sweep look late 0 p.available [] p.leased
  if !swept.inTime then { pool := swept.pool, found := .error .timeout, looks := swept.looks }
  else
    let c := choose look limits late swept.looks swept.pool.leased.length swept.pool.available
    let p := { swept.pool with available := c.rest }
    if !c.inTime then { pool := p, closed := c.closed, found := .error .timeout, looks := c.looks }
    else
      match c.found with
      | some id =>
        { pool := p.lend id (look c.looks id).commands, closed := c.closed, found := .ok (some id),
          looks := c.looks + 1 }
      | none =>
        if 0 < limits.sessions ∧ limits.sessions ≤ p.size then
          { pool := p, closed := c.closed, found := .error .noFreeSession, looks := c.looks }
        else { pool := p, closed := c.closed, found := .ok none, looks := c.looks }

/-! ## Giving back -/

/-- The list without the element at an index, whose place the last element takes. -/
def swapRemove {α : Type} (xs : List α) (i : Nat) : List α :=
  xs.take i ++ fillFirst (xs.drop (i + 1))

/-- Puts a leased session that is idle, or not, in front of the available ones, if it is. -/
def giveBack (p : Pool) (session : Nat) (idle : Bool) : Pool :=
  match p.leased.findIdx? fun l => l.session == session && idle with
  | some i => ⟨session :: p.available, swapRemove p.leased i⟩
  | none => p

end Pool

end Icap
