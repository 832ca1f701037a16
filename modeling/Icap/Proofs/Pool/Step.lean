import Icap.Pool.Desk

/-!
# Steps at the desk of a pool

What an event does at a desk, as rules: one for each way in which `Desk.step?` can go, with the
conditions under which it goes that way.

* `Step` — the rules.
* `step_of_step?` — every step follows one of them.
-/

namespace Icap.Desk

variable {d : Desk} {look : Looks} {limits : PoolLimits}

/-- A desk whose first call in line has been taken, after a search for a session. -/
def searched (d : Desk) (look : Looks) (limits : PoolLimits) (late : Nat → Bool)
    (line : List Call) : Desk :=
  { d with line, pool := (d.pool.seek look limits late).pool }

/-- What an event does at a desk. -/
inductive Step (look : Looks) (limits : PoolLimits) (d : Desk) :
    Event → Desk → List Notice → Prop
  /-- A call gets in line. -/
  | arrive {call} (absent : d.hasCall call.number = false) :
      Step look limits d (.arrive call) { d with line := d.line ++ [call] } []
  /-- A call is refused. -/
  | refuse {late call line fault} (free : d.served = none) (head : d.line = call :: line)
      (found : (d.pool.seek look limits late).found = .error fault) :
      Step look limits d (.serve late) (d.searched look limits late line)
        ((d.pool.seek look limits late).closed.map .close ++ [.refused call.number fault])
  /-- A call is handed a session that is available. -/
  | reuse {late call line id} (free : d.served = none) (head : d.line = call :: line)
      (found : (d.pool.seek look limits late).found = .ok (some id)) :
      Step look limits d (.serve late)
        ((d.searched look limits late line).hand call id
          (look (d.pool.seek look limits late).looks id).commands).1
        ((d.pool.seek look limits late).closed.map .close ++ [.handed call.number id])
  /-- A session is to be opened for a call. -/
  | ask {late call line} (free : d.served = none) (head : d.line = call :: line)
      (found : (d.pool.seek look limits late).found = .ok none) :
      Step look limits d (.serve late)
        { d.searched look limits late line with served := some (call, .opening) }
        ((d.pool.seek look limits late).closed.map .close ++ [.open call.number])
  /-- A call is handed the session that has been opened for it. -/
  | receive {session call} (served : d.served = some (call, .opening)) :
      Step look limits d (.opened session)
        (hand { d with pool := d.pool.lend session (look 0 session).commands } call session
          (look 1 session).commands).1
        [.handed call.number session]
  /-- No session could be opened. -/
  | fail {fault call} (served : d.served = some (call, .opening)) :
      Step look limits d (.notOpened fault) { d with served := none } [.refused call.number fault]
  /-- A call has used its session. If it has started no command, the session is given back. -/
  | done {call session commands} (served : d.served = some (call, .using session commands)) :
      Step look limits d .used
        { d with
          served := none
          pool := if (look 0 session).commands = commands
            then d.pool.giveBack session (look 1 session).idle else d.pool } []
  /-- A call in line has lost its patience. -/
  | expire {number} (waits : d.line.any (·.number == number) = true) :
      Step look limits d (.expire number)
        { d with line := d.line.filter (·.number != number) } [.refused number .timeout]
  /-- The call that a session is opened for is given up. -/
  | abandon {call} (served : d.served = some (call, .opening)) :
      Step look limits d (.leave call.number) { d with served := none } []
  /-- A call in line is given up. -/
  | leave {number} (other : ∀ call, d.served = some (call, .opening) → call.number ≠ number) :
      Step look limits d (.leave number)
        { d with line := d.line.filter (·.number != number) } []

theorem step_of_serve {call : Call} {line : List Call} (late : Nat → Bool)
    (free : d.served = none) (head : d.line = call :: line) :
    Step look limits d (.serve late) (serve { d with line } look limits late call).1
      (serve { d with line } look limits late call).2 := by
  simp only [serve]
  split
  next fault found => exact .refuse free head found
  next id found => exact .reuse free head found
  next found => exact .ask free head found

/-- **Every step follows a rule.** -/
theorem step_of_step? {d' : Desk} {e : Event} {notices : List Notice}
    (h : d.step? look limits e = some (d', notices)) : Step look limits d e d' notices := by
  cases e with
  | arrive call =>
    simp only [step?] at h
    split at h <;> cases h
    next absent => exact .arrive (by simpa using absent)
  | serve late =>
    simp only [step?] at h
    split at h
    next call line free head =>
      have step : Step look limits d (.serve late) _ _ := step_of_serve late free head
      rwa [Option.some.inj h] at step
    · cases h
  | opened session =>
    simp only [step?] at h
    split at h <;> cases h
    next call served => exact .receive served
  | notOpened fault =>
    simp only [step?] at h
    split at h <;> cases h
    next call served => exact .fail served
  | used =>
    simp only [step?] at h
    split at h <;> cases h
    next call session commands served => exact .done served
  | expire number =>
    simp only [step?] at h
    split at h <;> cases h
    next waits => exact .expire waits
  | leave number =>
    simp only [step?] at h
    split at h
    next call served =>
      split at h <;> cases h
      next same =>
        subst same
        exact .abandon served
      next other =>
        refine .leave fun call' served' => ?_
        obtain rfl : call = call' := by simpa [served] using served'
        exact other
    next other =>
      cases h
      exact .leave fun call served => absurd served (other call)

end Icap.Desk
