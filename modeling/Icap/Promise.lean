import Icap.Verdict

/-!
# Promises

The caller's end of a scan. The outcome is sent once, or lost with the task that should have sent
it; the promise hands it out once. A promise may be asked, polled and waited for in any order: what
it has received but not handed out, it keeps.
-/

namespace Icap

/-- What has become of an outcome on its way to a promise. -/
inductive Delivery
  | awaited
  | sent (outcome : Outcome)
  /-- The outcome will never come. -/
  | lost
  deriving Repr

/-- The promise of an outcome. -/
structure Promise where
  /-- Whether the outcome has yet to be received. -/
  listens : Bool
  /-- The outcome that has been received and not been handed out. -/
  kept : Option Outcome
  deriving Repr

namespace Promise

/-- The promise of an outcome that is to come. -/
def awaiting : Promise := ⟨true, none⟩

/-- The promise of an outcome that is known. -/
def ready (outcome : Outcome) : Promise := ⟨false, some outcome⟩

/-- What is received of a delivery; of an outcome that is lost, that the session is gone. -/
def received : Delivery → Option Outcome
  | .awaited => none
  | .sent outcome => some outcome
  | .lost => some (.error (.disconnected .disconnected))

/-- The outcome of a promise that has been emptied. -/
def emptied : Outcome := .error .alreadyTaken

/-- Whether the outcome is there. It is received if it can be, and kept. -/
def isDone (p : Promise) (d : Delivery) : Bool × Promise :=
  if p.kept.isSome || !p.listens then (true, p)
  else
    match received d with
    | some outcome => (true, ready outcome)
    | none => (false, p)

/-- The outcome if it is there. -/
def poll (p : Promise) (d : Delivery) : Option Outcome × Promise :=
  match p.kept with
  | some outcome => (some outcome, { p with kept := none })
  | none =>
    if p.listens then
      match received d with
      | some outcome => (some outcome, ⟨false, none⟩)
      | none => (none, p)
    else (some emptied, p)

/-- An outcome that a wait ends with. -/
def waited : Outcome → Except WaitFault Verdict := Except.mapError .failed

/-- Looks for the outcome in the course of a wait. If it is not there the wait goes on, or ends
without it once it has `expired`. -/
def wait (p : Promise) (d : Delivery) (expired : Bool) :
    Option (Except WaitFault Verdict) × Promise :=
  match p.poll d with
  | (some outcome, p) => (some (waited outcome), p)
  | (none, p) => (if expired then some (.error .expired) else none, p)

/-- Hands out what is kept. -/
def take (p : Promise) : Outcome × Promise := (p.kept.getD emptied, { p with kept := none })

/-- Waits on a thread of its own, up to a time if there is one. While the outcome is awaited, the
wait without a time does not end. -/
def block (p : Promise) (d : Delivery) (timed : Bool) :
    Option (Except WaitFault Verdict) × Promise :=
  if timed then
    match p.isDone d with
    | (true, p) =>
      let (outcome, p) := p.take
      (some (waited outcome), p)
    | (false, p) => (some (.error .expired), p)
  else if p.listens then
    match received d with
    | some outcome => (some (waited outcome), ⟨false, none⟩)
    | none => (none, p)
  else
    let (outcome, p) := p.take
    (some (waited outcome), p)

/-- A promise on one line. -/
def text (p : Promise) : String :=
  "IcapScanFuture \x7b ready: " ++ (if p.kept.isSome then "true" else "false") ++ ", .. \x7d"

end Promise

end Icap
