/-!
# States of a session

A session is connected and idle, waits for the answer to one of its two requests, or is
disconnected for good.
-/

namespace Icap

/-- What a session is doing. -/
inductive SessionState
  /-- The connection is gone and never comes back. -/
  | disconnected
  /-- Idle: a scan may start. -/
  | connected
  /-- An OPTIONS request has been claimed or sent. -/
  | awaitingOptions
  /-- A RESPMOD request has been started. -/
  | awaitingScan
  deriving DecidableEq, Repr, Inhabited

/-- The name of a state. -/
def SessionState.name : SessionState → String
  | .disconnected => "Disconnected"
  | .connected => "Connected"
  | .awaitingOptions => "AwaitingOptions"
  | .awaitingScan => "AwaitingScan"

end Icap
