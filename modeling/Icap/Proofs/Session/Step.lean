import Icap.Session

/-!
# Steps of a session

What an event does to a session, as rules: one for each way in which `Session.step?` can go, with
the conditions under which it goes that way. What sessions keep is proved from these rules.

The rules leave out that the clock may end. A task that goes on to listen breaks off if the clock
cannot tell the end of its new patience, and then the rule is not all that happens.

* `Rule` — the rules.
* `Step` — what an event does, be the task broken off or not.
* `step_of_step?` — every step follows a rule.
* `step?_of_step` — whatever follows a rule is a step.
-/

namespace Icap.Session

variable {settings : Settings} {now : Instant} {s : Session}

/-! ## Ends of a task -/

@[simp] theorem shutDown_fst (s : Session) :
    s.shutDown.1 = { s with state := .disconnected, pending := none, activity := .closing } := rfl

@[simp] theorem shutDown_snd (s : Session) :
    s.shutDown.2 = s.dropPending ++ [.shutDown] := rfl

@[simp] theorem tellAndShutDown_fst (s : Session) (outcome : Outcome) :
    (s.tellAndShutDown outcome).1 =
      { s with state := .disconnected, pending := none, activity := .closing } := rfl

@[simp] theorem tellAndShutDown_snd (s : Session) (outcome : Outcome) :
    (s.tellAndShutDown outcome).2 = s.tell outcome ++ [.shutDown] := rfl

@[simp] theorem finish_fst (s : Session) :
    s.finish.1 = { s with pending := none, queue := [], activity := .ended } := rfl

@[simp] theorem finish_snd (s : Session) : s.finish.2 = s.dropPending ++ s.dropQueue := rfl

/-- The fault of a scan whose connection is gone. -/
def endFault (s : Session) : ScanFault :=
  if s.response.cutShort.1 then .parse .truncated else .disconnected s.state

@[simp] theorem takeEnd_fst (s : Session) :
    s.takeEnd.1 =
      { s with state := .disconnected, pending := none, queue := [], activity := .ended } := rfl

@[simp] theorem takeEnd_snd (s : Session) :
    s.takeEnd.2 = s.tell (.error s.endFault) ++ s.dropQueue := rfl

/-! ## Outcomes -/

@[simp] theorem mem_tell {n : Nat} {o o' : Outcome} :
    .answered n o ∈ s.tell o' ↔ ∃ r, s.pending = some r ∧ r.number = n ∧ o' = o := by
  simp [tell]

@[simp] theorem not_mem_dropPending {n : Nat} {o : Outcome} : .answered n o ∉ s.dropPending := by
  simp [dropPending]

@[simp] theorem not_mem_dropQueue {n : Nat} {o : Outcome} : .answered n o ∉ s.dropQueue := by
  simp only [dropQueue, List.mem_filterMap, not_exists, not_and]
  rintro (_ | _) _ h <;> cases h

/-! ## Bytes of the server -/

/-- A session that has taken note of what is owed after bytes have arrived. -/
def skipped (s : Session) (bytes : Bytes) : Session :=
  { s with owed := (Terminator.skip s.owed bytes).1 }

/-- A session whose response has taken in what bytes hold beyond what is owed. -/
def gathered (settings : Settings) (s : Session) (bytes : Bytes) : Session :=
  { s with
    owed := (Terminator.skip s.owed bytes).1
    response := (s.response.feed settings.vendor (Terminator.skip s.owed bytes).2).1 }

@[simp] theorem reset_takeOutcome (r : Response) : r.takeOutcome.2.reset = r.reset := by
  simp only [Response.takeOutcome, Response.reset]
  split <;> rfl

/-- A session that has handed out the outcome of its response. -/
def answered (s : Session) : Session :=
  { s with response := s.response.reset, owed := s.response.owed }

/-! ## Rules -/

/-- What an event does to a session while the clock goes on. -/
inductive Rule (settings : Settings) (now : Instant) (s : Session) :
    Event → Session → List Effect → Prop
  /-- A scan on a session that is not idle. -/
  | refuse {filename payload} (held : s.held = true) (state : s.state ≠ .connected) :
      Rule settings now s (.scan filename payload) s
        [.replied (.error (if s.state = .disconnected then .notConnected else .sessionInUse))]
  /-- A scan of a file without content. -/
  | ready {filename} (held : s.held = true) (state : s.state = .connected) :
      Rule settings now s (.scan filename []) s [.replied (.ok (.ready emptyVerdict))]
  /-- A scan on an idle session whose task has been destroyed. -/
  | orphan {filename payload} (held : s.held = true) (state : s.state = .connected)
      (payload_ne : payload ≠ []) (activity : s.activity = .ended) :
      Rule settings now s (.scan filename payload)
        { s with state := .disconnected, commands := s.commands + 1 }
        [.replied (.error (.requestFailed .taskGone))]
  /-- A scan on an idle session. -/
  | claim {filename payload} (held : s.held = true) (state : s.state = .connected)
      (payload_ne : payload ≠ []) (activity : s.activity ≠ .ended) :
      Rule settings now s (.scan filename payload)
        { s with
          state := .awaitingOptions
          commands := s.commands + 1
          queue := s.queue ++ [.scan ⟨s.commands + 1, filename, payload⟩] }
        [.replied (.ok (.promised (s.commands + 1)))]
  | close (held : s.held = true) : Rule settings now s .close s.close []
  | letGo (held : s.held = true) : Rule settings now s .letGo { s with held := false } []
  /-- The task takes a scan. -/
  | start {patience r queue} (activity : s.activity = .listening patience)
      (head : s.queue = .scan r :: queue) (released : s.released = false)
      (state : s.state = .awaitingOptions) :
      Rule settings now s .command
        (write settings now (settings.agent.options s.route)
          { s with queue, response := s.response.reset, pending := some r }) []
  /-- The task takes a scan of a session that has been closed since. -/
  | turnDown {patience r queue} (activity : s.activity = .listening patience)
      (head : s.queue = .scan r :: queue) (released : s.released = false)
      (state : s.state ≠ .awaitingOptions) :
      Rule settings now s .command { s with queue }.shutDown.1
        (.answered r.number (.error (.disconnected s.state)) :: { s with queue }.shutDown.2)
  /-- The task is told to close. -/
  | obey {patience queue} (activity : s.activity = .listening patience)
      (head : s.queue = .close :: queue) (released : s.released = false) :
      Rule settings now s .command { s with queue }.shutDown.1 { s with queue }.shutDown.2
  /-- The session has no users, but a scan to bring to its end. -/
  | release {patience r} (activity : s.activity = .listening patience) (held : s.held = false)
      (released : s.released = false) (queue : s.queue = []) (pending : s.pending = some r) :
      Rule settings now s .released (listening settings now { s with released := true }) []
  /-- The session has no users and nothing to do. -/
  | abandon {patience} (activity : s.activity = .listening patience) (held : s.held = false)
      (released : s.released = false) (queue : s.queue = []) (pending : s.pending = none) :
      Rule settings now s .released { s with released := true }.shutDown.1
        { s with released := true }.shutDown.2
  /-- Bytes that no scan waits for. -/
  | discard {patience bytes} (activity : s.activity = .listening patience)
      (bytes_ne : bytes ≠ []) (pending : s.pending = none) :
      Rule settings now s (.read bytes) (listening settings now (s.skipped bytes)) []
  /-- Bytes that the last response still owes. -/
  | skip {patience bytes r} (activity : s.activity = .listening patience)
      (bytes_ne : bytes ≠ []) (pending : s.pending = some r)
      (left : (Terminator.skip s.owed bytes).2 = []) :
      Rule settings now s (.read bytes) (listening settings now (s.skipped bytes)) []
  /-- Bytes with which the response is not complete. -/
  | gather {patience bytes r} (activity : s.activity = .listening patience)
      (bytes_ne : bytes ≠ []) (pending : s.pending = some r)
      (left : (Terminator.skip s.owed bytes).2 ≠ [])
      (isDone : (s.gathered settings bytes).response.isDone = false) :
      Rule settings now s (.read bytes) (listening settings now (s.gathered settings bytes)) []
  /-- The response to the OPTIONS request has failed. -/
  | refuseOptions {patience bytes r fault} (activity : s.activity = .listening patience)
      (bytes_ne : bytes ≠ []) (pending : s.pending = some r)
      (left : (Terminator.skip s.owed bytes).2 ≠ [])
      (isDone : (s.gathered settings bytes).response.isDone = true)
      (state : s.state = .awaitingOptions)
      (outcome : (s.gathered settings bytes).response.takeOutcome.1 = .error fault) :
      Rule settings now s (.read bytes)
        ((s.gathered settings bytes).tellAndShutDown (.error fault)).1
        ((s.gathered settings bytes).tellAndShutDown (.error fault)).2
  /-- The response to the OPTIONS request is complete: the RESPMOD request is to be written. -/
  | ask {patience bytes r verdict} (activity : s.activity = .listening patience)
      (bytes_ne : bytes ≠ []) (pending : s.pending = some r)
      (left : (Terminator.skip s.owed bytes).2 ≠ [])
      (isDone : (s.gathered settings bytes).response.isDone = true)
      (state : s.state = .awaitingOptions)
      (outcome : (s.gathered settings bytes).response.takeOutcome.1 = .ok verdict) :
      Rule settings now s (.read bytes)
        (write settings now (settings.agent.respmod s.route r.filename r.payload s.reuse).bytes
          { s.gathered settings bytes with
            response := (s.gathered settings bytes).response.reset
            state := .awaitingScan }) []
  /-- The response to the RESPMOD request is complete, and the session can serve again. -/
  | answer {patience bytes r verdict} (activity : s.activity = .listening patience)
      (bytes_ne : bytes ≠ []) (pending : s.pending = some r)
      (left : (Terminator.skip s.owed bytes).2 ≠ [])
      (isDone : (s.gathered settings bytes).response.isDone = true)
      (state : s.state = .awaitingScan)
      (outcome : (s.gathered settings bytes).response.takeOutcome.1 = .ok verdict)
      (reuse : s.reuse = true) (released : s.released = false) :
      Rule settings now s (.read bytes)
        (listening settings now
          { (s.gathered settings bytes).answered with state := .connected, pending := none })
        [.answered r.number (.ok verdict)]
  /-- The response to the RESPMOD request is complete, and the session serves no more. -/
  | answerLast {patience bytes r} (activity : s.activity = .listening patience)
      (bytes_ne : bytes ≠ []) (pending : s.pending = some r)
      (left : (Terminator.skip s.owed bytes).2 ≠ [])
      (isDone : (s.gathered settings bytes).response.isDone = true)
      (state : s.state = .awaitingScan)
      (last : ¬(s.reuse = true ∧
        (s.gathered settings bytes).response.takeOutcome.1.toBool = true ∧ s.released = false)) :
      Rule settings now s (.read bytes)
        ((s.gathered settings bytes).answered.tellAndShutDown
          (s.gathered settings bytes).response.takeOutcome.1).1
        ((s.gathered settings bytes).answered.tellAndShutDown
          (s.gathered settings bytes).response.takeOutcome.1).2
  /-- A response is complete on a session that has been closed since. -/
  | answerLate {patience bytes r} (activity : s.activity = .listening patience)
      (bytes_ne : bytes ≠ []) (pending : s.pending = some r)
      (left : (Terminator.skip s.owed bytes).2 ≠ [])
      (isDone : (s.gathered settings bytes).response.isDone = true)
      (state : s.state = .connected ∨ s.state = .disconnected) :
      Rule settings now s (.read bytes)
        ((s.gathered settings bytes).tellAndShutDown (.error (.disconnected s.state))).1
        ((s.gathered settings bytes).tellAndShutDown (.error (.disconnected s.state))).2
  /-- The connection is gone. -/
  | hangUp {patience e} (activity : s.activity = .listening patience)
      (event : e = .endOfStream ∨ e = .readFailed) :
      Rule settings now s e s.takeEnd.1 s.takeEnd.2
  | lapse {patience} (activity : s.activity = .listening patience) (past : patience.isPast now) :
      Rule settings now s .idle (s.tellAndShutDown (.error .inactivity)).1
        (s.tellAndShutDown (.error .inactivity)).2
  | accept {count left patience} (activity : s.activity = .writing left patience)
      (pos : 0 < count) (le : count ≤ left.length) :
      Rule settings now s (.accepted count)
        { s with activity := .writing (left.drop count) patience } [.sent (left.take count)]
  | flush {patience} (activity : s.activity = .writing [] patience) :
      Rule settings now s .flushed (s.listening settings now) []
  | failWrite {left patience breakage} (activity : s.activity = .writing left patience) :
      Rule settings now s (.writeFailed breakage)
        (s.tellAndShutDown (.error (.requestFailed (.broken breakage)))).1
        (s.tellAndShutDown (.error (.requestFailed (.broken breakage)))).2
  | expireWrite {left patience} (activity : s.activity = .writing left patience)
      (past : patience.isPast now) :
      Rule settings now s .writeExpired
        (s.tellAndShutDown (.error (.requestFailed .timedOut))).1
        (s.tellAndShutDown (.error (.requestFailed .timedOut))).2
  | shut (activity : s.activity = .closing) : Rule settings now s .shut s.finish.1 s.finish.2
  | destroy (activity : s.activity ≠ .ended) :
      Rule settings now s .destroyed s.finish.1 s.finish.2

/-- Whether an event takes somebody who holds the session. -/
def Event.IsUse : Event → Prop
  | .scan _ _ | .close | .letGo => True
  | _ => False

instance (e : Event) : Decidable e.IsUse := by
  cases e <;> first | exact .isTrue trivial | exact .isFalse id

/-- Whether the task may go on to listen after an event. -/
def Event.Resumes : Event → Prop
  | .released | .read _ | .flushed => True
  | _ => False

instance (e : Event) : Decidable e.Resumes := by
  cases e <;> first | exact .isTrue trivial | exact .isFalse id

/-- The clock can tell the end of the patience of a task that goes on to listen now. -/
def InTime (settings : Settings) (now : Instant) : Prop :=
  (now.after? settings.inactivityTimeout).isSome = true

instance (settings : Settings) (now : Instant) : Decidable (InTime settings now) :=
  inferInstanceAs (Decidable (_ = _))

/-- Time runs out only later. -/
theorem InTime.of_le {t : Instant} (inTime : InTime settings now) (le : t ≤ now) :
    InTime settings t :=
  Instant.isSome_after?.mpr
    (Nat.lt_of_le_of_lt (Nat.add_le_add_right le _) (Instant.isSome_after?.mp inTime))

/-- What an event does to a session. -/
inductive Step (settings : Settings) (now : Instant) (s : Session) :
    Event → Session → List Effect → Prop
  /-- A rule is all that happens. -/
  | whole {e s' fx} (rule : Rule settings now s e s' fx)
      (onTime : ¬e.IsUse → s'.activity ≠ .listening none) : Step settings now s e s' fx
  /-- The task was to listen now, and breaks off: the clock ends before its patience. -/
  | breakOff {e t fx} (rule : Rule settings now s e t fx) (unused : ¬e.IsUse)
      (late : t.activity = .listening none) :
      Step settings now s e t.finish.1 (fx ++ t.finish.2)

/-! ## Steps follow the rules -/

theorem listen_of_inTime (inTime : InTime settings now) :
    s.listen settings now = (s.listening settings now, []) := if_pos inTime

theorem listen_of_late (late : (s.listening settings now).activity = .listening none) :
    s.listen settings now = s.finish :=
  if_neg (by simp [Activity.listening.inj late])

/-- A rule with which the task does not go on to listen. -/
theorem Rule.step {e : Event} {s' : Session} {fx : List Effect} (rule : Rule settings now s e s' fx)
    (onTime : e.IsUse ∨ s'.activity ≠ .listening none) : Step settings now s e s' fx :=
  .whole rule fun unused => onTime.resolve_left unused

/-- A task that is to listen now does so, or breaks off. -/
theorem Rule.listen {e : Event} {t : Session} {fx : List Effect}
    (rule : Rule settings now s e (t.listening settings now) fx) (unused : ¬e.IsUse) :
    Step settings now s e (t.listen settings now).1 (fx ++ (t.listen settings now).2) := by
  unfold Session.listen
  split
  next inTime =>
    rw [List.append_nil]
    refine rule.step (.inr fun late => ?_)
    rw [Activity.listening.inj late] at inTime
    cases inTime
  next late =>
    have broken : Step settings now s e (t.listening settings now).finish.1 _ :=
      .breakOff rule unused (congrArg Activity.listening (Option.not_isSome_iff_eq_none.mp late))
    exact broken

theorem rule_of_scan (held : s.held = true) (filename : String) (payload : Bytes) :
    Rule settings now s (.scan filename payload) (s.scan filename payload).1
      [.replied (s.scan filename payload).2] := by
  by_cases hs : s.state = .connected
  · by_cases hp : payload = []
    · subst hp
      have h : s.scan filename [] = (s, .ok (.ready emptyVerdict)) := by simp [scan, hs]
      rw [h]
      exact .ready held hs
    · by_cases ha : s.activity = .ended
      · have h : s.scan filename payload =
            ({ s with state := .disconnected, commands := s.commands + 1 },
              .error (.requestFailed .taskGone)) := by
          simp [scan, hs, hp, hasEnded, ha]
        rw [h]
        exact .orphan held hs hp ha
      · have h : s.scan filename payload =
            ({ s with
              state := .awaitingOptions
              commands := s.commands + 1
              queue := s.queue ++ [.scan ⟨s.commands + 1, filename, payload⟩] },
              .ok (.promised (s.commands + 1))) := by
          simp [scan, hs, hp, hasEnded, ha]
        rw [h]
        exact .claim held hs hp ha
  · have h : s.scan filename payload =
        (s, .error (if s.state = .disconnected then .notConnected else .sessionInUse)) := by
      simp only [scan]
      split <;> simp_all
    rw [h]
    exact .refuse held hs

theorem step_of_takeCommand {patience : Deadline} {c : Command} {queue : List Command}
    (activity : s.activity = .listening patience) (head : s.queue = c :: queue)
    (released : s.released = false) :
    Step settings now s .command (takeCommand settings now { s with queue } c).1
      (takeCommand settings now { s with queue } c).2 := by
  cases c with
  | close => exact (Rule.obey activity head released).step (.inr nofun)
  | scan r =>
    simp only [takeCommand, begin]
    by_cases hs : s.state = .awaitingOptions
    · rw [if_pos hs]
      exact (Rule.start activity head released hs).step (.inr nofun)
    · rw [if_neg hs]
      exact (Rule.turnDown activity head released hs).step (.inr nofun)

theorem step_of_takeRelease {patience : Deadline} (activity : s.activity = .listening patience)
    (held : s.held = false) (released : s.released = false) (queue : s.queue = []) :
    Step settings now s .released (s.takeRelease settings now).1
      (s.takeRelease settings now).2 := by
  by_cases hp : s.pending = none
  · have h : s.takeRelease settings now = { s with released := true }.shutDown := by
      simp [takeRelease, hp]
    rw [h]
    exact (Rule.abandon activity held released queue hp).step (.inr nofun)
  · obtain ⟨r, hp⟩ := Option.ne_none_iff_exists'.mp hp
    have h : s.takeRelease settings now =
        listen settings now { s with released := true } := by
      simp [takeRelease, hp]
    rw [h]
    exact (Rule.release activity held released queue hp).listen id

theorem takeBytes_of_discard {bytes : Bytes} (pending : s.pending = none) :
    s.takeBytes settings now bytes = listen settings now (s.skipped bytes) := by
  simp [takeBytes, pending, skipped]

theorem takeBytes_of_skip {bytes : Bytes} {r : ScanRequest} (pending : s.pending = some r)
    (left : (Terminator.skip s.owed bytes).2 = []) :
    s.takeBytes settings now bytes = listen settings now (s.skipped bytes) := by
  simp [takeBytes, pending, left, skipped]

theorem takeBytes_of_gather {bytes : Bytes} {r : ScanRequest} (pending : s.pending = some r)
    (left : (Terminator.skip s.owed bytes).2 ≠ [])
    (isDone : (s.gathered settings bytes).response.isDone = false) :
    s.takeBytes settings now bytes = listen settings now (s.gathered settings bytes) := by
  simp only [gathered] at isDone
  simp [takeBytes, pending, left, isDone, gathered]

/-- What a complete response does is up to the state of the session. -/
theorem takeBytes_of_isDone {bytes : Bytes} {r : ScanRequest} (pending : s.pending = some r)
    (left : (Terminator.skip s.owed bytes).2 ≠ [])
    (isDone : (s.gathered settings bytes).response.isDone = true) :
    s.takeBytes settings now bytes =
      match s.state with
      | .awaitingOptions => (s.gathered settings bytes).optionsDone settings now r
      | .awaitingScan => (s.gathered settings bytes).scanDone settings now
      | state => (s.gathered settings bytes).tellAndShutDown (.error (.disconnected state)) := by
  simp only [gathered] at isDone
  simp only [takeBytes, pending, left, isDone, gathered]
  rfl

theorem optionsDone_of_error {r : ScanRequest} {fault : ScanFault}
    (outcome : s.response.takeOutcome.1 = .error fault) :
    s.optionsDone settings now r = s.tellAndShutDown (.error fault) := by
  simp only [optionsDone]
  split
  next fault' _ taken =>
    rw [taken] at outcome
    rw [Except.error.inj outcome]
  next taken =>
    rw [taken] at outcome
    cases outcome

theorem optionsDone_of_ok {r : ScanRequest} {verdict : Verdict}
    (outcome : s.response.takeOutcome.1 = .ok verdict) :
    s.optionsDone settings now r =
      (write settings now (settings.agent.respmod s.route r.filename r.payload s.reuse).bytes
        { s with response := s.response.reset, state := .awaitingScan }, []) := by
  have reset := reset_takeOutcome s.response
  simp only [optionsDone]
  split
  next taken =>
    rw [taken] at outcome
    cases outcome
  next taken =>
    rw [taken] at reset
    rw [← reset]

theorem step_of_optionsDone {patience : Deadline} {bytes : Bytes} {r : ScanRequest}
    (activity : s.activity = .listening patience) (bytes_ne : bytes ≠ [])
    (pending : s.pending = some r) (left : (Terminator.skip s.owed bytes).2 ≠ [])
    (isDone : (s.gathered settings bytes).response.isDone = true)
    (state : s.state = .awaitingOptions) :
    Step settings now s (.read bytes) ((s.gathered settings bytes).optionsDone settings now r).1
      ((s.gathered settings bytes).optionsDone settings now r).2 := by
  cases outcome : (s.gathered settings bytes).response.takeOutcome.1 with
  | error fault =>
    rw [optionsDone_of_error outcome]
    exact (Rule.refuseOptions activity bytes_ne pending left isDone state outcome).step (.inr nofun)
  | ok verdict =>
    rw [optionsDone_of_ok outcome]
    exact (Rule.ask activity bytes_ne pending left isDone state outcome).step (.inr nofun)

/-- The outcome of a scan, and whether the session serves again. -/
theorem scanDone_eq (s : Session) :
    s.scanDone settings now =
      if s.reuse = true ∧ s.response.takeOutcome.1.toBool = true ∧ s.released = false then
        ((listen settings now { s.answered with state := .connected, pending := none }).1,
          s.tell s.response.takeOutcome.1 ++
            (listen settings now { s.answered with state := .connected, pending := none }).2)
      else s.answered.tellAndShutDown s.response.takeOutcome.1 := by
  simp only [scanDone, reset_takeOutcome, answered, Bool.not_eq_true']
  rfl

theorem step_of_scanDone {patience : Deadline} {bytes : Bytes} {r : ScanRequest}
    (activity : s.activity = .listening patience) (bytes_ne : bytes ≠ [])
    (pending : s.pending = some r) (left : (Terminator.skip s.owed bytes).2 ≠ [])
    (isDone : (s.gathered settings bytes).response.isDone = true)
    (state : s.state = .awaitingScan) :
    Step settings now s (.read bytes) ((s.gathered settings bytes).scanDone settings now).1
      ((s.gathered settings bytes).scanDone settings now).2 := by
  rw [scanDone_eq]
  split
  next again =>
    obtain ⟨reuse, ok, released⟩ := again
    cases outcome : (s.gathered settings bytes).response.takeOutcome.1 with
    | error fault => simp [outcome, Except.toBool] at ok
    | ok verdict =>
      have h : Step settings now s (.read bytes) _ _ :=
        (Rule.answer activity bytes_ne pending left isDone state outcome reuse released).listen id
      rwa [show [Effect.answered r.number (.ok verdict)] = s.tell (.ok verdict) by
        simp [tell, pending]] at h
  next last =>
    exact (Rule.answerLast activity bytes_ne pending left isDone state last).step (.inr nofun)

theorem step_of_takeBytes {patience : Deadline} {bytes : Bytes}
    (activity : s.activity = .listening patience) (bytes_ne : bytes ≠ []) :
    Step settings now s (.read bytes) (s.takeBytes settings now bytes).1
      (s.takeBytes settings now bytes).2 := by
  by_cases hp : s.pending = none
  · rw [takeBytes_of_discard hp]
    exact (Rule.discard activity bytes_ne hp).listen id
  obtain ⟨r, hp⟩ := Option.ne_none_iff_exists'.mp hp
  by_cases hl : (Terminator.skip s.owed bytes).2 = []
  · rw [takeBytes_of_skip hp hl]
    exact (Rule.skip activity bytes_ne hp hl).listen id
  -- there are bytes for the response
  cases hd : (s.gathered settings bytes).response.isDone with
  | false =>
    rw [takeBytes_of_gather hp hl hd]
    exact (Rule.gather activity bytes_ne hp hl hd).listen id
  | true =>
    rw [takeBytes_of_isDone hp hl hd]
    cases hs : s.state with
    | awaitingOptions => exact step_of_optionsDone activity bytes_ne hp hl hd hs
    | awaitingScan => exact step_of_scanDone activity bytes_ne hp hl hd hs
    | connected =>
      have h : Step settings now s (.read bytes) _ _ :=
        (Rule.answerLate activity bytes_ne hp hl hd (.inl hs)).step (.inr nofun)
      rwa [hs] at h
    | disconnected =>
      have h : Step settings now s (.read bytes) _ _ :=
        (Rule.answerLate activity bytes_ne hp hl hd (.inr hs)).step (.inr nofun)
      rwa [hs] at h

/-- **Every step follows a rule.** -/
theorem step_of_step? {s' : Session} {e : Event} {effects : List Effect}
    (h : s.step? settings now e = some (s', effects)) : Step settings now s e s' effects := by
  unfold step? at h
  split at h
  next filename payload =>
    split at h <;> cases h
    next held => exact (rule_of_scan held filename payload).step (.inl trivial)
  next =>
    split at h <;> cases h
    next held => exact (Rule.close held).step (.inl trivial)
  next =>
    split at h <;> cases h
    next held => exact (Rule.letGo held).step (.inl trivial)
  next patience activity =>
    split at h
    · next c queue head =>
      split at h
      · cases h
      next released =>
        have step : Step settings now s .command _ _ :=
          step_of_takeCommand activity head (Bool.eq_false_iff.mpr released)
        rwa [Option.some.inj h] at step
    · cases h
  next patience activity =>
    split at h
    · cases h
    next free =>
      simp only [Bool.or_eq_true, not_or, Bool.not_eq_true, Bool.not_eq_false',
        List.isEmpty_iff] at free
      obtain ⟨⟨held, released⟩, queue⟩ := free
      have step : Step settings now s .released _ _ :=
        step_of_takeRelease activity held released queue
      rwa [Option.some.inj h] at step
  next bytes patience activity =>
    split at h
    · cases h
    next bytes_ne =>
      have step : Step settings now s (.read bytes) _ _ := step_of_takeBytes activity bytes_ne
      rwa [Option.some.inj h] at step
  next patience activity =>
    cases h
    exact (Rule.hangUp activity (.inl rfl)).step (.inr nofun)
  next patience activity =>
    cases h
    exact (Rule.hangUp activity (.inr rfl)).step (.inr nofun)
  next patience activity =>
    split at h <;> cases h
    next past => exact (Rule.lapse activity past).step (.inr nofun)
  next count left patience activity =>
    split at h <;> cases h
    next fits => exact (Rule.accept activity fits.1 fits.2).step (.inr nofun)
  next left patience activity =>
    split at h
    next empty =>
      subst empty
      have step : Step settings now s .flushed _ _ := (Rule.flush activity).listen id
      rwa [Option.some.inj h] at step
    next => cases h
  next breakage left patience activity =>
    cases h
    exact (Rule.failWrite activity).step (.inr nofun)
  next left patience activity =>
    split at h <;> cases h
    next past => exact (Rule.expireWrite activity past).step (.inr nofun)
  next activity =>
    cases h
    exact (Rule.shut activity).step (.inr nofun)
  next => cases h
  next activity =>
    cases h
    exact (Rule.destroy activity).step (.inr nofun)
  next => cases h

/-! ## Rules are steps -/

theorem step?_of_read {patience : Deadline} {bytes : Bytes}
    (activity : s.activity = .listening patience) (bytes_ne : bytes ≠ []) :
    s.step? settings now (.read bytes) = some (s.takeBytes settings now bytes) := by
  simp only [step?, activity, if_neg bytes_ne]

/-- A rule is all that happens, or all but for how the task goes on to listen. -/
theorem step?_of_rule {s' : Session} {e : Event} {fx : List Effect}
    (rule : Rule settings now s e s' fx) :
    ((e.IsUse ∨ s'.activity ≠ .listening none) ∧ s.step? settings now e = some (s', fx)) ∨
      ∃ t, s' = listening settings now t ∧ ¬e.IsUse ∧
        s.step? settings now e =
          some ((t.listen settings now).1, fx ++ (t.listen settings now).2) := by
  cases rule with
  | refuse held state =>
    refine .inl ⟨.inl trivial, ?_⟩
    cases known : s.state with
    | connected => exact absurd known state
    | _ => simp [step?, held, scan, known]
  | ready held state => exact .inl ⟨.inl trivial, by simp [step?, held, scan, state]⟩
  | orphan held state payload_ne activity =>
    exact .inl ⟨.inl trivial, by simp [step?, held, scan, state, payload_ne, hasEnded, activity]⟩
  | claim held state payload_ne activity =>
    exact .inl ⟨.inl trivial, by simp [step?, held, scan, state, payload_ne, hasEnded, activity]⟩
  | close held => exact .inl ⟨.inl trivial, by simp [step?, held]⟩
  | letGo held => exact .inl ⟨.inl trivial, by simp [step?, held]⟩
  | start activity head released state =>
    refine .inl ⟨.inr nofun, ?_⟩
    simp [step?, activity, head, released, takeCommand, begin, state]
  | turnDown activity head released state =>
    refine .inl ⟨.inr nofun, ?_⟩
    simp [step?, activity, head, released, takeCommand, begin, state]
  | obey activity head released =>
    refine .inl ⟨.inr nofun, ?_⟩
    simp only [step?, activity, head, released, takeCommand]
    rfl
  | release activity held released queue pending =>
    refine .inr ⟨_, rfl, id, ?_⟩
    simp [step?, activity, held, released, queue, takeRelease, pending]
  | abandon activity held released queue pending =>
    refine .inl ⟨.inr nofun, ?_⟩
    simp only [step?, activity, held, released, queue, takeRelease, pending]
    rfl
  | discard activity bytes_ne pending =>
    refine .inr ⟨_, rfl, id, ?_⟩
    rw [step?_of_read activity bytes_ne, takeBytes_of_discard pending]
    rfl
  | skip activity bytes_ne pending left =>
    refine .inr ⟨_, rfl, id, ?_⟩
    rw [step?_of_read activity bytes_ne, takeBytes_of_skip pending left]
    rfl
  | gather activity bytes_ne pending left isDone =>
    refine .inr ⟨_, rfl, id, ?_⟩
    rw [step?_of_read activity bytes_ne, takeBytes_of_gather pending left isDone]
    rfl
  | refuseOptions activity bytes_ne pending left isDone state outcome =>
    refine .inl ⟨.inr nofun, ?_⟩
    rw [step?_of_read activity bytes_ne, takeBytes_of_isDone pending left isDone, state]
    exact congrArg some (optionsDone_of_error outcome)
  | ask activity bytes_ne pending left isDone state outcome =>
    refine .inl ⟨.inr nofun, ?_⟩
    rw [step?_of_read activity bytes_ne, takeBytes_of_isDone pending left isDone, state]
    exact congrArg some (optionsDone_of_ok outcome)
  | @answer _ bytes r verdict activity bytes_ne pending left isDone state outcome reuse released =>
    refine .inr ⟨_, rfl, id, ?_⟩
    rw [step?_of_read activity bytes_ne, takeBytes_of_isDone pending left isDone, state]
    have again : (s.gathered settings bytes).scanDone settings now = _ := scanDone_eq _
    rw [if_pos ⟨reuse, by rw [outcome]; rfl, released⟩, outcome] at again
    have told : (s.gathered settings bytes).tell (.ok verdict) =
        [Effect.answered r.number (.ok verdict)] := by
      simp [tell, gathered, pending]
    rw [told] at again
    exact congrArg some again
  | answerLast activity bytes_ne pending left isDone state last =>
    refine .inl ⟨.inr nofun, ?_⟩
    rw [step?_of_read activity bytes_ne, takeBytes_of_isDone pending left isDone, state]
    exact congrArg some ((scanDone_eq _).trans (if_neg last))
  | answerLate activity bytes_ne pending left isDone state =>
    refine .inl ⟨.inr nofun, ?_⟩
    rw [step?_of_read activity bytes_ne, takeBytes_of_isDone pending left isDone]
    rcases state with state | state <;> rw [state]
  | hangUp activity event =>
    refine .inl ⟨.inr nofun, ?_⟩
    rcases event with rfl | rfl <;> simp only [step?, activity]
  | lapse activity past =>
    exact .inl ⟨.inr nofun, by simp only [step?, activity, if_pos past]⟩
  | accept activity pos le =>
    exact .inl ⟨.inr nofun, by simp only [step?, activity, if_pos (And.intro pos le)]⟩
  | flush activity =>
    refine .inr ⟨_, rfl, id, ?_⟩
    simp only [step?, activity, if_true]
    rfl
  | failWrite activity => exact .inl ⟨.inr nofun, by simp only [step?, activity]⟩
  | expireWrite activity past =>
    exact .inl ⟨.inr nofun, by simp only [step?, activity, if_pos past]⟩
  | shut activity => exact .inl ⟨.inr nofun, by simp only [step?, activity]⟩
  | destroy activity =>
    refine .inl ⟨.inr nofun, ?_⟩
    cases task : s.activity with
    | ended => exact absurd task activity
    | _ => simp only [step?, task]

/-- **Whatever follows a rule is a step.** -/
theorem step?_of_step {s' : Session} {e : Event} {effects : List Effect}
    (step : Step settings now s e s' effects) :
    s.step? settings now e = some (s', effects) := by
  cases step with
  | whole rule onTime =>
    rcases step?_of_rule rule with ⟨-, h⟩ | ⟨t, rfl, unused, h⟩
    · exact h
    · have inTime : InTime settings now := Option.isSome_iff_ne_none.mpr fun late =>
        onTime unused (congrArg Activity.listening late)
      rw [h, listen_of_inTime inTime, List.append_nil]
  | breakOff rule unused late =>
    rcases step?_of_rule rule with ⟨onTime, -⟩ | ⟨t, rfl, -, h⟩
    · exact absurd late (onTime.resolve_left unused)
    · rw [h, listen_of_late late]
      rfl

/-- A rule is all that happens, or the task has ended. -/
theorem Step.rule_or_ended {s' : Session} {e : Event} {effects : List Effect}
    (step : Step settings now s e s' effects) :
    Rule settings now s e s' effects ∨ s'.activity = .ended := by
  cases step with
  | whole rule => exact .inl rule
  | breakOff => exact .inr rfl

/-- A task only goes on to listen after such an event. -/
theorem Rule.resumes {t : Session} {e : Event} {effects : List Effect} {patience : Deadline}
    (rule : Rule settings now s e t effects) (unused : ¬e.IsUse)
    (listens : t.activity = .listening patience) : e.Resumes := by
  cases rule
  case release | discard | skip | gather | answer | flush => trivial
  case refuse | ready | orphan | claim | close | letGo => exact absurd trivial unused
  all_goals cases listens

/-- If the clock goes on when the task is to listen again, a rule is all that happens. -/
theorem Step.rule_of_resumes {s' : Session} {e : Event} {effects : List Effect}
    (step : Step settings now s e s' effects) (inTime : e.Resumes → InTime settings now) :
    Rule settings now s e s' effects := by
  cases step with
  | whole rule => exact rule
  | breakOff rule unused late =>
    have inTime := inTime (rule.resumes unused late)
    rcases step?_of_rule rule with ⟨onTime, -⟩ | ⟨t, rfl, -⟩
    · exact absurd late (onTime.resolve_left unused)
    · rw [InTime, Activity.listening.inj late] at inTime
      cases inTime

/-- While the clock goes on, a rule is all that happens. -/
theorem Step.rule {s' : Session} {e : Event} {effects : List Effect}
    (step : Step settings now s e s' effects) (inTime : InTime settings now) :
    Rule settings now s e s' effects :=
  step.rule_of_resumes fun _ => inTime

/-- Every step follows a rule as far as it goes. -/
theorem Step.exists_rule {s' : Session} {e : Event} {effects : List Effect}
    (step : Step settings now s e s' effects) : ∃ t fx, Rule settings now s e t fx := by
  cases step with
  | whole rule => exact ⟨_, _, rule⟩
  | breakOff rule => exact ⟨_, _, rule⟩

/-- A task that breaks off tells no outcome but those of the rule. -/
theorem Step.exists_rule_of_answered {s' : Session} {e : Event} {effects : List Effect} {n : Nat}
    {o : Outcome} (step : Step settings now s e s' effects) (answered : .answered n o ∈ effects) :
    ∃ t fx, Rule settings now s e t fx ∧ .answered n o ∈ fx := by
  cases step with
  | whole rule => exact ⟨_, _, rule, answered⟩
  | breakOff rule => exact ⟨_, _, rule, by simpa using answered⟩

/-- While the clock goes on, a rule is a step. -/
theorem Rule.of_inTime {s' : Session} {e : Event} {effects : List Effect}
    (rule : Rule settings now s e s' effects) (inTime : InTime settings now) :
    Step settings now s e s' effects := by
  refine .whole rule fun unused late => ?_
  rcases step?_of_rule rule with ⟨onTime, -⟩ | ⟨t, rfl, -⟩
  · exact absurd late (onTime.resolve_left unused)
  · rw [InTime, Activity.listening.inj late] at inTime
    cases inTime

end Icap.Session
