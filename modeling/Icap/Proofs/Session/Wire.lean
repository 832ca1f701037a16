import Icap.Proofs.Session.States

/-!
# What goes over the wire

A session writes the two requests of one scan, then those of the next one. Requests are written in
parts, the connection may fail in the middle of one, and users close the session whenever they like.
All that a connection has ever taken is whole exchanges, in the order of the scans, and the
beginning of one more.

* `accepted`, `exchange` — the scans of a history, and what each of them has to write.
* `InExchanges` — whole exchanges and the beginning of one more.
* `Wire` — how far the task of a session is with its exchanges.
* `wire_of_run` — every run keeps to its exchanges.
* `Continues` — what has happened before a byte is written.
* `Breaks`, `over_of_breaks` — what a session does not go on after.
* `exchanges_of_run` — the discipline as a whole.
-/

namespace Icap

/-- The scan that a command asks for. -/
def Command.request? : Command → Option ScanRequest
  | .scan r => some r
  | .close => none

namespace Session

open Response (fresh)

variable {settings : Settings} {now : Instant} {s₀ s s' : Session} {e : Event} {fx : List Effect}
  {es : List Entry} {x : Entry} {r : ScanRequest} {done : List ScanRequest}

/-! ## Exchanges -/

/-- The scan that has been accepted at an entry. -/
def Entry.accepted? (x : Entry) : Option ScanRequest :=
  match x.event, x.effects with
  | .scan filename payload, [.replied (.ok (.promised number))] => some ⟨number, filename, payload⟩
  | _, _ => none

/-- The scans that have been accepted, in their order. -/
def accepted (es : List Entry) : List ScanRequest := es.filterMap Entry.accepted?

@[simp] theorem accepted_append (es es' : List Entry) :
    accepted (es ++ es') = accepted es ++ accepted es' := List.filterMap_append

/-- An entry at which no scan is accepted. -/
theorem accepted_singleton (h : ∀ n, x.effects ≠ [.replied (.ok (.promised n))]) :
    accepted [x] = [] := by
  have none : x.accepted? = none := by
    unfold Entry.accepted?
    split
    next effects => exact absurd effects (h _)
    next => rfl
  simp [accepted, none]

section

variable (settings : Settings) (s₀ : Session)

/-- What a session writes for a scan: its OPTIONS request and its RESPMOD request. -/
def exchange (r : ScanRequest) : Bytes :=
  Half.options.request settings s₀ r ++ Half.respmod.request settings s₀ r

/-- What a session has written for a scan when it has written the request of a half. -/
def Half.upTo (r : ScanRequest) : Half → Bytes
  | .options => Half.options.request settings s₀ r
  | .respmod => exchange settings s₀ r

/-- The exchanges of scans, one after the other. -/
def exchanges (rs : List ScanRequest) : Bytes := rs.flatMap (exchange settings s₀)

/-- A connection has taken whole exchanges, in the order of the scans, and the beginning of one
more at most. -/
def InExchanges (es : List Entry) : Prop :=
  ∃ done rest part, accepted es = done ++ rest ∧ sent es = exchanges settings s₀ done ++ part ∧
    (part = [] ∨ ∃ r, rest.head? = some r ∧ part <+: exchange settings s₀ r)

end

theorem Half.upTo_prefix (half : Half) : half.upTo settings s₀ r <+: exchange settings s₀ r := by
  cases half with
  | options => exact List.prefix_append _ _
  | respmod => exact List.prefix_refl _

/-- An entry at which nothing is written. -/
theorem InExchanges.concat (h : InExchanges settings s₀ es) (quiet : sent [x] = []) :
    InExchanges settings s₀ (es ++ [x]) := by
  obtain ⟨done, rest, part, accepted_eq, sent_eq, incomplete⟩ := h
  refine ⟨done, rest ++ accepted [x], part, ?_, ?_, incomplete.imp_right ?_⟩
  · rw [accepted_append, accepted_eq, List.append_assoc]
  · rw [sent_append, quiet, List.append_nil, sent_eq]
  · rintro ⟨r, head, beginning⟩
    exact ⟨r, by rw [List.head?_append, head, Option.some_or], beginning⟩

/-! ## Scans that wait -/

/-- The scans that a session holds: the one its task works on, and those it has not taken. -/
def waiting (s : Session) : List ScanRequest :=
  s.pending.toList ++ s.queue.filterMap Command.request?

/-- The scan that a task works on is the first one. -/
theorem head?_waiting (pending : s.pending = some r) : s.waiting.head? = some r := by
  simp [waiting, pending]

theorem map_number_waiting (s : Session) : s.waiting.map ScanRequest.number = s.outstanding := by
  simp only [waiting, outstanding, inWork, queued, List.map_append, List.map_filterMap]
  congr 2
  funext c
  cases c <;> rfl

theorem Tidy.waiting_length_le (tidy : Tidy s) : s.waiting.length ≤ 1 := by
  have := tidy.one
  rwa [← map_number_waiting, List.length_map] at this

theorem waiting_close (s : Session) : s.close.waiting = s.waiting := by
  simp only [waiting, close]
  split <;> simp [Command.request?]

/-- The scans of a history are those that have been served and those that wait. -/
structure Served (s₀ : Session) (done : List ScanRequest) (es : List Entry) (s : Session) :
    Prop where
  accepted_eq : accepted es = done ++ s.waiting
  answered : ∀ r ∈ done, ∃ v, .answered r.number (.ok v) ∈ effects es
  reuse : done ≠ [] → s₀.reuse = true

/-- An entry at which no scan is accepted, and none is over. -/
theorem Served.concat (h : Served s₀ done es s) (quiet : accepted [x] = [])
    (waiting_eq : s'.waiting = s.waiting) : Served s₀ done (es ++ [x]) s' where
  accepted_eq := by rw [accepted_append, quiet, List.append_nil, waiting_eq, h.accepted_eq]
  answered := fun r hr => (h.answered r hr).imp fun v hv => by
    rw [effects_append]
    exact List.mem_append_left _ hv
  reuse := h.reuse

/-- A scan is accepted. -/
theorem Served.accept (h : Served s₀ done es s) (accepted_eq : accepted [x] = [r])
    (waiting_eq : s'.waiting = s.waiting ++ [r]) : Served s₀ done (es ++ [x]) s' where
  accepted_eq := by
    rw [accepted_append, accepted_eq, waiting_eq, h.accepted_eq, List.append_assoc]
  answered := fun r hr => (h.answered r hr).imp fun v hv => by
    rw [effects_append]
    exact List.mem_append_left _ hv
  reuse := h.reuse

/-- A scan has its verdict. -/
theorem Served.answer {v : Verdict} (h : Served s₀ done es s)
    (effects_eq : x.effects = [.answered r.number (.ok v)])
    (waiting_eq : s.waiting = r :: s'.waiting) (reuse : s₀.reuse = true) :
    Served s₀ (done ++ [r]) (es ++ [x]) s' where
  accepted_eq := by
    rw [accepted_append, accepted_singleton (by simp [effects_eq]), h.accepted_eq, waiting_eq]
    simp
  answered := by
    intro r' hr'
    rw [effects_append, effects_singleton, effects_eq]
    rcases List.mem_append.mp hr' with earlier | now
    · obtain ⟨v', hv'⟩ := h.answered r' earlier
      exact ⟨v', List.mem_append_left _ hv'⟩
    · obtain rfl := List.mem_singleton.mp now
      exact ⟨v, List.mem_append_right _ List.mem_cons_self⟩
  reuse := fun _ => reuse

/-! ## How far a task is -/

/-- How far the task of a session is with its exchanges. -/
inductive Wire (settings : Settings) (s₀ : Session) (es : List Entry) (s : Session) : Prop
  /-- It does not go on. -/
  | stopped (isOver : IsOver s) (exchanges : InExchanges settings s₀ es)
  /-- It works on no scan. -/
  | free {patience done} (served : Served s₀ done es s)
      (activity : s.activity = .listening patience) (pending : s.pending = none)
      (sent_eq : sent es = exchanges settings s₀ done)
  /-- It writes a request. -/
  | writing {r left patience done part} (half : Half) (served : Served s₀ done es s)
      (activity : s.activity = .writing left patience) (pending : s.pending = some r)
      (state : s.state = half.state ∨ s.state = .disconnected)
      (sent_eq : sent es = exchanges settings s₀ done ++ part)
      (part_eq : part ++ left = half.upTo settings s₀ r)
      (history : Then (half.Begun settings s₀ r)
        (fun part => sent part ++ left = half.request settings s₀ r) es)
  /-- It reads a response. -/
  | reading {r patience done} (half : Half) (served : Served s₀ done es s)
      (activity : s.activity = .listening patience) (pending : s.pending = some r)
      (state : s.state = half.state ∨ s.state = .disconnected)
      (sent_eq : sent es = exchanges settings s₀ done ++ half.upTo settings s₀ r)

/-- **A connection has taken whole exchanges and the beginning of one more.** -/
theorem Wire.inExchanges (wire : Wire settings s₀ es s) : InExchanges settings s₀ es := by
  cases wire with
  | stopped _ exchanges => exact exchanges
  | free served _ _ sent_eq =>
    exact ⟨_, _, [], served.accepted_eq, by rw [sent_eq, List.append_nil], .inl rfl⟩
  | @writing r left _ done part half served _ pending _ sent_eq part_eq =>
    refine ⟨_, _, part, served.accepted_eq, sent_eq, .inr ⟨r, head?_waiting pending, ?_⟩⟩
    exact (part_eq ▸ List.prefix_append part left).trans half.upTo_prefix
  | @reading r _ done half served _ pending _ sent_eq =>
    exact ⟨_, _, _, served.accepted_eq, sent_eq,
      .inr ⟨r, head?_waiting pending, half.upTo_prefix⟩⟩

/-! ### Steps -/

theorem Half.ne_connected (half : Half) {state : SessionState}
    (h : state = half.state ∨ state = .disconnected) : state ≠ .connected := by
  rcases h with rfl | rfl
  · exact half.state_ne.1
  · exact SessionState.noConfusion

/-- What has led to the writing of a request. -/
theorem Phase.history {half : Half} {left : Bytes} {patience : Deadline}
    (phase : Phase settings s₀ es s) (state : s.state = half.state)
    (activity : s.activity = .writing left patience) (pending : s.pending = some r) :
    Then (half.Begun settings s₀ r) (fun part => sent part ++ left = half.request settings s₀ r)
      es := by
  cases phase with
  | gone ended => rcases ended with ended | ended <;> cases half <;> simp_all [Half.state]
  | idle _ activity' => simp [activity] at activity'
  | claimed _ activity' => simp [activity] at activity'
  | reading _ _ activity' => simp [activity] at activity'
  | writing half' state' activity' pending' _ _ _ history =>
    obtain rfl : half = half' := by cases half <;> cases half' <;> simp_all [Half.state]
    obtain ⟨rfl, -⟩ : left = _ ∧ patience = _ := by simpa [activity] using activity'
    obtain rfl : r = _ := by simpa [pending] using pending'
    exact history

theorem sent_singleton : sent [⟨now, e, fx⟩] = fx.flatMap Effect.bytes := by simp [sent]

/-- A step with which a session goes on no more. -/
theorem sent_of_over (step : Step settings now s e s' fx) (isOver : IsOver s') :
    sent [⟨now, e, fx⟩] = [] := by
  rw [sent_singleton]
  by_contra wrote
  obtain ⟨count, left, patience, -, activity, -⟩ := exists_writing_of_step step wrote
  rcases isOver with isOver | isOver <;> cases isOver.symm.trans activity

/-- A session that goes on no more has written nothing at last. -/
theorem Wire.end (wire : Wire settings s₀ es s) (step : Step settings now s e s' fx)
    (isOver : IsOver s') : Wire settings s₀ (es ++ [⟨now, e, fx⟩]) s' :=
  .stopped isOver (wire.inExchanges.concat (sent_of_over step isOver))

theorem wire_of_free {patience : Deadline} (kept : Kept s₀ s)
    (phase : Phase settings s₀ (es ++ [⟨now, e, fx⟩]) s')
    (step : Step settings now s e s' fx) (rule : Rule settings now s e s' fx)
    (served : Served s₀ done es s)
    (activity : s.activity = .listening patience) (pending : s.pending = none)
    (sent_eq : sent es = exchanges settings s₀ done) :
    Wire settings s₀ (es ++ [⟨now, e, fx⟩]) s' := by
  have ends := (Wire.free served activity pending sent_eq).end step
  cases rule
  case refuse | ready | letGo =>
    refine .free (served.concat (accepted_singleton (by simp)) rfl) activity pending ?_
    simpa [sent, effects, Effect.bytes] using sent_eq
  case close =>
    refine .free (served.concat (accepted_singleton (by simp)) (waiting_close s)) activity
      pending ?_
    simpa [sent, effects] using sent_eq
  case claim =>
    refine .free (served.accept rfl ?_) activity pending ?_
    · simp [waiting, Command.request?]
    · simpa [sent, effects, Effect.bytes] using sent_eq
  case start patience r queue _ head _ state =>
    have part_eq : [] ++ settings.agent.options s.route = Half.options.upTo settings s₀ r := by
      rw [List.nil_append, kept.route, Half.upTo, Half.request]
    refine .writing .options (served.concat (accepted_singleton (by simp)) ?_) rfl rfl (.inl state)
      ?_ part_eq (phase.history state rfl rfl)
    · simp [waiting, write, pending, head, Command.request?]
    · simpa [sent, effects] using sent_eq
  case discard =>
    refine .free (served.concat (accepted_singleton (by simp)) rfl) rfl pending ?_
    simpa [sent, effects] using sent_eq
  all_goals first | exact ends (.inl rfl) | exact ends (.inr rfl) | simp_all

theorem wire_of_writing {half : Half} {left part : Bytes} {patience : Deadline}
    (step : Step settings now s e s' fx) (rule : Rule settings now s e s' fx)
    (served : Served s₀ done es s)
    (activity : s.activity = .writing left patience) (pending : s.pending = some r)
    (state : s.state = half.state ∨ s.state = .disconnected)
    (sent_eq : sent es = exchanges settings s₀ done ++ part)
    (part_eq : part ++ left = half.upTo settings s₀ r)
    (history : Then (half.Begun settings s₀ r)
      (fun part => sent part ++ left = half.request settings s₀ r) es) :
    Wire settings s₀ (es ++ [⟨now, e, fx⟩]) s' := by
  have ends := (Wire.writing half served activity pending state sent_eq part_eq history).end step
  cases rule
  case refuse | letGo =>
    refine .writing half (served.concat (accepted_singleton (by simp)) rfl) activity pending state
      ?_ part_eq (history.concat ?_)
    · simpa [sent, effects, Effect.bytes] using sent_eq
    · intro part h
      simpa [sent, effects, Effect.bytes] using h
  case close =>
    refine .writing half (served.concat (accepted_singleton (by simp)) (waiting_close s)) activity
      pending (.inr rfl) ?_ part_eq (history.concat ?_)
    · simpa [sent, effects] using sent_eq
    · intro part h
      simpa [sent, effects] using h
  case accept count left' patience' activity' _ _ =>
    obtain ⟨rfl, rfl⟩ : left = left' ∧ patience = patience' := by simpa [activity] using activity'
    have part_eq' : (part ++ left.take count) ++ left.drop count = half.upTo settings s₀ r := by
      rw [List.append_assoc, List.take_append_drop, part_eq]
    refine .writing half (served.concat (accepted_singleton (by simp)) rfl) rfl pending state ?_
      part_eq' (history.concat ?_)
    · rw [sent_append, sent_eq]
      simp [sent, effects, Effect.bytes]
    · intro part h
      rw [← h]
      simp [sent, effects, Effect.bytes]
  case flush patience' activity' =>
    obtain ⟨rfl, rfl⟩ : left = [] ∧ patience = patience' := by simpa [activity] using activity'
    refine .reading half (served.concat (accepted_singleton (by simp)) rfl) rfl pending state ?_
    rw [List.append_nil] at part_eq
    simpa [sent, effects, part_eq] using sent_eq
  case ready state' | orphan state' _ _ | claim state' _ _ =>
    exact absurd state' (half.ne_connected state)
  all_goals first | exact ends (.inl rfl) | exact ends (.inr rfl) | simp_all

theorem wire_of_reading {half : Half} {patience : Deadline} (kept : Kept s₀ s) (tidy : Tidy s)
    (phase : Phase settings s₀ (es ++ [⟨now, e, fx⟩]) s')
    (step : Step settings now s e s' fx) (rule : Rule settings now s e s' fx)
    (served : Served s₀ done es s)
    (activity : s.activity = .listening patience) (pending : s.pending = some r)
    (state : s.state = half.state ∨ s.state = .disconnected)
    (sent_eq : sent es = exchanges settings s₀ done ++ half.upTo settings s₀ r) :
    Wire settings s₀ (es ++ [⟨now, e, fx⟩]) s' := by
  have ends := (Wire.reading half served activity pending state sent_eq).end step
  cases rule
  case refuse | letGo =>
    refine .reading half (served.concat (accepted_singleton (by simp)) rfl) activity pending
      state ?_
    simpa [sent, effects, Effect.bytes] using sent_eq
  case close =>
    refine .reading half (served.concat (accepted_singleton (by simp)) (waiting_close s)) activity
      pending (.inr rfl) ?_
    simpa [sent, effects] using sent_eq
  case release | skip | gather =>
    refine .reading half (served.concat (accepted_singleton (by simp)) rfl) rfl pending state ?_
    simpa [sent, effects] using sent_eq
  case start head _ _ =>
    -- a session holds one scan at most
    have := tidy.waiting_length_le
    simp [waiting, pending, head, Command.request?] at this
  case ask bytes r' verdict _ _ pending' _ _ state' _ =>
    obtain rfl : r = r' := by simpa [pending] using pending'
    cases half with
    | respmod => simp [state', Half.state] at state
    | options =>
      have part_eq : Half.options.request settings s₀ r ++
          (settings.agent.respmod s.route r.filename r.payload s.reuse).bytes =
            Half.respmod.upTo settings s₀ r := by
        rw [kept.route, kept.reuse, Half.upTo, exchange, Half.request.eq_2]
      refine .writing .respmod (served.concat (accepted_singleton (by simp)) rfl) rfl pending
        (.inl rfl) ?_ part_eq (phase.history rfl rfl pending)
      simpa [sent, effects, Half.upTo] using sent_eq
  case answer bytes r' verdict _ _ pending' _ _ state' _ reuse _ =>
    obtain rfl : r = r' := by simpa [pending] using pending'
    cases half with
    | options => simp [state', Half.state] at state
    | respmod =>
      refine .free (served.answer rfl ?_ (kept.reuse ▸ reuse)) rfl rfl ?_
      · simp [waiting, pending, listening, answered, gathered]
      · simpa [sent, effects, Effect.bytes, exchanges, Half.upTo] using sent_eq
  case ready state' | orphan state' _ _ | claim state' _ _ =>
    exact absurd state' (half.ne_connected state)
  all_goals first | exact ends (.inl rfl) | exact ends (.inr rfl) | simp_all

variable {number : Nat} {route : Route} {reuse : Bool} {t : Instant}

/-- **Every run keeps to its exchanges.** -/
theorem wire_of_run (run : Run settings (start settings number route reuse t) es s) :
    Wire settings (start settings number route reuse t) es s := by
  induction run with
  | start => exact .free ⟨rfl, by simp, fun h => absurd rfl h⟩ rfl rfl rfl
  | step run h ih =>
    have step := step_of_step? h
    have phase := phase_of_run (run.step h)
    rcases step.rule_or_ended with rule | ended
    · cases ih with
      | stopped isOver exchanges =>
        obtain ⟨isOver', quiet⟩ := isOver.step step
        exact .stopped isOver' (exchanges.concat (sent_singleton.trans quiet))
      | free served activity pending sent_eq =>
        exact wire_of_free run.kept phase step rule served activity pending sent_eq
      | writing half served activity pending state sent_eq part_eq history =>
        exact wire_of_writing step rule served activity pending state sent_eq part_eq history
      | reading half served activity pending state sent_eq =>
        exact wire_of_reading run.kept (ledger_of_run run).tidy phase step rule served activity
          pending state sent_eq
    · exact ih.end step (.inr ended)

/-! ## Before a byte is written -/

/-- What has happened before bytes of a request are written: scans have been done, and of the next
one a part has been written. -/
structure Continues (settings : Settings) (s₀ : Session) (es : List Entry) (x : Entry)
    (done : List ScanRequest) (r : ScanRequest) (part : Bytes) : Prop where
  accepted_eq : ∃ rest, accepted es = done ++ r :: rest
  sent_eq : sent es = exchanges settings s₀ done ++ part
  beginning : part ++ sent [x] <+: exchange settings s₀ r
  /-- Beyond the OPTIONS request, the response to it has been read without failure. -/
  optionsAnswered : (Half.options.request settings s₀ r).length < (part ++ sent [x]).length →
    Then (OptionsAnswered settings s₀ r)
      (fun later => Half.options.request settings s₀ r ++ sent later = part) es
  /-- The scans that have been done have had their verdicts. -/
  answered : ∀ r' ∈ done, ∃ v, .answered r'.number (.ok v) ∈ effects es
  /-- A session that is not to be used again serves its first scan only. -/
  reuse : done ≠ [] → s₀.reuse = true

/-- Only a task that writes a request writes bytes. -/
theorem Wire.continues (wire : Wire settings s₀ es s) (step : Step settings now s e s' fx)
    (wrote : sent [⟨now, e, fx⟩] ≠ []) :
    ∃ done r part, Continues settings s₀ es ⟨now, e, fx⟩ done r part := by
  rw [sent_singleton] at wrote
  obtain ⟨count, left, patience, activity, -, rfl⟩ := exists_writing_of_step step wrote
  cases wire with
  | stopped isOver => rcases isOver with isOver | isOver <;> cases isOver.symm.trans activity
  | free _ activity' | reading _ _ activity' => cases activity'.symm.trans activity
  | @writing r left' _ done part half served activity' pending _ sent_eq part_eq history =>
    obtain ⟨rfl, -⟩ : left = left' ∧ _ := by simpa [activity'] using activity.symm
    obtain ⟨rest, waiting_eq⟩ := List.head?_eq_some_iff.mp (head?_waiting pending)
    have taken : sent [⟨now, e, [.sent (left.take count)]⟩] = left.take count := by
      simp [sent, Effect.bytes]
    have reached : part ++ left.take count <+: half.upTo settings s₀ r := by
      rw [← part_eq, List.prefix_append_right_inj]
      exact List.take_prefix count left
    refine ⟨done, r, part, ⟨rest, waiting_eq ▸ served.accepted_eq⟩, sent_eq,
      taken.symm ▸ reached.trans half.upTo_prefix, fun beyond => ?_, served.answered, served.reuse⟩
    rw [taken] at beyond
    cases half with
    | options => exact absurd reached.length_le (Nat.not_le.mpr beyond)
    | respmod =>
      obtain ⟨before, later, rfl, answered, later_eq⟩ := history
      refine ⟨before, later, rfl, answered, (List.append_left_inj left).mp ?_⟩
      rw [List.append_assoc, later_eq, part_eq, Half.upTo, exchange]

/-! ## After a failure -/

/-- What a session does not go on after. -/
inductive Breaks (s : Session) (x : Entry) : Prop
  /-- A scan has failed. -/
  | failed {n fault} (h : .answered n (.error fault) ∈ x.effects)
  /-- A scan has no outcome. -/
  | dropped {n} (h : .dropped n ∈ x.effects)
  /-- The task is told to close. -/
  | close (event : x.event = .command) (head : s.queue.head? = some .close)
  /-- The connection is gone. -/
  | gone (event : x.event = .endOfStream ∨ x.event = .readFailed ∨
      ∃ breakage, x.event = .writeFailed breakage)
  /-- The patience of the task is over. -/
  | late (event : x.event = .idle ∨ x.event = .writeExpired)

theorem over_of_breaks (step : Step settings now s e s' fx) (breaks : Breaks s ⟨now, e, fx⟩) :
    IsOver s' := by
  rcases step.rule_or_ended with rule | ended
  swap
  · exact .inr ended
  cases rule
  case turnDown | obey | abandon | refuseOptions | answerLast | answerLate | lapse | failWrite |
    expireWrite => exact .inl rfl
  case hangUp | shut | destroy => exact .inr rfl
  all_goals cases breaks <;> simp_all

/-- **A session that goes on no more writes nothing.** -/
theorem sent_of_over_run (run : Run settings s es s') (isOver : IsOver s) :
    IsOver s' ∧ sent es = [] := by
  induction run with
  | start => exact ⟨isOver, rfl⟩
  | step run h ih =>
    obtain ⟨isOver', quiet⟩ := ih.1.step (step_of_step? h)
    refine ⟨isOver', ?_⟩
    rw [sent_append, ih.2, List.nil_append, sent_singleton, quiet]

/-! ## The discipline as a whole -/

/-- **What goes over the wire.** At every point of a run:

* the connection has taken whole exchanges, in the order in which the scans were accepted, and the
  beginning of one more at most;
* bytes are written of the next exchange alone: after all earlier scans have had their verdicts, on
  a session that may be used again if there are any, and beyond the OPTIONS request after its
  response has been read without failure;
* with a scan that fails, a close that the task takes, an end of the connection, a failure or a
  timeout, nothing is written any more. -/
theorem exchanges_of_run (run : Run settings (start settings number route reuse t) es s) :
    InExchanges settings (start settings number route reuse t) es ∧
      (∀ x s', s.step? settings x.now x.event = some (s', x.effects) → sent [x] ≠ [] →
        ∃ done r part,
          Continues settings (start settings number route reuse t) es x done r part) ∧
      ∀ x s' later s'', s.step? settings x.now x.event = some (s', x.effects) → Breaks s x →
        Run settings s' later s'' → sent (x :: later) = [] := by
  have wire := wire_of_run run
  refine ⟨wire.inExchanges, fun x s' h => wire.continues (step_of_step? h),
    fun x s' later s'' h breaks run' => ?_⟩
  have step := step_of_step? h
  have isOver := over_of_breaks step breaks
  rw [← List.singleton_append, sent_append, sent_of_over step isOver,
    (sent_of_over_run run' isOver).2, List.append_nil]

/-! ### In the middle of a second scan -/

theorem exchanges_of_run_midway :
    ∃ es s, Run { userAgent := "u" } sample es s ∧ (accepted es).map ScanRequest.number = [1, 2] ∧
      (s.step? { userAgent := "u" } 18 (.accepted 76)).isSome = true ∧
      (s.step? { userAgent := "u" } 18 (.writeFailed .reset)).isSome = true ∧
      InExchanges { userAgent := "u" } sample es ∧
      (∀ x s', s.step? { userAgent := "u" } x.now x.event = some (s', x.effects) → sent [x] ≠ [] →
        ∃ done r part, Continues { userAgent := "u" } sample es x done r part) ∧
      ∀ x s' later s'', s.step? { userAgent := "u" } x.now x.event = some (s', x.effects) →
        Breaks s x → Run { userAgent := "u" } s' later s'' → sent (x :: later) = [] := by
  have h : (play? { userAgent := "u" } sample (twoScans.take 17)).elim false (fun played =>
      (accepted played.1).map ScanRequest.number = [1, 2] ∧
        (played.2.step? { userAgent := "u" } 18 (.accepted 76)).isSome ∧
        (played.2.step? { userAgent := "u" } 18 (.writeFailed .reset)).isSome) = true := by
    decide +kernel
  obtain ⟨es, s, run, found⟩ := exists_run_of_play? h
  obtain ⟨scans, accepted, fails⟩ := by simpa using found
  exact ⟨es, s, run, scans, accepted, fails, exchanges_of_run run⟩

end Session

end Icap
