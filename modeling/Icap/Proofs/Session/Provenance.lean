import Icap.Proofs.Session.Run

/-!
# Where verdicts come from

A session writes two requests for a scan and reads two responses, while its users go on talking to
it and the connection delivers bytes in any pieces. A verdict that it answers with was read, whole
and fresh, behind the request that carried the very file of the scan.

* `OptionsAsked`, `OptionsAnswered`, `RespmodAsked` — how far a scan has come.
* `Phase` — what a session is about, and the history that has led there.
* `phase_of_run` — every run is in a phase.
* `verdictRead_of_answered` — the history of a verdict.
-/

namespace Icap

/-- The response that is fed with these pieces, in the order given, is complete with the last of
them and not before, and then comes to an outcome. -/
structure Response.Completes (v : Vendor) (limit : Nat) (ps : List Bytes) (outcome : Outcome) :
    Prop where
  isDone : (feedAll v (fresh limit) ps).isDone = true
  takeOutcome : (feedAll v (fresh limit) ps).takeOutcome.1 = outcome
  earlier : ∀ qs, qs <+: ps → qs ≠ ps → (feedAll v (fresh limit) qs).isDone = false

namespace Session

open Response (fresh feedAll Completes)
open Terminator (skipAll)

/-! ## The course of a scan -/

/-- A history of two parts. -/
def Then (P Q : List Entry → Prop) (es : List Entry) : Prop :=
  ∃ before part, es = before ++ part ∧ P before ∧ Q part

/-- A request has been written whole, and then flushed. -/
def Written (request : Bytes) (es : List Entry) : Prop :=
  ∃ part x, es = part ++ [x] ∧ sent part = request ∧ x.event = .flushed

section

variable (settings : Settings) (s₀ : Session) (r : ScanRequest)

/-- The OPTIONS request of a scan has been written, and nothing has happened since. -/
def OptionsAsked : List Entry → Prop :=
  Then (Started r) (Written (settings.agent.options s₀.route))

/-- The OPTIONS request of a scan has had a response without failure, and nothing has happened
since. What the session owed when the request had been written is not part of the response. -/
def OptionsAnswered (es : List Entry) : Prop :=
  ∃ s verdict, Then (fun before => OptionsAsked settings s₀ r before ∧ Run settings s₀ before s)
    (fun part => Completes settings.vendor s₀.response.limit (skipAll s.owed (reads part)).2
      (.ok verdict)) es

/-- The RESPMOD request that carries the file of a scan has been written, and nothing has happened
since. -/
def RespmodAsked : List Entry → Prop :=
  Then (OptionsAnswered settings s₀ r)
    (Written (settings.agent.respmod s₀.route r.filename r.payload s₀.reuse).bytes)

end

variable {settings : Settings} {s₀ s s' : Session} {es : List Entry} {x : Entry}
  {r : ScanRequest} {P Q Q' : List Entry → Prop}

theorem Then.nil (h : P es) (hQ : Q []) : Then P Q es := ⟨es, [], by simp, h, hQ⟩

theorem Then.concat (h : Then P Q es) (hQ : ∀ part, Q part → Q' (part ++ [x])) :
    Then P Q' (es ++ [x]) := by
  obtain ⟨before, part, rfl, hP, hpart⟩ := h
  exact ⟨before, part ++ [x], by simp, hP, hQ part hpart⟩

/-! ## Requests and responses -/

namespace Half

/-- The request of a half. -/
def request (settings : Settings) (s₀ : Session) (r : ScanRequest) : Half → Bytes
  | .options => settings.agent.options s₀.route
  | .respmod => (settings.agent.respmod s₀.route r.filename r.payload s₀.reuse).bytes

/-- What has happened before a half. -/
def Begun (settings : Settings) (s₀ : Session) (r : ScanRequest) : Half → List Entry → Prop
  | .options => Started r
  | .respmod => OptionsAnswered settings s₀ r

/-- What has happened before a session reads the response of a half. -/
def Asked (settings : Settings) (s₀ : Session) (r : ScanRequest) (half : Half) :
    List Entry → Prop :=
  Then (half.Begun settings s₀ r) (Written (half.request settings s₀ r))

end Half

/-! ### Reading -/

/-- What a session knows of the response that it has read in part, if so much was owed before. -/
structure Reading (settings : Settings) (s₀ : Session) (half : Half) (owed : Nat) (s : Session)
    (part : List Entry) : Prop where
  owed_eq : s.owed = (skipAll owed (reads part)).1
  response_eq : s.response =
    feedAll settings.vendor (fresh s₀.response.limit) (skipAll owed (reads part)).2
  incomplete : ∀ qs, qs <+: (skipAll owed (reads part)).2 →
    (feedAll settings.vendor (fresh s₀.response.limit) qs).isDone = false
  /-- Nothing is owed in front of the response to a RESPMOD request. -/
  whole : half = .respmod → skipAll owed (reads part) = (0, reads part)

namespace Reading

variable {half : Half} {owed : Nat} {part : List Entry} {bytes : Bytes}

theorem nil (response : s.response = fresh s₀.response.limit)
    (whole : half = .respmod → s.owed = 0) : Reading settings s₀ half s.owed s [] where
  owed_eq := rfl
  response_eq := response
  incomplete := by
    intro qs hqs
    rw [List.prefix_nil.mp hqs]
    rfl
  whole := fun h => by rw [whole h]; rfl

theorem congr (h : Reading settings s₀ half owed s part) (owed_eq : s'.owed = s.owed)
    (response_eq : s'.response = s.response) : Reading settings s₀ half owed s' part where
  owed_eq := owed_eq.trans h.owed_eq
  response_eq := response_eq.trans h.response_eq
  incomplete := h.incomplete
  whole := h.whole

/-- An event that reads nothing. -/
theorem concat (h : Reading settings s₀ half owed s part) (hx : x.event.read? = none) :
    Reading settings s₀ half owed s (part ++ [x]) := by
  have hr : reads (part ++ [x]) = reads part := by simp [reads, hx]
  constructor <;> rw [hr]
  · exact h.owed_eq
  · exact h.response_eq
  · exact h.incomplete
  · exact h.whole

theorem skipAll_reads (h : Reading settings s₀ half owed s part) (hx : x.event = .read bytes) :
    skipAll owed (reads (part ++ [x])) = ((Terminator.skip s.owed bytes).1,
      if (Terminator.skip s.owed bytes).2 = [] then (skipAll owed (reads part)).2
      else (skipAll owed (reads part)).2 ++ [(Terminator.skip s.owed bytes).2]) := by
  rw [h.owed_eq, ← Terminator.skipAll_concat, reads_append]
  simp [reads, hx, Event.read?]

/-- After a RESPMOD request, all of a read is part of the response. -/
theorem whole_concat (h : Reading settings s₀ half owed s part) (hx : x.event = .read bytes)
    (bytes_ne : bytes ≠ []) (hhalf : half = .respmod) :
    skipAll owed (reads (part ++ [x])) = (0, reads (part ++ [x])) := by
  have h0 : s.owed = 0 := by rw [h.owed_eq, h.whole hhalf]
  rw [h.skipAll_reads hx, h0, Terminator.skip_zero, if_neg bytes_ne, h.whole hhalf, reads_append]
  simp [reads, hx, Event.read?]

/-- A read inside what is owed. -/
theorem concat_skipped (h : Reading settings s₀ half owed s part) (hx : x.event = .read bytes)
    (bytes_ne : bytes ≠ []) (left : (Terminator.skip s.owed bytes).2 = []) :
    Reading settings s₀ half owed (s.skipped bytes) (part ++ [x]) := by
  have hs := h.skipAll_reads hx
  rw [if_pos left] at hs
  constructor
  · rw [hs]
    rfl
  · rw [hs]
    exact h.response_eq
  · rw [hs]
    exact h.incomplete
  · exact h.whole_concat hx bytes_ne

theorem response_gathered (h : Reading settings s₀ half owed s part) (hx : x.event = .read bytes)
    (left : (Terminator.skip s.owed bytes).2 ≠ []) :
    (s.gathered settings bytes).response = feedAll settings.vendor (fresh s₀.response.limit)
      (skipAll owed (reads (part ++ [x]))).2 := by
  rw [h.skipAll_reads hx, if_neg left, feedAll, List.foldl_append]
  simp only [gathered, h.response_eq, List.foldl_cons, List.foldl_nil]
  rfl

/-- A read with which the response is not complete. -/
theorem concat_gathered (h : Reading settings s₀ half owed s part) (hx : x.event = .read bytes)
    (bytes_ne : bytes ≠ []) (left : (Terminator.skip s.owed bytes).2 ≠ [])
    (isDone : (s.gathered settings bytes).response.isDone = false) :
    Reading settings s₀ half owed (s.gathered settings bytes) (part ++ [x]) := by
  have hr := h.response_gathered hx left
  constructor
  · rw [h.skipAll_reads hx]
    rfl
  · exact hr
  · intro qs hqs
    rw [h.skipAll_reads hx, if_neg left] at hqs hr
    rcases List.prefix_concat_iff.mp hqs with rfl | hqs
    · rw [← hr]
      exact isDone
    · exact h.incomplete qs hqs
  · exact h.whole_concat hx bytes_ne

/-- A read with which the response is complete. -/
theorem completes (h : Reading settings s₀ half owed s part) (hx : x.event = .read bytes)
    (left : (Terminator.skip s.owed bytes).2 ≠ [])
    (isDone : (s.gathered settings bytes).response.isDone = true) :
    Completes settings.vendor s₀.response.limit (skipAll owed (reads (part ++ [x]))).2
      (s.gathered settings bytes).response.takeOutcome.1 := by
  have hr := h.response_gathered hx left
  constructor
  · rw [← hr]
    exact isDone
  · rw [← hr]
  · intro qs hqs hne
    rw [h.skipAll_reads hx, if_neg left] at hqs hne
    exact h.incomplete qs ((List.prefix_concat_iff.mp hqs).resolve_left hne)

end Reading

/-! ## Phases -/

/-- What a session is about, and what has led there. -/
inductive Phase (settings : Settings) (s₀ : Session) (es : List Entry) (s : Session) : Prop
  /-- No scan will have a verdict any more. -/
  | gone (h : s.state = .disconnected ∨ s.activity = .ended)
  | idle {patience} (state : s.state = .connected) (activity : s.activity = .listening patience)
      (pending : s.pending = none) (queue : s.queue = [])
  /-- A scan has been started that the task has not taken. -/
  | claimed {r patience} (state : s.state = .awaitingOptions)
      (activity : s.activity = .listening patience) (pending : s.pending = none)
      (queue : s.queue = [.scan r]) (started : Started r es)
  | writing {r left patience} (half : Half) (state : s.state = half.state)
      (activity : s.activity = .writing left patience) (pending : s.pending = some r)
      (queue : s.queue = []) (response : s.response = fresh s₀.response.limit)
      (owed : half = .respmod → s.owed = 0)
      (history : Then (half.Begun settings s₀ r)
        (fun part => sent part ++ left = half.request settings s₀ r) es)
  | reading {r patience owed} (half : Half) (state : s.state = half.state)
      (activity : s.activity = .listening patience) (pending : s.pending = some r)
      (queue : s.queue = [])
      (history : Then (fun before => half.Asked settings s₀ r before ∧
        ∃ s, Run settings s₀ before s ∧ s.owed = owed) (Reading settings s₀ half owed s) es)

variable {now : Instant} {e : Event} {fx : List Effect} {patience : Deadline} {left : Bytes}
  {half : Half}

/-- A session that has come to its end stays there. -/
theorem gone_of_step (step : Step settings now s e s' fx)
    (h : s.state = .disconnected ∨ s.activity = .ended) :
    s'.state = .disconnected ∨ s'.activity = .ended := by
  rcases step.rule_or_ended with rule | ended
  · cases rule <;> simp_all [close, listening, skipped, gathered]
  · exact .inr ended

/-- A task that has ended reads nothing, and stays so. -/
theorem ended_of_step (step : Step settings now s e s' fx) (ended : s.activity = .ended) :
    s'.activity = .ended ∧ e.read? = none := by
  cases step with
  | whole rule => cases rule <;> simp_all [close, Event.read?]
  | breakOff rule unused =>
    cases rule <;> first | exact absurd trivial unused | simp_all

theorem phase_of_idle (rule : Rule settings now s e s' fx) (state : s.state = .connected)
    (activity : s.activity = .listening patience) (pending : s.pending = none)
    (queue : s.queue = []) : Phase settings s₀ (es ++ [⟨now, e, fx⟩]) s' := by
  cases rule
  case claim filename payload _ _ _ _ =>
    exact .claimed (r := ⟨s.commands + 1, filename, payload⟩) rfl activity pending (by simp [queue])
      (started_concat.mpr (.inr ⟨rfl, rfl⟩))
  case ready | letGo => exact .idle state activity pending queue
  case discard => exact .idle state rfl pending queue
  all_goals first | exact .gone (.inl rfl) | exact .gone (.inr rfl) | simp_all

theorem phase_of_claimed (kept : Kept s₀ s) (rule : Rule settings now s e s' fx)
    (state : s.state = .awaitingOptions) (activity : s.activity = .listening patience)
    (pending : s.pending = none) (queue : s.queue = [.scan r]) (started : Started r es) :
    Phase settings s₀ (es ++ [⟨now, e, fx⟩]) s' := by
  have started' := started.append [⟨now, e, fx⟩]
  cases rule
  case start _ r' _ _ head _ _ =>
    obtain ⟨rfl, rfl⟩ : r = r' ∧ _ := by simpa [queue] using head
    refine .writing .options state rfl rfl rfl ?_ (by simp) (.nil started' ?_)
    · simp [write, Response.reset, kept.limit]
    · simp [sent, effects, Half.request, kept.route]
  case refuse | letGo => exact .claimed state activity pending queue started'
  case discard => exact .claimed state rfl pending queue started'
  all_goals first | exact .gone (.inl rfl) | exact .gone (.inr rfl) | simp_all

theorem phase_of_writing (run : Run settings s₀ (es ++ [⟨now, e, fx⟩]) s')
    (rule : Rule settings now s e s' fx) (state : s.state = half.state)
    (activity : s.activity = .writing left patience) (pending : s.pending = some r)
    (queue : s.queue = []) (response : s.response = fresh s₀.response.limit)
    (owed : half = .respmod → s.owed = 0)
    (history : Then (half.Begun settings s₀ r)
      (fun part => sent part ++ left = half.request settings s₀ r) es) :
    Phase settings s₀ (es ++ [⟨now, e, fx⟩]) s' := by
  obtain ⟨state_ne, -⟩ := half.state_ne
  cases rule
  case refuse | letGo =>
    refine .writing half state activity pending queue response owed (history.concat ?_)
    intro part h
    simpa [sent, effects, Effect.bytes] using h
  case accept count left' patience' activity' pos le =>
    obtain ⟨rfl, rfl⟩ : left = left' ∧ patience = patience' := by simpa [activity] using activity'
    refine .writing half state rfl pending queue response owed (history.concat ?_)
    intro part h
    rw [← h]
    simp [sent, effects, Effect.bytes]
  case flush patience' activity' =>
    obtain ⟨rfl, rfl⟩ : left = [] ∧ patience = patience' := by simpa [activity] using activity'
    have asked : half.Asked settings s₀ r (es ++ [⟨now, .flushed, []⟩]) :=
      history.concat fun part h => ⟨part, _, rfl, by simpa using h, rfl⟩
    exact .reading half state rfl pending queue
      (.nil ⟨asked, _, run, rfl⟩ (.nil response owed))
  all_goals first | exact .gone (.inl rfl) | exact .gone (.inr rfl) | simp_all

theorem phase_of_reading {owed : Nat} (kept : Kept s₀ s)
    (rule : Rule settings now s e s' fx) (state : s.state = half.state)
    (activity : s.activity = .listening patience) (pending : s.pending = some r)
    (queue : s.queue = [])
    (history : Then (fun before => half.Asked settings s₀ r before ∧
        ∃ s, Run settings s₀ before s ∧ s.owed = owed) (Reading settings s₀ half owed s) es) :
    Phase settings s₀ (es ++ [⟨now, e, fx⟩]) s' := by
  obtain ⟨state_ne, -⟩ := half.state_ne
  cases rule
  case refuse | letGo =>
    exact .reading half state activity pending queue
      (history.concat fun part h => (h.concat rfl).congr rfl rfl)
  case release =>
    exact .reading half state rfl pending queue
      (history.concat fun part h => (h.concat rfl).congr rfl rfl)
  case skip bytes_ne _ left =>
    exact .reading half state rfl pending queue
      (history.concat fun part h => (h.concat_skipped rfl bytes_ne left).congr rfl rfl)
  case gather bytes_ne _ left isDone =>
    exact .reading half state rfl pending queue
      (history.concat fun part h => (h.concat_gathered rfl bytes_ne left isDone).congr rfl rfl)
  case ask bytes r' verdict _ bytes_ne pending' left isDone state' outcome =>
    obtain rfl : r = r' := by simpa [pending] using pending'
    cases half with
    | respmod => simp [state', Half.state] at state
    | options =>
      -- something of the response was left when all that was owed had been skipped
      refine .writing .respmod rfl rfl pending queue ?_ ?_ (.nil ?_ ?_)
      · simp [write, gathered, Response.reset, kept.limit]
      · exact fun _ => Terminator.skip_of_left left
      · obtain ⟨before, part, rfl, ⟨asked, s₁, run, rfl⟩, h⟩ := history
        have completes := h.completes (x := ⟨now, .read bytes, []⟩) rfl left isDone
        rw [outcome] at completes
        exact ⟨s₁, verdict, before, _, List.append_assoc .., ⟨asked, run⟩, completes⟩
      · simp [sent, effects, Half.request, kept.route, kept.reuse]
  case answer => exact .idle rfl rfl rfl queue
  all_goals first | exact .gone (.inl rfl) | exact .gone (.inr rfl) | simp_all

/-- **Every run is in a phase.** -/
theorem phase_of_run {number : Nat} {route : Route} {reuse : Bool} {t : Instant}
    (run : Run settings (start settings number route reuse t) es s) :
    Phase settings (start settings number route reuse t) es s := by
  induction run with
  | start => exact .idle rfl rfl rfl rfl
  | step run h ih =>
    have step := step_of_step? h
    rcases step.rule_or_ended with rule | ended
    · cases ih with
      | gone ended => exact .gone (gone_of_step step ended)
      | idle state activity pending queue => exact phase_of_idle rule state activity pending queue
      | claimed state activity pending queue started =>
        exact phase_of_claimed run.kept rule state activity pending queue started
      | writing half state activity pending queue response owed history =>
        exact phase_of_writing (run.step h) rule state activity pending queue response owed history
      | reading half state activity pending queue history =>
        exact phase_of_reading run.kept rule state activity pending queue history
    · exact .gone (.inr ended)

/-! ## Verdicts -/

/-- A response has been read, and with its last bytes a scan has been answered. -/
def VerdictRead (settings : Settings) (n : Nat) (v : Verdict) (es : List Entry) : Prop :=
  Completes settings.vendor settings.maxHeader (reads es) (.ok v) ∧
    ∃ x, es.getLast? = some x ∧ .answered n (.ok v) ∈ x.effects

theorem read_ne_nil {bytes : Bytes} (step : Step settings now s (.read bytes) s' fx) :
    bytes ≠ [] := by
  rintro rfl
  have h := step?_of_step step
  cases activity : s.activity <;> simp [step?, activity] at h

/-- A verdict is answered with when the response to a RESPMOD request is complete. -/
theorem read_of_answered {n : Nat} {v : Verdict} (step : Step settings now s e s' fx)
    (answered : .answered n (.ok v) ∈ fx) :
    ∃ patience r bytes, s.activity = .listening patience ∧ s.pending = some r ∧ r.number = n ∧
      s.state = .awaitingScan ∧ e = .read bytes ∧ (Terminator.skip s.owed bytes).2 ≠ [] ∧
      (s.gathered settings bytes).response.isDone = true ∧
      (s.gathered settings bytes).response.takeOutcome.1 = .ok v := by
  obtain ⟨t, told, rule, answered⟩ := step.exists_rule_of_answered answered
  cases rule
  case answer patience bytes r verdict activity _ pending left isDone state outcome _ _ =>
    obtain ⟨number, rfl⟩ : n = r.number ∧ v = verdict := by simpa using answered
    exact ⟨patience, r, bytes, activity, pending, number.symm, state, rfl, left, isDone, outcome⟩
  case answerLast patience bytes r activity _ pending left isDone state _ =>
    obtain ⟨r', pending', number, outcome⟩ : ∃ r', s.pending = some r' ∧ r'.number = n ∧
        (s.gathered settings bytes).response.takeOutcome.1 = .ok v := by
      simpa [Session.answered, gathered] using answered
    exact ⟨patience, r', bytes, activity, pending', number, state, rfl, left, isDone, outcome⟩
  all_goals simp at answered

variable {number : Nat} {route : Route} {reuse : Bool} {t : Instant}

/-- What a step answers with is the verdict of the phase that it ends. -/
theorem verdictRead_of_step {n : Nat} {v : Verdict} (phase : Phase settings s₀ es s)
    (limit : s₀.response.limit = settings.maxHeader) (step : Step settings now s e s' fx)
    (answered : .answered n (.ok v) ∈ fx) :
    ∃ r, r.number = n ∧ Then (RespmodAsked settings s₀ r) (VerdictRead settings n v)
      (es ++ [⟨now, e, fx⟩]) := by
  obtain ⟨patience, r, bytes, activity, pending, number, state, rfl, left, isDone, outcome⟩ :=
    read_of_answered step answered
  -- only a session that reads answers with a verdict
  cases phase with
  | gone ended => simp_all
  | idle state' => simp_all
  | claimed state' => simp_all
  | writing half _ activity' => simp_all
  | @reading r' _ _ half state' _ pending' _ history =>
    obtain rfl : r = r' := by simpa [pending] using pending'
    cases half with
    | options => simp [state, Half.state] at state'
    | respmod =>
      obtain ⟨before, part, rfl, ⟨asked, -⟩, h⟩ := history
      have completes := h.completes (x := ⟨now, .read bytes, fx⟩) rfl left isDone
      rw [outcome, h.whole_concat rfl (read_ne_nil step) rfl, limit] at completes
      exact ⟨r, number, before, _, List.append_assoc .., asked, completes,
        ⟨now, .read bytes, fx⟩, by simp, answered⟩

theorem RespmodAsked.started (h : RespmodAsked settings s₀ r es) : Started r es := by
  obtain ⟨before, _, rfl, ⟨_, _, before, _, rfl, ⟨⟨before, _, rfl, started, _⟩, _⟩, _⟩, _⟩ := h
  simp only [List.append_assoc]
  exact started.append _

/-- A verdict is that of some scan with its number. -/
theorem exists_verdictRead {n : Nat} {v : Verdict}
    (run : Run settings (start settings number route reuse t) es s)
    (answered : .answered n (.ok v) ∈ effects es) :
    ∃ r before after, r.number = n ∧ es = before ++ after ∧
      Then (RespmodAsked settings (start settings number route reuse t) r)
        (VerdictRead settings n v) before := by
  induction run with
  | start => cases answered
  | step run h ih =>
    rw [effects_append, List.mem_append, effects_singleton] at answered
    rcases answered with earlier | now
    · obtain ⟨r, before, after, number, rfl, read⟩ := ih earlier
      exact ⟨r, before, after ++ [_], number, List.append_assoc .., read⟩
    · obtain ⟨r, number, read⟩ := verdictRead_of_step (phase_of_run run) rfl (step_of_step? h) now
      exact ⟨r, _, [], number, (List.append_nil _).symm, read⟩

/-- **The history of a verdict.** If a scan that has been started is answered with a verdict, then
its OPTIONS request was written, the response to it was in order, the RESPMOD request that carries
its very file was written and flushed, and the verdict is what a fresh response comes to that is
fed with all that was read from then on, until it is complete. -/
theorem verdictRead_of_answered {v : Verdict}
    (run : Run settings (start settings number route reuse t) es s)
    (started : Started r es) (answered : .answered r.number (.ok v) ∈ effects es) :
    ∃ before after, es = before ++ after ∧
      Then (RespmodAsked settings (start settings number route reuse t) r)
        (VerdictRead settings r.number v) before := by
  obtain ⟨r', before, after, number, rfl, read⟩ := exists_verdictRead run answered
  obtain ⟨before, part, rfl, asked, verdict⟩ := read
  have started' : Started r' (before ++ part ++ after) := (asked.started.append part).append after
  obtain rfl : r' = r := run.eq_of_number_eq started' started number
  exact ⟨_, after, rfl, before, part, rfl, asked, verdict⟩

theorem verdictRead_of_answered_twoScans :
    ∃ es s, Run { userAgent := "u" } sample es s ∧ Started ⟨2, "b", [66]⟩ es ∧
      .answered 2 (.ok { disposition := some .clean, bytes := some [65] }) ∈ effects es ∧
      ∃ before after, es = before ++ after ∧
        Then (RespmodAsked { userAgent := "u" } sample ⟨2, "b", [66]⟩)
          (VerdictRead { userAgent := "u" } 2 { disposition := some .clean, bytes := some [65] })
          before := by
  have h : (play? { userAgent := "u" } sample twoScans).elim false (fun played =>
      Started ⟨2, "b", [66]⟩ played.1 ∧
        .answered 2 (.ok { disposition := some .clean, bytes := some [65] }) ∈ effects played.1) =
      true := by
    decide +kernel
  obtain ⟨es, s, run, found⟩ := exists_run_of_play? h
  obtain ⟨started, answered⟩ := by simpa using found
  exact ⟨es, s, run, started, answered, verdictRead_of_answered run started answered⟩

end Session

end Icap
