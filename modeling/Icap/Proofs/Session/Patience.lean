import Icap.Proofs.Response.Faults
import Icap.Proofs.Session.States

/-!
# How long a session waits

While a session listens, all that it reads or does gives it new patience, so it gives up only if
nothing has come or gone for as long as it has patience. A request is another matter: the patience
for it begins with the request and does not grow while parts of it are taken. A long request on a
slow connection fails although it is under way.

* `Entry.IsTraffic`, `Forward` — bytes that come and go, and a clock that does not go back.
* `Timer`, `timer_of_run` — since when a session has been waiting.
* `Step.expiry` — which steps fail a scan for want of patience.
* `timeouts_of_run` — what has not happened for a while when a scan fails so.
* `exists_timedOut_of_traffic` — a request that fails while it is under way.
-/

namespace Icap

/-- The faults for want of patience. -/
def ScanFault.IsTimeout (fault : ScanFault) : Prop :=
  fault = .inactivity ∨ fault = .requestFailed .timedOut

theorem ScanFault.IsOfResponse.not_isTimeout {fault : ScanFault} (h : fault.IsOfResponse) :
    ¬fault.IsTimeout := by
  rintro (rfl | rfl) <;> exact h

namespace Session

variable {settings : Settings} {now : Instant} {s₀ s s' : Session} {e : Event} {fx : List Effect}
  {es later : List Entry} {x y : Entry} {r : ScanRequest} {n : Nat} {fault : ScanFault}

/-! ## Failures -/

theorem failsWell_of_rule (rule : Rule settings now s e s' fx) (h : s.response.FailsWell) :
    s'.response.FailsWell := by
  have fresh : s.response.reset.FailsWell := Response.failsWell_fresh _
  have fed {bytes : Bytes} : (s.gathered settings bytes).response.FailsWell :=
    Response.feed_failsWell h _
  have reset {bytes : Bytes} : (s.gathered settings bytes).response.reset.FailsWell :=
    Response.failsWell_fresh _
  cases rule
  case start => exact fresh
  case gather | refuseOptions | answerLate => exact fed
  case ask | answer | answerLast => exact reset
  all_goals exact h

theorem failsWell_of_step (step : Step settings now s e s' fx) (h : s.response.FailsWell) :
    s'.response.FailsWell := by
  cases step with
  | whole rule => exact failsWell_of_rule rule h
  | breakOff rule =>
    have well := failsWell_of_rule rule h
    exact well

/-- The response of a session fails for a fault of responses alone. -/
theorem failsWell_of_run (run : Run settings s₀ es s) (h : s₀.response.FailsWell) :
    s.response.FailsWell := by
  induction run with
  | start => exact h
  | step _ step ih => exact failsWell_of_step (step_of_step? step) ih

/-- How a scan fails for want of patience: while the session listens, or while it writes. -/
inductive Expiry (now : Instant) (s : Session) (e : Event) (n : Nat) : ScanFault → Prop
  | listening {patience} (event : e = .idle) (activity : s.activity = .listening patience)
      (past : patience.isPast now = true) : Expiry now s e n .inactivity
  | writing {left patience r} (event : e = .writeExpired)
      (activity : s.activity = .writing left patience) (past : patience.isPast now = true)
      (pending : s.pending = some r) (number : r.number = n) :
      Expiry now s e n (.requestFailed .timedOut)

/-- **A scan fails for want of patience when the patience of its session is over.** -/
theorem Step.expiry (step : Step settings now s e s' fx) (well : s.response.FailsWell)
    (answered : .answered n (.error fault) ∈ fx) (timeout : fault.IsTimeout) :
    Expiry now s e n fault := by
  -- the outcome of a response is no timeout
  have no_outcome {bytes : Bytes}
      (failed : (s.gathered settings bytes).response.takeOutcome.1 = .error fault) : False :=
    (Response.isOfResponse_of_takeOutcome (Response.feed_failsWell well _) failed).not_isTimeout
      timeout
  obtain ⟨t, told, rule, answered⟩ := step.exists_rule_of_answered answered
  cases rule
  case lapse activity past =>
    obtain ⟨r, pending, number, rfl⟩ := by simpa using answered
    exact .listening rfl activity past
  case expireWrite activity past =>
    obtain ⟨r, pending, number, rfl⟩ := by simpa using answered
    exact .writing rfl activity past pending number
  case refuseOptions outcome =>
    obtain ⟨r, -, -, rfl⟩ := by simpa using answered
    exact (no_outcome outcome).elim
  case answerLast =>
    obtain ⟨r, -, -, outcome⟩ := by simpa using answered
    exact (no_outcome outcome).elim
  case failWrite | answerLate =>
    obtain ⟨r, -, -, rfl⟩ := by simpa using answered
    simp [ScanFault.IsTimeout] at timeout
  case turnDown =>
    obtain ⟨-, rfl⟩ := by simpa using answered
    simp [ScanFault.IsTimeout] at timeout
  case hangUp =>
    obtain ⟨r, -, -, rfl⟩ := by simpa using answered
    unfold endFault at timeout
    split at timeout <;> simp [ScanFault.IsTimeout] at timeout
  all_goals simp at answered

/-! ## Patience -/

/-- Bytes have been read, or the connection has taken bytes. -/
def Entry.IsTraffic (x : Entry) : Prop := reads [x] ≠ [] ∨ sent [x] ≠ []

instance : DecidablePred Entry.IsTraffic := fun _ => inferInstanceAs (Decidable (_ ∨ _))

/-- The clock does not go back. -/
def Forward (es : List Entry) : Prop := es.Pairwise fun x y => x.now ≤ y.now

instance : DecidablePred Forward := fun es => inferInstanceAs (Decidable (es.Pairwise _))

/-- Nothing of a kind has happened for a while up to an instant. -/
def QuietFor (d : Duration) (now : Instant) (P : Entry → Prop) (es : List Entry) : Prop :=
  ∀ y ∈ es, P y → y.now + d ≤ now

instance (d : Duration) (now : Instant) (P : Entry → Prop) [DecidablePred P] (es : List Entry) :
    Decidable (QuietFor d now P es) := inferInstanceAs (Decidable (∀ y ∈ es, _))

/-- What a session does when it begins with the request of a half: it takes a command, or it reads
the last bytes of the response to the OPTIONS request. -/
def Half.BeginsAt : Half → Event → Prop
  | .options, e => e = .command
  | .respmod, e => ∃ bytes, e = .read bytes

/-- A request has been begun at an instant. Since then a part of it has been taken, and it has not
been flushed; nothing has been read. -/
def Underway (settings : Settings) (s₀ : Session) (half : Half) (r : ScanRequest) (left : Bytes)
    (begun : Instant) (es : List Entry) : Prop :=
  ∃ first y mid, es = first ++ y :: mid ∧ y.now = begun ∧ half.BeginsAt y.event ∧
    reads mid = [] ∧ (∀ z ∈ mid, z.event ≠ .flushed) ∧
    sent mid ++ left = half.request settings s₀ r

/-- Since when a session has been waiting. -/
inductive Timer (settings : Settings) (s₀ : Session) (es : List Entry) (s : Session) : Prop
  /-- It does not go on. -/
  | stopped (isOver : IsOver s)
  /-- It has been listening, without traffic. -/
  | listening {since}
      (activity : s.activity = .listening (Instant.after? since settings.inactivityTimeout))
      (quiet : ∀ y ∈ es, y.IsTraffic → y.now ≤ since)
  /-- It has been writing one request. -/
  | writing {half r left begun}
      (activity : s.activity = .writing left (Instant.after? begun settings.inactivityTimeout))
      (pending : s.pending = some r) (underway : Underway settings s₀ half r left begun es)

/-- An entry at which nothing is read and nothing taken. -/
theorem not_isTraffic (unread : e.read? = none) (quiet : fx.flatMap Effect.bytes = []) :
    ¬Entry.IsTraffic ⟨now, e, fx⟩ := by
  simp [Entry.IsTraffic, reads, sent, unread, quiet]

theorem Forward.left {es' : List Entry} (forward : Forward (es ++ es')) : Forward es :=
  (List.pairwise_append.mp forward).1

/-- All that has happened has happened by now. -/
theorem Forward.le (forward : Forward (es ++ [x])) (hy : y ∈ es) : y.now ≤ x.now :=
  (List.pairwise_append.mp forward).2.2 y hy x List.mem_cons_self

/-- A session that listens from now on. -/
theorem timer_of_listen (forward : Forward (es ++ [⟨now, e, fx⟩]))
    (activity : s.activity = .listening (Instant.after? now settings.inactivityTimeout)) :
    Timer settings s₀ (es ++ [⟨now, e, fx⟩]) s := by
  refine .listening activity fun y hy _ => ?_
  rcases List.mem_append.mp hy with hy | hy
  · exact forward.le hy
  · rw [List.mem_singleton.mp hy]

/-- A session that writes a request from now on. -/
theorem timer_of_write (half : Half) (begins : half.BeginsAt e)
    (activity : s.activity = .writing (half.request settings s₀ r)
      (Instant.after? now settings.inactivityTimeout)) (pending : s.pending = some r) :
    Timer settings s₀ (es ++ [⟨now, e, fx⟩]) s :=
  .writing activity pending ⟨es, _, [], rfl, rfl, begins, rfl, by simp, rfl⟩

/-- A request is still under way after an entry at which a part of it is taken. -/
theorem Underway.concat {half : Half} {left left' : Bytes} {begun : Instant}
    (h : Underway settings s₀ half r left begun es) (unread : e.read? = none)
    (unflushed : e ≠ .flushed) (taken : left = fx.flatMap Effect.bytes ++ left') :
    Underway settings s₀ half r left' begun (es ++ [⟨now, e, fx⟩]) := by
  obtain ⟨first, y, mid, rfl, begun_eq, begins, reads_eq, flushes, sent_eq⟩ := h
  refine ⟨first, y, mid ++ [⟨now, e, fx⟩], by simp, begun_eq, begins, ?_, ?_, ?_⟩
  · rw [reads_append, reads_eq]
    simp [reads, unread]
  · intro z hz
    rcases List.mem_append.mp hz with hz | hz
    · exact flushes z hz
    · rw [List.mem_singleton.mp hz]
      exact unflushed
  · rw [← sent_eq, taken]
    simp [sent]

/-- **A session that listens gets new patience with all that it reads.** -/
theorem timer_of_listening {since : Instant} (kept : Kept s₀ s)
    (forward : Forward (es ++ [⟨now, e, fx⟩])) (rule : Rule settings now s e s' fx)
    (activity : s.activity = .listening (Instant.after? since settings.inactivityTimeout))
    (quiet : ∀ y ∈ es, y.IsTraffic → y.now ≤ since) :
    Timer settings s₀ (es ++ [⟨now, e, fx⟩]) s' := by
  -- what users do meanwhile is no traffic, and leaves the patience as it is
  have waits (same : s'.activity = s.activity) (unread : e.read? = none)
      (idle : fx.flatMap Effect.bytes = []) : Timer settings s₀ (es ++ [⟨now, e, fx⟩]) s' := by
    refine .listening (same.trans activity) fun y hy traffic => ?_
    rcases List.mem_append.mp hy with hy | hy
    · exact quiet y hy traffic
    · rw [List.mem_singleton.mp hy] at traffic
      exact absurd traffic (not_isTraffic unread idle)
  cases rule
  case refuse | ready | claim | letGo | close => exact waits rfl rfl rfl
  case orphan activity' => cases activity.symm.trans activity'
  case start =>
    exact timer_of_write .options rfl (by simp [write, Half.request, kept.route]) rfl
  case ask pending _ _ _ _ =>
    refine timer_of_write .respmod ⟨_, rfl⟩ ?_ pending
    simp [write, Half.request, kept.route, kept.reuse]
  case release | discard | skip | gather | answer | flush => exact timer_of_listen forward rfl
  case accept activity' _ _ => cases activity.symm.trans activity'
  all_goals first | exact .stopped (.inl rfl) | exact .stopped (.inr rfl)

/-- **A session that writes has the patience that it had when the request was begun.** -/
theorem timer_of_writing {half : Half} {left : Bytes} {begun : Instant}
    (forward : Forward (es ++ [⟨now, e, fx⟩])) (rule : Rule settings now s e s' fx)
    (activity : s.activity = .writing left (Instant.after? begun settings.inactivityTimeout))
    (pending : s.pending = some r) (underway : Underway settings s₀ half r left begun es) :
    Timer settings s₀ (es ++ [⟨now, e, fx⟩]) s' := by
  cases rule
  case refuse | ready | claim | letGo | close =>
    exact .writing activity pending (underway.concat rfl (by simp) rfl)
  case accept count left' patience activity' _ _ =>
    obtain ⟨rfl, rfl⟩ : left = left' ∧ _ = patience := by simpa [activity] using activity'
    refine .writing rfl pending (underway.concat rfl (by simp) ?_)
    simp [Effect.bytes]
  case flush => exact timer_of_listen forward rfl
  case failWrite | expireWrite => exact .stopped (.inl rfl)
  case destroy => exact .stopped (.inr rfl)
  all_goals simp_all

theorem Timer.of_listening {patience : Deadline} (timer : Timer settings s₀ es s)
    (activity : s.activity = .listening patience) :
    ∃ since, patience = Instant.after? since settings.inactivityTimeout ∧
      ∀ y ∈ es, y.IsTraffic → y.now ≤ since := by
  cases timer with
  | stopped isOver => rcases isOver with isOver | isOver <;> cases activity.symm.trans isOver
  | writing activity' => cases activity.symm.trans activity'
  | listening activity' quiet =>
    exact ⟨_, Activity.listening.inj (activity.symm.trans activity'), quiet⟩

theorem Timer.of_writing {left : Bytes} {patience : Deadline} (timer : Timer settings s₀ es s)
    (activity : s.activity = .writing left patience) (pending : s.pending = some r) :
    ∃ half begun, patience = Instant.after? begun settings.inactivityTimeout ∧
      Underway settings s₀ half r left begun es := by
  cases timer with
  | stopped isOver => rcases isOver with isOver | isOver <;> cases activity.symm.trans isOver
  | listening activity' => cases activity.symm.trans activity'
  | writing activity' pending' underway =>
    obtain ⟨rfl, same⟩ := Activity.writing.inj (activity.symm.trans activity')
    obtain rfl := Option.some.inj (pending.symm.trans pending')
    exact ⟨_, _, same, underway⟩

variable {number : Nat} {route : Route} {reuse : Bool} {t : Instant}

/-- **Since when a session has been waiting**, at every point of a run. -/
theorem timer_of_run (run : Run settings (start settings number route reuse t) es s)
    (forward : Forward es) : Timer settings (start settings number route reuse t) es s := by
  induction run with
  | start => exact .listening rfl (by simp)
  | step run h ih =>
    have step := step_of_step? h
    rcases step.rule_or_ended with rule | ended
    · cases ih forward.left with
      | stopped isOver => exact .stopped (isOver.step step).1
      | listening activity quiet => exact timer_of_listening run.kept forward rule activity quiet
      | writing activity pending underway =>
        exact timer_of_writing forward rule activity pending underway
    · exact .stopped (.inr ended)

/-! ## Timeouts -/

theorem add_le_of_isPast {since : Instant} {d : Duration}
    (past : Deadline.isPast (Instant.after? since d) now = true) : since + d ≤ now := by
  simp only [Deadline.isPast, Instant.after?] at past
  split at past
  · simpa using past
  · cases past

/-- Nothing is read and nothing taken when a scan fails for want of patience. -/
theorem Expiry.not_isTraffic (expiry : Expiry now s e n fault)
    (step : Step settings now s e s' fx) : ¬Entry.IsTraffic ⟨now, e, fx⟩ := by
  cases expiry with
  | listening event activity =>
    subst event
    refine Session.not_isTraffic rfl ?_
    by_contra wrote
    obtain ⟨_, _, _, writing, -⟩ := exists_writing_of_step step wrote
    cases writing.symm.trans activity
  | writing event =>
    subst event
    cases step with
    | whole rule =>
      cases rule with
      | expireWrite => exact Session.not_isTraffic rfl (by simp [Effect.bytes])
      | hangUp _ gone => simp at gone
    | breakOff rule _ late =>
      cases rule with
      | expireWrite => cases late
      | hangUp _ gone => simp at gone

/-- Nothing has been read since a request that is under way was begun. -/
theorem Underway.le_begun {half : Half} {left : Bytes} {begun : Instant}
    (h : Underway settings s₀ half r left begun es) (forward : Forward es) (hy : y ∈ es)
    (read : reads [y] ≠ []) : y.now ≤ begun := by
  obtain ⟨first, z, mid, rfl, rfl, -, reads_eq, -⟩ := h
  rw [List.append_cons] at forward hy
  rcases List.mem_append.mp hy with hy | hy
  · rcases List.mem_append.mp hy with hy | hy
    · exact forward.left.le hy
    · rw [List.mem_singleton.mp hy]
  · refine absurd ?_ read
    have unread : y.event.read? = none := List.filterMap_eq_nil_iff.mp reads_eq y hy
    simp [reads, unread]

/-- **What has not happened for a while when a scan fails for want of patience.** If the clock does
not go back, then, for as long as the session has patience:

* nothing has been read and nothing has been taken, if the scan fails for inactivity;
* nothing has been read, if it fails because its request could not be sent in time; and this request
  was begun before that, a part of it at most has been taken since, and it has not been flushed. -/
theorem timeouts_of_run (run : Run settings (start settings number route reuse t)
      (es ++ x :: later) s) (forward : Forward (es ++ [x])) (n : Nat) :
    (.answered n (.error .inactivity) ∈ x.effects →
      QuietFor settings.inactivityTimeout x.now Entry.IsTraffic (es ++ [x])) ∧
      (.answered n (.error (.requestFailed .timedOut)) ∈ x.effects →
        QuietFor settings.inactivityTimeout x.now (fun y => reads [y] ≠ []) (es ++ [x]) ∧
          ∃ half r left begun, r.number = n ∧ begun + settings.inactivityTimeout ≤ x.now ∧
            Underway settings (start settings number route reuse t) half r left begun es) := by
  obtain ⟨s₁, s₂, before, step, -⟩ := run.exists_of_cons
  have step := step_of_step? step
  have timer := timer_of_run before forward.left
  have well := failsWell_of_run before (Response.failsWell_fresh _)
  obtain ⟨now, e, fx⟩ := x
  constructor
  · intro answered y hy traffic
    have expiry := step.expiry well answered (.inl rfl)
    have still := expiry.not_isTraffic step
    obtain ⟨-, activity, past⟩ := expiry
    obtain ⟨since, rfl, quiet⟩ := timer.of_listening activity
    rcases List.mem_append.mp hy with hy | hy
    · exact Nat.le_trans (Nat.add_le_add_right (quiet y hy traffic) _) (add_le_of_isPast past)
    · rw [List.mem_singleton.mp hy] at traffic
      exact absurd traffic still
  · intro answered
    have expiry := step.expiry well answered (.inr rfl)
    have still := expiry.not_isTraffic step
    obtain ⟨-⟩ | ⟨-, activity, past, pending, rfl⟩ := expiry
    obtain ⟨half, begun, rfl, underway⟩ := timer.of_writing activity pending
    have ended := add_le_of_isPast past
    refine ⟨fun y hy read => ?_, half, _, _, begun, rfl, ended, underway⟩
    rcases List.mem_append.mp hy with hy | hy
    · have le := underway.le_begun forward.left hy read
      exact Nat.le_trans (Nat.add_le_add_right le _) ended
    · rw [List.mem_singleton.mp hy] at read
      exact absurd (.inl read) still

/-! ### A slow connection -/

/-- A run that goes through events, and what has been found out about its last event. -/
theorem exists_last_of_play? (settings : Settings) (s : Session)
    (events : List (Instant × Event)) (p : List Entry → Entry → Bool)
    (h : (play? settings s events).elim false
      (fun played => played.1.getLast?.elim false (p played.1.dropLast)) = true) :
    ∃ es x s', Run settings s (es ++ [x]) s' ∧ p es x = true := by
  obtain ⟨es, s', run, found⟩ := exists_run_of_play? (P := fun played =>
    played.1.getLast?.elim false (p played.1.dropLast)) h
  rcases List.eq_nil_or_concat' es with rfl | ⟨es, x, rfl⟩
  · cases found
  · exact ⟨es, x, s', run, by simpa using found⟩

/-- So many seconds. -/
def seconds (n : Nat) : Instant := n * 1000000000

/-- A request that is taken in part, and in part only, for as long as the session has patience. -/
def slowly : List (Instant × Event) :=
  [(seconds 1, .scan "a" [65]), (seconds 1, .command), (seconds 20, .accepted 40),
    (seconds 31, .writeExpired)]

/-- A request that is taken whole, and never answered. -/
def unanswered : List (Instant × Event) :=
  [(seconds 1, .scan "a" [65]), (seconds 1, .command), (seconds 20, .accepted 82),
    (seconds 20, .flushed), (seconds 50, .idle)]

/-- One scan fails for inactivity, and one because its request could not be sent in time. -/
theorem timeouts_of_run_twice :
    (∃ es x s, Run { userAgent := "u" } sample (es ++ [x]) s ∧ Forward (es ++ [x]) ∧
      .answered 1 (.error .inactivity) ∈ x.effects ∧
      QuietFor (seconds 30) x.now Entry.IsTraffic (es ++ [x])) ∧
    ∃ es x s, Run { userAgent := "u" } sample (es ++ [x]) s ∧ Forward (es ++ [x]) ∧
      .answered 1 (.error (.requestFailed .timedOut)) ∈ x.effects ∧
      QuietFor (seconds 30) x.now (fun y => reads [y] ≠ []) (es ++ [x]) ∧
      ∃ half r left begun, r.number = 1 ∧ begun + seconds 30 ≤ x.now ∧
        Underway { userAgent := "u" } sample half r left begun es := by
  constructor
  · obtain ⟨es, x, s, run, found⟩ := exists_last_of_play? { userAgent := "u" } sample unanswered
      (fun es x => Forward (es ++ [x]) ∧ .answered 1 (.error .inactivity) ∈ x.effects)
      (by decide +kernel)
    obtain ⟨forward, answered⟩ := of_decide_eq_true found
    exact ⟨es, x, s, run, forward, answered, (timeouts_of_run run forward 1).1 answered⟩
  · obtain ⟨es, x, s, run, found⟩ := exists_last_of_play? { userAgent := "u" } sample slowly
      (fun es x => Forward (es ++ [x]) ∧
        .answered 1 (.error (.requestFailed .timedOut)) ∈ x.effects)
      (by decide +kernel)
    obtain ⟨forward, answered⟩ := of_decide_eq_true found
    exact ⟨es, x, s, run, forward, answered, (timeouts_of_run run forward 1).2 answered⟩

/-- **A request fails for want of time although it is under way.** Eleven seconds before it fails,
bytes of it have been taken. -/
theorem exists_timedOut_of_traffic :
    ∃ es x s, Run { userAgent := "u" } sample (es ++ [x]) s ∧ Forward (es ++ [x]) ∧
      .answered 1 (.error (.requestFailed .timedOut)) ∈ x.effects ∧
      ¬QuietFor ({ userAgent := "u" } : Settings).inactivityTimeout x.now Entry.IsTraffic
        (es ++ [x]) := by
  obtain ⟨es, x, s, run, found⟩ := exists_last_of_play? { userAgent := "u" } sample slowly
    (fun es x => Forward (es ++ [x]) ∧
      .answered 1 (.error (.requestFailed .timedOut)) ∈ x.effects ∧
      ¬QuietFor ({ userAgent := "u" } : Settings).inactivityTimeout x.now Entry.IsTraffic
        (es ++ [x]))
    (by decide +kernel)
  exact ⟨es, x, s, run, of_decide_eq_true found⟩

end Session

end Icap
