import Icap.Proofs.Session.Provenance
import Icap.Proofs.Session.Settlement

/-!
# What the state of a session tells

Users see of a session the state it is in, and pools decide by it who may use the session. The state
is written by users, who start scans and close the session, and by its task, and nobody looks at
what it was before. All the same a session that is disconnected stays so, and each state says what
the task is about.

* `IsOver` — a task that does nothing any more but come to its end.
* `disconnected_of_run` — a session that is disconnected stays so.
* `CutsOff`, `CutOff` — a task may end without a word: something destroys it, or the clock ends
  before its patience.
* `disconnected_of_over_run` — a task only comes to its end on a session that is disconnected,
  unless it is cut off.
* `RespmodBegun`, `respmodBegun_of_run` — what has been written of a scan in state `awaitingScan`.
* `states_of_run` — what each state tells, at every point of a run.
-/

namespace Icap.Session

variable {settings : Settings} {now : Instant} {s₀ s s' : Session} {e : Event} {fx : List Effect}
  {es es' : List Entry} {number : Nat} {route : Route} {reuse : Bool} {t : Instant}

/-- What no step changes of a session. -/
theorem same_of_step (step : Step settings now s e s' fx) :
    s'.number = s.number ∧ s'.route = s.route ∧ (e ≠ .letGo → s'.held = s.held) := by
  rcases step with ⟨rule, -⟩ | ⟨rule, -, -⟩
  all_goals cases rule <;> simp [close, listening, write, skipped, gathered, answered]

/-! ## Disconnected for good -/

theorem disconnected_of_step (step : Step settings now s e s' fx) (h : s.state = .disconnected) :
    s'.state = .disconnected := by
  rcases step with ⟨rule, -⟩ | ⟨rule, -, -⟩
  all_goals cases rule <;> simp_all [close, listening, skipped, gathered]

/-- **A session that is disconnected stays so.** -/
theorem disconnected_of_run (run : Run settings s es s') (h : s.state = .disconnected) :
    s'.state = .disconnected := by
  induction run with
  | start => exact h
  | step run step ih => exact disconnected_of_step (step_of_step? step) ih

/-- A session that is disconnected has no verdict for any scan. -/
theorem not_answered_of_disconnected (run : Run settings s es s') (h : s.state = .disconnected)
    (n : Nat) (v : Verdict) : .answered n (.ok v) ∉ effects es := by
  induction run with
  | start => exact List.not_mem_nil
  | step run step ih =>
    rw [effects_append, effects_singleton, List.mem_append, not_or]
    refine ⟨ih, fun answered => ?_⟩
    obtain ⟨-, -, -, -, -, -, awaiting, -⟩ := read_of_answered (step_of_step? step) answered
    cases (disconnected_of_run run h).symm.trans awaiting

/-! ## The end of a task -/

/-- Whether the task of a session does nothing any more but come to its end. -/
def IsOver (s : Session) : Prop := s.activity = .closing ∨ s.activity = .ended

theorem IsOver.step (isOver : IsOver s) (step : Step settings now s e s' fx) :
    IsOver s' ∧ fx.flatMap Effect.bytes = [] := by
  constructor
  · rcases step.rule_or_ended with rule | ended
    · clear step
      cases rule
      case refuse | ready | orphan | claim | close | letGo => exact isOver
      case shut | destroy => exact .inr rfl
      all_goals rcases isOver with isOver | isOver <;> simp_all
    · exact .inr ended
  · by_contra wrote
    obtain ⟨count, left, patience, activity, -⟩ := exists_writing_of_step step wrote
    rcases isOver with isOver | isOver <;> cases isOver.symm.trans activity

/-- An event with which a task may end without a word: something destroys it from outside, or it is
to listen again and the clock ends before its patience. -/
def CutsOff (settings : Settings) (now : Instant) (e : Event) : Prop :=
  e = .destroyed ∨ e.Resumes ∧ ¬InTime settings now

instance (settings : Settings) (now : Instant) (e : Event) : Decidable (CutsOff settings now e) :=
  inferInstanceAs (Decidable (_ ∨ _))

/-- A task may have ended without a word. -/
def CutOff (settings : Settings) (es : List Entry) : Prop :=
  ∃ x ∈ es, CutsOff settings x.now x.event

instance (settings : Settings) (es : List Entry) : Decidable (CutOff settings es) :=
  inferInstanceAs (Decidable (∃ x ∈ es, _))

theorem CutOff.append (h : CutOff settings es) (es' : List Entry) :
    CutOff settings (es ++ es') := by
  obtain ⟨x, hx, cut⟩ := h
  exact ⟨x, List.mem_append_left _ hx, cut⟩

/-- While the clock goes on, a task that is not destroyed only comes to its end on a session that is
disconnected. -/
theorem disconnected_of_over_rule (rule : Rule settings now s e s' fx) (alive : e ≠ .destroyed)
    (h : IsOver s → s.state = .disconnected) (isOver : IsOver s') : s'.state = .disconnected := by
  cases rule
  case refuse | ready | letGo => exact h isOver
  case close | orphan => rfl
  case claim _ state _ _ => cases state.symm.trans (h isOver)
  case shut activity => exact h (.inl activity)
  case destroy => exact absurd rfl alive
  case turnDown | obey | abandon | refuseOptions | answerLast | answerLate | hangUp | lapse |
    failWrite | expireWrite => rfl
  all_goals rcases isOver with isOver | isOver <;> cases isOver

/-- Unless it is cut off, a task only comes to its end on a session that is disconnected. -/
theorem disconnected_of_over_step (step : Step settings now s e s' fx)
    (spared : ¬CutsOff settings now e) (h : IsOver s → s.state = .disconnected)
    (isOver : IsOver s') : s'.state = .disconnected := by
  obtain ⟨alive, inTime⟩ := not_or.mp spared
  have rule := step.rule_of_resumes fun resumes => not_not.mp fun late => inTime ⟨resumes, late⟩
  exact disconnected_of_over_rule rule alive h isOver

/-- **A task that is not cut off only comes to its end on a session that is disconnected.** -/
theorem disconnected_of_over_run (run : Run settings (start settings number route reuse t) es s)
    (isOver : IsOver s) : s.state = .disconnected ∨ CutOff settings es := by
  suffices CutOff settings es ∨ (IsOver s → s.state = .disconnected) from
    this.symm.imp_left fun h => h isOver
  clear isOver
  induction run with
  | start => exact .inr fun isOver => by rcases isOver with isOver | isOver <;> cases isOver
  | @step es s now e s' fx run step ih =>
    rcases ih with cut | ih
    · exact .inl (cut.append _)
    by_cases cuts : CutsOff settings now e
    · exact .inl ⟨_, List.mem_append_right _ List.mem_cons_self, cuts⟩
    · exact .inr (disconnected_of_over_step (step_of_step? step) cuts ih)

@[simp] theorem replied_not_mem_dropQueue {reply : Except ScanFault Reply} :
    .replied reply ∉ s.dropQueue := by
  simp only [dropQueue, List.mem_filterMap, not_exists, not_and]
  rintro (_ | _) _ h <;> cases h

/-- A scan is refused for want of a task when the task has ended and the session is connected. -/
theorem orphan_of_taskGone (step : Step settings now s e s' fx)
    (refused : .replied (.error (.requestFailed .taskGone)) ∈ fx) :
    s.state = .connected ∧ s.activity = .ended := by
  have told : ∃ t told, Rule settings now s e t told ∧
      .replied (.error (.requestFailed .taskGone)) ∈ told := by
    cases step with
    | whole rule => exact ⟨_, _, rule, refused⟩
    | breakOff rule => exact ⟨_, _, rule, by simpa [dropPending] using refused⟩
  obtain ⟨t, told, rule, refused⟩ := told
  cases rule
  case orphan state _ activity => exact ⟨state, activity⟩
  case refuse => split at refused <;> simp at refused
  all_goals simp [tell, dropPending] at refused

/-- A scan is only refused for want of a task if the task has been cut off. -/
theorem cutOff_of_taskGone (run : Run settings (start settings number route reuse t) es s)
    (refused : .replied (.error (.requestFailed .taskGone)) ∈ effects es) :
    CutOff settings es := by
  induction run with
  | start => cases refused
  | step run h ih =>
    rw [effects_append, effects_singleton, List.mem_append] at refused
    rcases refused with earlier | now
    · exact (ih earlier).append _
    · obtain ⟨state, activity⟩ := orphan_of_taskGone (step_of_step? h) now
      rcases disconnected_of_over_run run (.inr activity) with gone | cut
      · cases state.symm.trans gone
      · exact cut.append _

/-! ## Half-way through a scan -/

/-- The RESPMOD request of a scan has been begun, after the response to its OPTIONS request: the
request is being written, or it has been written whole. -/
def RespmodBegun (settings : Settings) (s₀ : Session) (r : ScanRequest) (es : List Entry)
    (s : Session) : Prop :=
  (∃ left patience, s.activity = .writing left patience ∧
    Then (OptionsAnswered settings s₀ r)
      (fun part => sent part ++ left = Half.respmod.request settings s₀ r) es) ∨
  (∃ patience, s.activity = .listening patience) ∧
    Then (RespmodAsked settings s₀ r) (fun _ => True) es

/-- A session in state `awaitingScan` is about a scan whose RESPMOD request has been begun. -/
theorem respmodBegun_of_run (run : Run settings (start settings number route reuse t) es s)
    (state : s.state = .awaitingScan) :
    (∃ r, s.pending = some r ∧ RespmodBegun settings (start settings number route reuse t) r es s) ∨
      CutOff settings es := by
  cases phase_of_run run with
  | gone ended =>
    rcases ended with gone | ended
    · cases gone.symm.trans state
    · refine (disconnected_of_over_run run (.inr ended)).imp_left fun gone => ?_
      cases gone.symm.trans state
  | idle state' | claimed state' => cases state'.symm.trans state
  | @writing r left patience half state' activity pending _ _ _ history =>
    cases half with
    | options => cases state'.symm.trans state
    | respmod => exact .inl ⟨r, pending, .inl ⟨left, patience, activity, history⟩⟩
  | @reading r patience owed half state' activity pending _ history =>
    cases half with
    | options => cases state'.symm.trans state
    | respmod =>
      obtain ⟨before, part, rfl, ⟨asked, -⟩, -⟩ := history
      exact .inl ⟨r, pending, .inr ⟨⟨patience, activity⟩, before, part, rfl, asked, trivial⟩⟩

/-- A session that is connected has nothing to do. -/
theorem free_of_run (run : Run settings (start settings number route reuse t) es s)
    (state : s.state = .connected) : s.pending = none ∧ ∀ r, .scan r ∉ s.queue := by
  have free := (ledger_of_run run).tidy.idle state
  obtain ⟨inWork, queued⟩ := List.append_eq_nil_iff.mp free
  constructor
  · simpa [Session.inWork] using inWork
  · intro r hr
    have := List.filterMap_eq_nil_iff.mp queued _ hr
    cases this

/-! ## Closing -/

/-- A verdict that a caller finds has been told. -/
theorem answered_of_outcome? {n : Nat} {v : Verdict}
    (h : outcome? fx (.promised n) = some (.ok v)) : .answered n (.ok v) ∈ fx := by
  simp only [outcome?, Promise.poll, Promise.awaiting, if_true, delivery] at h
  cases found : fx.findSome? (Effect.delivery? n) with
  | none => simp [found, Promise.received] at h
  | some d =>
    obtain ⟨x, hx, hd⟩ := List.exists_of_findSome?_eq_some found
    cases x <;> simp only [Effect.delivery?] at hd
    case answered m outcome =>
      split at hd <;> cases hd
      next heq =>
        simp only [found, Option.getD_some, Promise.received, Option.some.injEq] at h
        rwa [← heq, ← h]
    case dropped m =>
      split at hd <;> cases hd
      simp [found, Promise.received] at h
    all_goals cases hd

theorem disconnected_of_close (step : Step settings now s e s' fx) (close : e = .close) :
    s'.state = .disconnected ∧ fx = [] := by
  subst close
  cases step with
  | breakOff _ unused => exact absurd trivial unused
  | whole rule =>
    cases rule with
    | close => exact ⟨rfl, rfl⟩
    | hangUp _ event => rcases event with event | event <;> cases event

/-- A scan whose outcome has not come when the session is closed never has a verdict. -/
theorem outcome?_ne_of_close {before after : List Entry} {x : Entry} {reply : Reply}
    (run : Run settings (start settings number route reuse t) (before ++ x :: after) s)
    (close : x.event = .close) (open_ : outcome? (effects before) reply = none) (v : Verdict) :
    outcome? (effects (before ++ x :: after)) reply ≠ some (.ok v) := by
  cases reply with
  | ready verdict => cases open_
  | promised n =>
    intro verdict
    obtain ⟨s₁, s₂, -, step, later⟩ := run.exists_of_cons
    obtain ⟨closed, nothing⟩ := disconnected_of_close (step_of_step? step) close
    have answered := answered_of_outcome? verdict
    rw [effects_append, List.mem_append] at answered
    rcases answered with earlier | answered
    · have := outcome?_isSome_iff.mpr (mem_settled.mpr ⟨_, earlier, rfl⟩)
      rw [open_] at this
      cases this
    · rw [show effects (x :: after) = x.effects ++ effects after from rfl, nothing] at answered
      exact not_answered_of_disconnected later closed n v answered

/-! ## All states -/

/-- **What the state of a session tells.** At every point of a run:

* a session that is disconnected stays so;
* if its task has come to its end, the session is disconnected, so no scan is refused for want of a
  task, unless the task may have been cut off: something has destroyed it from outside, or it was to
  listen again and the clock could not tell the end of its patience;
* if it is connected, its task works on no scan, and none is left for it to take;
* if it is in state `awaitingScan`, its task works on a scan whose RESPMOD request has been begun,
  unless the task may have been cut off;
* a scan whose outcome has not come when the session is closed never has a verdict. -/
theorem states_of_run (run : Run settings (start settings number route reuse t) es s) :
    (∀ es' s', Run settings s es' s' → s.state = .disconnected → s'.state = .disconnected) ∧
      (s.activity = .ended → s.state = .disconnected ∨ CutOff settings es) ∧
      (.replied (.error (.requestFailed .taskGone)) ∈ effects es → CutOff settings es) ∧
      (s.state = .connected → s.pending = none ∧ ∀ r, .scan r ∉ s.queue) ∧
      (s.state = .awaitingScan →
        (∃ r, s.pending = some r ∧
          RespmodBegun settings (start settings number route reuse t) r es s) ∨
          CutOff settings es) ∧
      ∀ before x after reply v, es = before ++ x :: after → x.event = .close →
        outcome? (effects before) reply = none → outcome? (effects es) reply ≠ some (.ok v) := by
  refine ⟨fun _ _ => disconnected_of_run, fun ended => disconnected_of_over_run run (.inr ended),
    cutOff_of_taskGone run, free_of_run run, respmodBegun_of_run run, ?_⟩
  rintro before x after reply v rfl close open_
  exact outcome?_ne_of_close run close open_ v

/-! ### A session that is closed in the middle of a scan -/

/-- A scan whose RESPMOD request has been written when a user closes the session. -/
def closedInScan : List (Instant × Event) :=
  twoScans.take 7 ++ [(8, .close), (9, .command), (10, .shut)]

theorem states_of_run_closedInScan :
    ∃ es s, Run { userAgent := "u" } sample es s ∧ ¬CutOff { userAgent := "u" } es ∧
      s.activity = .ended ∧
      (es.drop 7).head?.map Entry.event = some .close ∧
      outcome? (effects (es.take 7)) (.promised 1) = none ∧
      (∀ es' s', Run { userAgent := "u" } s es' s' → s.state = .disconnected →
        s'.state = .disconnected) ∧
      (s.activity = .ended → s.state = .disconnected ∨ CutOff { userAgent := "u" } es) ∧
      (.replied (.error (.requestFailed .taskGone)) ∈ effects es →
        CutOff { userAgent := "u" } es) ∧
      (s.state = .connected → s.pending = none ∧ ∀ r, .scan r ∉ s.queue) ∧
      (s.state = .awaitingScan →
        (∃ r, s.pending = some r ∧ RespmodBegun { userAgent := "u" } sample r es s) ∨
          CutOff { userAgent := "u" } es) ∧
      ∀ before x after reply v, es = before ++ x :: after → x.event = .close →
        outcome? (effects before) reply = none → outcome? (effects es) reply ≠ some (.ok v) := by
  have h : (play? { userAgent := "u" } sample closedInScan).elim false (fun played =>
      ¬CutOff { userAgent := "u" } played.1 ∧
        played.2.activity = .ended ∧ (played.1.drop 7).head?.map Entry.event = some .close ∧
        (outcome? (effects (played.1.take 7)) (.promised 1)).isNone) = true := by
    decide +kernel
  obtain ⟨es, s, run, found⟩ := exists_run_of_play? h
  obtain ⟨spared, ended, close, unsettled⟩ := by simpa using found
  exact ⟨es, s, run, spared, ended, by simpa using close, by simpa using unsettled,
    states_of_run run⟩

/-! ### A session whose task breaks off -/

/-- **A session may stay connected without a task.** There are settings that are accepted, and with
them the task of an idle session ends when it reads something that nobody has asked for: the end of
its new patience is not on the clock. The session stays connected, and the next scan is refused for
want of a task. -/
theorem exists_connected_without_task :
    ∃ settings es s, Settings.read lasting = .ok settings ∧ settings.check = .ok () ∧
      Run settings (start settings 1 ⟨"h", 1, "s"⟩ true 0) es s ∧
      es.map Entry.event = [.read [0]] ∧ s.activity = .ended ∧ s.state = .connected ∧
      (s.step? settings 2 (.scan "a" [65])).map Prod.snd =
        some [.replied (.error (.requestFailed .taskGone))] := by
  have h : (play? endless (start endless 1 ⟨"h", 1, "s"⟩ true 0) [(1, .read [0])]).elim false
      (fun played => played.1.map Entry.event = [.read [0]] ∧ played.2.activity = .ended ∧
        played.2.state = .connected ∧
        (played.2.step? endless 2 (.scan "a" [65])).map Prod.snd =
          some [.replied (.error (.requestFailed .taskGone))]) = true := by
    decide +kernel
  obtain ⟨es, s, run, found⟩ := exists_run_of_play? h
  obtain ⟨events, ended, state, refused⟩ := of_decide_eq_true found
  exact ⟨endless, es, s, read_lasting, rfl, run, events, ended, state, refused⟩

end Icap.Session
