import Icap.Promise
import Icap.Proofs.Session.Run
import Mathlib.Data.List.Nodup
import Mathlib.Data.List.Perm.Basic

/-!
# Scans are settled once

Whoever starts a scan is promised an outcome. The task of the session may come to its end in many
ways, in the middle of a scan or before it has taken one. All the same, each scan is told an outcome
or that it has none, only once, and none is left behind.

* `outstanding` — the scans that a session holds.
* `Turnover`, `turnover_of_step` — what an event does to them.
* `ledger_of_run` — the scans of a run are those that are settled and those that are outstanding.
* `settled_once_of_run` — what becomes of all promises.
-/

namespace Icap

/-- The scan that a command is about. -/
def Command.scan? : Command → Option Nat
  | .scan r => some r.number
  | .close => none

namespace Session

variable {settings : Settings} {now : Instant} {s s' : Session} {e : Event} {fx : List Effect}
  {es : List Entry} {n : Nat}

/-! ## Promised, settled, outstanding -/

/-- The scan whose outcome an effect promises. -/
def Effect.promised? : Effect → Option Nat
  | .replied (.ok (.promised number)) => some number
  | _ => none

/-- The scan that an effect settles, with an outcome or without one. -/
def Effect.settled? : Effect → Option Nat
  | .answered number _ => some number
  | .dropped number => some number
  | _ => none

/-- The scans whose outcomes effects promise. -/
def promised (fx : List Effect) : List Nat := fx.filterMap Effect.promised?

/-- The scans that effects settle, each as often as they do. -/
def settled (fx : List Effect) : List Nat := fx.filterMap Effect.settled?

/-- The scan that a task works on, if any. -/
def inWork (s : Session) : List Nat := s.pending.toList.map ScanRequest.number

/-- The scans that a task has not taken. -/
def queued (s : Session) : List Nat := s.queue.filterMap Command.scan?

/-- The scans that a session holds. -/
def outstanding (s : Session) : List Nat := s.inWork ++ s.queued

/-! ### What effects say of scans -/

@[simp] theorem promised_append (fx fx' : List Effect) :
    promised (fx ++ fx') = promised fx ++ promised fx' := List.filterMap_append

@[simp] theorem settled_append (fx fx' : List Effect) :
    settled (fx ++ fx') = settled fx ++ settled fx' := List.filterMap_append

@[simp] theorem settled_tell (s : Session) (outcome : Outcome) :
    settled (s.tell outcome) = s.inWork := by
  cases h : s.pending <;> simp [settled, tell, inWork, h, Effect.settled?]

@[simp] theorem settled_dropPending (s : Session) : settled s.dropPending = s.inWork := by
  cases h : s.pending <;> simp [settled, dropPending, inWork, h, Effect.settled?]

@[simp] theorem settled_dropQueue (s : Session) : settled s.dropQueue = s.queued := by
  simp only [settled, dropQueue, queued, List.filterMap_filterMap]
  congr 1
  funext c
  cases c <;> rfl

@[simp] theorem promised_tell (s : Session) (outcome : Outcome) :
    promised (s.tell outcome) = [] := by
  cases h : s.pending <;> simp [promised, tell, h, Effect.promised?]

@[simp] theorem promised_dropPending (s : Session) : promised s.dropPending = [] := by
  cases h : s.pending <;> simp [promised, dropPending, h, Effect.promised?]

@[simp] theorem promised_dropQueue (s : Session) : promised s.dropQueue = [] := by
  simp only [promised, dropQueue, List.filterMap_filterMap, List.filterMap_eq_nil_iff]
  rintro (_ | _) _ <;> rfl

@[simp] theorem settled_answered (number : Nat) (outcome : Outcome) (fx : List Effect) :
    settled (.answered number outcome :: fx) = number :: settled fx := rfl

@[simp] theorem promised_answered (number : Nat) (outcome : Outcome) (fx : List Effect) :
    promised (.answered number outcome :: fx) = promised fx := rfl

@[simp] theorem settled_shutDown : settled [.shutDown] = [] := rfl

@[simp] theorem promised_shutDown : promised [.shutDown] = [] := rfl

/-! ## One event -/

/-- What a session keeps in order: it holds one scan at most, and none while it is idle or when its
task has come to its end. -/
structure Tidy (s : Session) : Prop where
  one : s.outstanding.length ≤ 1
  idle : s.state = .connected → s.outstanding = []
  ended : s.activity = .ended → s.outstanding = []

/-- What an event does to the scans of a session: one is started, and was not there before, or none
is, and some are settled. -/
inductive Turnover (fx : List Effect) (s s' : Session) : Prop
  | start (promised_eq : promised fx = [s.commands + 1]) (settled_eq : settled fx = [])
      (before : s.outstanding = []) (after : s'.outstanding = [s.commands + 1])
      (commands : s'.commands = s.commands + 1)
  | settle (promised_eq : promised fx = [])
      (perm : s.outstanding.Perm (settled fx ++ s'.outstanding))

theorem queued_close (s : Session) : s.close.queued = s.queued := by
  simp only [queued, close]
  split <;> simp [Command.scan?]

theorem queued_of_scan {r : ScanRequest} {queue : List Command}
    (head : s.queue = .scan r :: queue) :
    s.queued = r.number :: queue.filterMap Command.scan? := by
  simp [queued, head, Command.scan?]

theorem turnover_shutDown {t : Session} (outstanding : s.outstanding = t.outstanding) :
    Turnover t.shutDown.2 s t.shutDown.1 := by
  refine .settle (by simp) ?_
  rw [outstanding]
  simp [Session.outstanding, inWork, queued]

theorem turnover_tellAndShutDown {t : Session} (outcome : Outcome)
    (outstanding : s.outstanding = t.outstanding) :
    Turnover (t.tellAndShutDown outcome).2 s (t.tellAndShutDown outcome).1 := by
  refine .settle (by simp) ?_
  rw [outstanding]
  simp [Session.outstanding, inWork, queued]

theorem turnover_finish (s : Session) : Turnover s.finish.2 s s.finish.1 :=
  .settle (by simp) (by simp [outstanding, inWork, queued])

theorem turnover_takeEnd (s : Session) : Turnover s.takeEnd.2 s s.takeEnd.1 :=
  .settle (by simp) (by simp [outstanding, inWork, queued])

theorem turnover_of_rule (tidy : Tidy s) (rule : Rule settings now s e s' fx) :
    Turnover fx s s' := by
  cases rule
  case claim filename payload _ state _ _ =>
    have none := tidy.idle state
    refine .start rfl rfl none ?_ rfl
    simp only [outstanding, inWork, queued, List.append_eq_nil_iff] at none
    simp [outstanding, inWork, queued, none, Command.scan?]
  case start r queue _ head _ state =>
    -- the scan that is taken is the only one, so the task has been at work on none
    have one := tidy.one
    simp only [outstanding, queued_of_scan head, List.length_append, List.length_cons] at one
    have none : s.inWork = [] := List.eq_nil_of_length_eq_zero (by omega)
    refine .settle rfl (.of_eq ?_)
    rw [outstanding, none, queued_of_scan head]
    rfl
  case turnDown r queue _ head _ _ =>
    refine .settle (by simp) ?_
    rw [outstanding, queued_of_scan head]
    simp only [shutDown_fst, shutDown_snd, settled_answered, settled_append, settled_dropPending,
      settled_shutDown, List.append_nil]
    exact List.perm_middle
  case obey queue _ head _ =>
    refine turnover_shutDown ?_
    simp [outstanding, inWork, queued, head, List.filterMap_cons, Command.scan?]
  case abandon => exact turnover_shutDown rfl
  case close => exact .settle rfl (.of_eq (by simp only [outstanding, queued_close]; rfl))
  case refuseOptions | answerLast | answerLate | lapse | failWrite | expireWrite =>
    exact turnover_tellAndShutDown _ rfl
  case answer r verdict _ _ pending _ _ _ _ _ _ =>
    refine .settle rfl (.of_eq ?_)
    rw [outstanding, inWork, pending]
    rfl
  case hangUp => exact turnover_takeEnd s
  case shut | destroy => exact turnover_finish s
  case refuse | ready | orphan | letGo | release | discard | skip | gather | ask | accept | flush =>
    exact .settle rfl (.refl _)

/-- Only users start scans. -/
theorem commands_eq_of_rule (rule : Rule settings now s e s' fx) (unused : ¬e.IsUse) :
    s'.commands = s.commands := by
  cases rule <;> first | rfl | exact absurd trivial unused

/-- **What an event does to the scans of a session.** -/
theorem turnover_of_step (tidy : Tidy s) (step : Step settings now s e s' fx) :
    Turnover fx s s' := by
  cases step with
  | whole rule => exact turnover_of_rule tidy rule
  | @breakOff t told rule unused =>
    have same := commands_eq_of_rule rule unused
    cases turnover_of_rule tidy rule with
    | start _ _ _ _ commands => omega
    | settle promised_eq perm =>
      -- what the rule leaves unsettled is dropped
      have dropped : t.outstanding.Perm (settled t.finish.2 ++ t.finish.1.outstanding) := by
        simp [outstanding, inWork, queued]
      refine .settle (by simp [promised_eq]) ?_
      rw [settled_append, List.append_assoc]
      exact perm.trans (dropped.append_left _)

theorem Tidy.step (tidy : Tidy s) (step : Step settings now s e s' fx) : Tidy s' := by
  have turnover := turnover_of_step tidy step
  constructor
  case one =>
    cases turnover with
    | start _ _ _ after => simp [after]
    | settle _ perm =>
      have := perm.length_eq
      have := tidy.one
      simp only [List.length_append] at *
      omega
  case idle =>
    intro state
    cases step with
    | breakOff => rfl
    | whole rule onTime =>
      cases rule
      case answer r verdict _ _ pending _ _ _ _ _ _ =>
        -- the scan that is answered was the only one
        have one := tidy.one
        simp only [outstanding, inWork, pending, List.length_append] at one
        exact List.eq_nil_of_length_eq_zero (Nat.le_zero.mp (Nat.le_of_add_le_add_left one))
      case start state' => cases state'.symm.trans state
      case shut | destroy => rfl
      case refuse | ready | letGo | release | discard | skip | gather | accept | flush =>
        exact tidy.idle state
      all_goals cases state
  case ended =>
    intro activity
    cases step with
    | breakOff => rfl
    | whole rule onTime =>
      cases rule
      case refuse | ready | letGo | orphan => exact tidy.ended activity
      case claim activity' => exact absurd activity activity'
      case close =>
        rw [outstanding, queued_close]
        exact tidy.ended activity
      case hangUp | shut | destroy => rfl
      all_goals cases activity

/-! ## Runs -/

/-- What holds of the scans of a session at every point of a run. -/
structure Ledger (fx : List Effect) (s : Session) : Prop where
  tidy : Tidy s
  perm : (promised fx).Perm (settled fx ++ s.outstanding)
  nodup : (promised fx).Nodup
  le : ∀ n ∈ promised fx, n ≤ s.commands

/-- Effects that promise and settle the same. -/
theorem Ledger.of_eq {fx' : List Effect} (ledger : Ledger fx s)
    (promised_eq : promised fx' = promised fx) (settled_eq : settled fx' = settled fx) :
    Ledger fx' s where
  tidy := ledger.tidy
  perm := promised_eq ▸ settled_eq ▸ ledger.perm
  nodup := promised_eq ▸ ledger.nodup
  le := promised_eq ▸ ledger.le

/-- An event keeps the ledger: a scan that is started has a number beyond all earlier ones. -/
theorem Ledger.step {fx' : List Effect} (ledger : Ledger fx s)
    (step : Step settings now s e s' fx') : Ledger (fx ++ fx') s' := by
  have tidy := ledger.tidy.step step
  cases turnover_of_step ledger.tidy step with
  | start promised_eq settled_eq before after commands =>
    refine ⟨tidy, ?_, ?_, ?_⟩
    · rw [promised_append, settled_append, promised_eq, settled_eq, after, List.append_nil]
      have perm := ledger.perm
      rw [before, List.append_nil] at perm
      exact perm.append_right _
    · rw [promised_append, promised_eq, List.nodup_append]
      refine ⟨ledger.nodup, List.nodup_singleton _, ?_⟩
      intro n hn m hm
      have := ledger.le n hn
      have := List.mem_singleton.mp hm
      omega
    · intro n hn
      rw [promised_append, promised_eq, List.mem_append, List.mem_singleton] at hn
      rcases hn with hn | rfl
      · have := ledger.le n hn
        omega
      · exact Nat.le_of_eq commands.symm
  | settle promised_eq perm =>
    refine ⟨tidy, ?_, ?_, ?_⟩
    · rw [promised_append, settled_append, promised_eq, List.append_nil, List.append_assoc]
      exact ledger.perm.trans (perm.append_left _)
    · rw [promised_append, promised_eq, List.append_nil]
      exact ledger.nodup
    · intro n hn
      rw [promised_append, promised_eq, List.append_nil] at hn
      exact Nat.le_trans (ledger.le n hn) (commands_le_of_step step)

variable {number : Nat} {route : Route} {reuse : Bool} {t : Instant}

/-- A run keeps the ledger. -/
theorem Ledger.run {s₀ : Session} (ledger : Ledger fx s₀) (run : Run settings s₀ es s) :
    Ledger (fx ++ effects es) s := by
  induction run with
  | start => rwa [show effects [] = [] from rfl, List.append_nil]
  | step run h ih =>
    rw [effects_append, effects_singleton, ← List.append_assoc]
    exact ih.step (step_of_step? h)

/-- **The scans of a run** are those that are settled and those that are outstanding. -/
theorem ledger_of_run (run : Run settings (start settings number route reuse t) es s) :
    Ledger (effects es) s := by
  have start : Ledger [] (start settings number route reuse t) :=
    ⟨⟨Nat.zero_le _, fun _ => rfl, fun _ => rfl⟩, .refl _, List.nodup_nil, nofun⟩
  exact start.run run

theorem Ledger.nodup_settled (ledger : Ledger fx s) : (settled fx ++ s.outstanding).Nodup :=
  ledger.perm.nodup_iff.mp ledger.nodup

/-- The scan that a session works on has not been settled. -/
theorem Ledger.not_mem_settled {r : ScanRequest} (ledger : Ledger fx s)
    (pending : s.pending = some r) : r.number ∉ settled fx := by
  intro hr
  refine (List.nodup_append.mp ledger.nodup_settled).2.2 _ hr r.number ?_ rfl
  simp [outstanding, inWork, pending]

/-- What settles a scan is one effect. -/
theorem eq_of_settled? {x y : Effect} (nodup : (settled fx).Nodup) (hx : x ∈ fx) (hy : y ∈ fx)
    (hxn : x.settled? = some n) (hyn : y.settled? = some n) : x = y := by
  induction fx with
  | nil => cases hx
  | cons z fx ih =>
    have later : ∀ w ∈ fx, w.settled? = some n → z.settled? ≠ some n := by
      intro w hw hwn hzn
      rw [settled, List.filterMap_cons_some hzn, List.nodup_cons] at nodup
      exact nodup.1 (List.mem_filterMap.mpr ⟨w, hw, hwn⟩)
    rcases List.mem_cons.mp hx with rfl | hx'
    · rcases List.mem_cons.mp hy with rfl | hy'
      · rfl
      · exact absurd hxn (later y hy' hyn)
    · rcases List.mem_cons.mp hy with rfl | hy'
      · exact absurd hyn (later x hx' hxn)
      · exact ih (nodup.sublist ((List.sublist_cons_self z fx).filterMap _)) hx' hy'

/-! ## Callers -/

/-- What an effect makes of the outcome of a scan on its way to the caller. -/
def Effect.delivery? (number : Nat) : Effect → Option Delivery
  | .answered m outcome => if m = number then some (.sent outcome) else none
  | .dropped m => if m = number then some .lost else none
  | _ => none

/-- What has become of the outcome of a scan. -/
def delivery (number : Nat) (fx : List Effect) : Delivery :=
  (fx.findSome? (Effect.delivery? number)).getD .awaited

/-- The outcome that a caller finds who has started a scan and looks for it. -/
def outcome? (fx : List Effect) : Reply → Option Outcome
  | .ready verdict => ((Promise.ready (.ok verdict)).poll .awaited).1
  | .promised number => (Promise.awaiting.poll (delivery number fx)).1

theorem mem_settled : n ∈ settled fx ↔ ∃ x ∈ fx, x.settled? = some n := List.mem_filterMap

theorem settled?_of_delivery? {x : Effect} {d : Delivery} (h : x.delivery? n = some d) :
    x.settled? = some n ∧ (Promise.received d).isSome = true := by
  cases x <;> simp only [Effect.delivery?] at h
  case answered | dropped =>
    split at h <;> cases h
    next heq => exact ⟨congrArg some heq, rfl⟩
  all_goals cases h

theorem settled?_ne_of_delivery? {x : Effect} (h : x.delivery? n = none) :
    x.settled? ≠ some n := by
  cases x <;> simp_all [Effect.delivery?, Effect.settled?]

/-- A caller finds an outcome if, and only if, the scan has been settled. -/
theorem outcome?_isSome_iff : (outcome? fx (.promised n)).isSome = true ↔ n ∈ settled fx := by
  have received : outcome? fx (.promised n) = Promise.received (delivery n fx) := by
    simp only [outcome?, Promise.poll, Promise.awaiting, if_true]
    cases Promise.received (delivery n fx) <;> rfl
  rw [received, mem_settled, delivery]
  cases h : fx.findSome? (Effect.delivery? n) with
  | none =>
    simp only [Option.getD_none, Promise.received, Option.isSome_none, Bool.false_eq_true,
      false_iff, not_exists, not_and]
    exact fun x hx => settled?_ne_of_delivery? (List.findSome?_eq_none_iff.mp h x hx)
  | some d =>
    obtain ⟨x, hx, hd⟩ := List.exists_of_findSome?_eq_some h
    obtain ⟨settled, received⟩ := settled?_of_delivery? hd
    exact iff_of_true received ⟨x, hx, settled⟩

/-- The scans whose callers find no outcome yet are some of those that a session holds. -/
theorem Ledger.unsettled_length_le (ledger : Ledger fx s) :
    ((promised fx).filter fun n => (outcome? fx (.promised n)).isNone).length ≤ 1 := by
  have unsettled : (settled fx).filter (fun n => (outcome? fx (.promised n)).isNone) = [] := by
    rw [List.filter_eq_nil_iff]
    intro n hn
    rw [Option.isNone_iff_eq_none, ← Option.not_isSome_iff_eq_none, Bool.not_eq_true]
    simp [outcome?_isSome_iff.mpr hn]
  have perm := ledger.perm.filter fun n => (outcome? fx (.promised n)).isNone
  rw [List.filter_append, unsettled, List.nil_append] at perm
  calc _ = _ := perm.length_eq
    _ ≤ s.outstanding.length := List.length_filter_le _ _
    _ ≤ 1 := ledger.tidy.one

/-- **Every scan is settled once.** No scan is told an outcome twice, or an outcome and that it has
none; only scans that have been started are; at any time at most one of them has no outcome yet; and
when the task of the session has come to its end, whoever has started a scan finds an outcome. -/
theorem settled_once_of_run (run : Run settings (start settings number route reuse t) es s) :
    (settled (effects es)).Nodup ∧
      (∀ n ∈ settled (effects es), n ∈ promised (effects es)) ∧
      ((promised (effects es)).filter fun n =>
        (outcome? (effects es) (.promised n)).isNone).length ≤ 1 ∧
      (s.activity = .ended → ∀ reply, .replied (.ok reply) ∈ effects es →
        (outcome? (effects es) reply).isSome = true) := by
  have ledger := ledger_of_run run
  have nodup := List.nodup_append.mp ledger.nodup_settled
  refine ⟨nodup.1, ?_, ledger.unsettled_length_le, ?_⟩
  · exact fun n hn => ledger.perm.mem_iff.mpr (List.mem_append_left _ hn)
  · intro ended reply replied
    cases reply with
    | ready verdict => rfl
    | promised n =>
      have hn : n ∈ promised (effects es) := List.mem_filterMap.mpr ⟨_, replied, rfl⟩
      have perm := ledger.perm
      rw [ledger.tidy.ended ended, List.append_nil] at perm
      exact outcome?_isSome_iff.mpr (perm.mem_iff.mp hn)

/-! ### A scan that is left in the queue -/

/-- A scan that is answered, one of a file without content, and one that the task has not taken when
the connection is gone. -/
def cutOff : List (Instant × Event) :=
  twoScans.take 8 ++ [(9, .scan "e" []), (10, .scan "b" [66]), (11, .endOfStream)]

theorem settled_once_of_run_cutOff :
    ∃ es s, Run { userAgent := "u" } sample es s ∧ s.activity = .ended ∧
      promised (effects es) = [1, 2] ∧
      (settled (effects es)).Nodup ∧
      (∀ n ∈ settled (effects es), n ∈ promised (effects es)) ∧
      ((promised (effects es)).filter fun n =>
        (outcome? (effects es) (.promised n)).isNone).length ≤ 1 ∧
      (s.activity = .ended → ∀ reply, .replied (.ok reply) ∈ effects es →
        (outcome? (effects es) reply).isSome = true) := by
  have h : (play? { userAgent := "u" } sample cutOff).elim false (fun played =>
      played.2.activity = .ended ∧ promised (effects played.1) = [1, 2]) = true := by
    decide +kernel
  obtain ⟨es, s, run, found⟩ := exists_run_of_play? h
  obtain ⟨ended, started⟩ := by simpa using found
  exact ⟨es, s, run, ended, started, settled_once_of_run run⟩

end Session

end Icap
