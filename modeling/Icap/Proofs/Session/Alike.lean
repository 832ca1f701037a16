import Icap.Proofs.Session.States

/-!
# Sessions that differ in their users alone

Whether anybody holds a session is nothing that the exchange with the server depends on. Two runs of
a session in which the same happens, but for users who let it go and scans that are turned away,
write the same bytes and settle the same scans in the same way; until one of the two sessions serves
no more because it has been let go, they stay the same in all that matters.

* `Alike` — the same but for who holds the session, and the deadlines.
* `exists_rule_of_alike` — what happens to a session can happen to one like it.
* `Twin` — alike, or parted since one of them has been let go.
* `told` — what effects tell of scans; `kept` — what happens besides users.
* `twin_of_runs` — two runs in which the same happens besides users.
-/

namespace Icap

/-- The same, whatever the deadlines. -/
inductive Activity.Alike : Activity → Activity → Prop
  | listening (patience patience' : Deadline) : Alike (.listening patience) (.listening patience')
  | writing (left : Bytes) (patience patience' : Deadline) :
      Alike (.writing left patience) (.writing left patience')
  | closing : Alike .closing .closing
  | ended : Alike .ended .ended

theorem Activity.Alike.refl (a : Activity) : a.Alike a := by cases a <;> constructor

theorem Activity.Alike.symm {a b : Activity} (h : a.Alike b) : b.Alike a := by
  cases h <;> constructor

theorem Activity.Alike.eq_ended {a b : Activity} (h : a.Alike b) (ended : b = .ended) :
    a = .ended := by
  subst ended
  cases h
  rfl

theorem Activity.Alike.exists_listening {a : Activity} {patience : Deadline}
    (h : a.Alike (.listening patience)) : ∃ patience', a = .listening patience' := by
  cases h with
  | listening patience' => exact ⟨patience', rfl⟩

theorem Activity.Alike.beq_ended {a b : Activity} (h : a.Alike b) :
    (b == .ended) = (a == .ended) := by
  cases h <;> rfl

namespace Session

/-- The same but for who holds the session, what the task knows of it, and the deadlines. -/
inductive Alike (s : Session) : Session → Prop
  | mk (held released : Bool) (activity : Activity) (h : s.activity.Alike activity) :
      Alike s { s with held, released, activity }

variable {settings : Settings} {now now' : Instant} {s₀ s s' t t' : Session} {e : Event}
  {fx fx' : List Effect} {es es' : List Entry} {x : Entry}

theorem Alike.refl (s : Session) : Alike s s := .mk s.held s.released s.activity (.refl _)

theorem Alike.symm (h : Alike s t) : Alike t s := by
  obtain ⟨held, released, activity, h⟩ := h
  exact .mk s.held s.released s.activity h.symm

/-! ## What effects tell of scans -/

/-- Whether an effect tells of a scan: that it has been promised, that bytes have been written for
it, or what has become of it. -/
def Effect.isOfScan : Effect → Bool
  | .replied (.ok (.promised _)) | .sent _ | .answered _ _ | .dropped _ => true
  | .replied _ | .shutDown => false

/-- What effects tell of scans. -/
def told (fx : List Effect) : List Effect := fx.filter Effect.isOfScan

@[simp] theorem told_append (fx fx' : List Effect) : told (fx ++ fx') = told fx ++ told fx' :=
  List.filter_append ..

@[simp] theorem told_nil : told [] = [] := rfl

@[simp] theorem told_shutDown : told [.shutDown] = [] := rfl

theorem told_tellAndShutDown {r : ScanRequest} (pending : s.pending = some r) (outcome : Outcome) :
    told (s.tellAndShutDown outcome).2 = [.answered r.number outcome] := by
  rw [tellAndShutDown_snd, tell, pending]
  rfl

/-! ## Users -/

/-- Whether an event is one of users: the session is let go, the task finds out, or a scan is turned
away or is over at once. -/
def Entry.isOfUsers (x : Entry) : Bool :=
  match x.event, x.effects with
  | .letGo, _ | .released, _ => true
  | .scan _ _, [.replied (.ok (.ready _))] => true
  | .scan _ _, [.replied (.error .notConnected)] => true
  | .scan _ _, [.replied (.error .sessionInUse)] => true
  | _, _ => false

/-- What happens besides users. -/
def Entry.kept? (x : Entry) : Option Event := if x.isOfUsers then none else some x.event

/-- What happens besides users. -/
def kept (es : List Entry) : List Event := es.filterMap Entry.kept?

@[simp] theorem kept_append (es es' : List Entry) : kept (es ++ es') = kept es ++ kept es' :=
  List.filterMap_append

/-- Whether an event is the end of the task's patience. -/
def Event.IsLapse (e : Event) : Prop := e = .idle ∨ e = .writeExpired

instance (e : Event) : Decidable e.IsLapse :=
  inferInstanceAs (Decidable (e = .idle ∨ e = .writeExpired))

/-- What is in order with users: nobody holds a session of which the task knows that it has been let
go, and then there are no commands, and there is a scan to bring to its end; and the task writes for
a scan only. -/
structure Orderly (s : Session) : Prop where
  held : s.released = true → s.held = false
  queue : s.released = true → s.queue = []
  busy : s.released = true → s.pending.isSome = true ∨ IsOver s
  writing : ∀ left patience, s.activity = .writing left patience → s.pending.isSome = true

/-- A session that is held is none of which the task knows that it has been let go. -/
theorem Orderly.not_released (h : Orderly s) (held : s.held = true) : s.released = false :=
  Bool.eq_false_iff.mpr fun released => by simp [h.held released] at held

theorem Orderly.of_not_released (released : s.released = false)
    (writing : ∀ left patience, s.activity = .writing left patience → s.pending.isSome = true) :
    Orderly s where
  held := fun h => absurd h (by simp [released])
  queue := fun h => absurd h (by simp [released])
  busy := fun h => absurd h (by simp [released])
  writing := writing

/-- An event with which the task comes to its end. -/
theorem Orderly.of_over (h : Orderly s) (held : s'.held = s.held)
    (released : s'.released = s.released)
    (queue : s'.queue = s.queue ∨ s'.queue = []) (isOver : IsOver s') : Orderly s' where
  held := fun h' => held.trans (h.held (released.symm.trans h'))
  queue := fun h' => queue.elim (·.trans (h.queue (released.symm.trans h'))) id
  busy := fun _ => .inr isOver
  writing := fun left patience h' => by rcases isOver with h | h <;> cases h.symm.trans h'

/-- An event in the middle of a scan. -/
theorem Orderly.of_pending (h : Orderly s) (held : s'.held = s.held)
    (released : s'.released = s.released) (queue : s'.queue = s.queue)
    (pending : s'.pending.isSome = true) : Orderly s' where
  held := fun h' => held.trans (h.held (released.symm.trans h'))
  queue := fun h' => queue.trans (h.queue (released.symm.trans h'))
  busy := fun _ => .inl pending
  writing := fun _ _ _ => pending

theorem Orderly.rule (h : Orderly s) (rule : Rule settings now s e s' fx) : Orderly s' := by
  cases rule
  case refuse | ready => exact h
  case orphan held _ _ _ | claim held _ _ _ | close held | letGo held =>
    exact .of_not_released (h.not_released held) h.writing
  case start released _ => exact .of_not_released released fun _ _ _ => rfl
  case turnDown released _ | obey released => exact .of_not_released released (by rintro _ _ ⟨⟩)
  case release held _ queue pending =>
    exact ⟨fun _ => held, fun _ => queue, fun _ => .inl (by simp [listening, pending]),
      by rintro _ _ ⟨⟩⟩
  case abandon held _ queue _ =>
    exact ⟨fun _ => held, fun _ => queue, fun _ => .inr (.inl rfl), by rintro _ _ ⟨⟩⟩
  case discard activity _ pending =>
    -- a task that knows it would have come to its end
    refine .of_not_released (Bool.eq_false_iff.mpr fun released => ?_) (by rintro _ _ ⟨⟩)
    rcases h.busy released with busy | gone | gone
    · simp [pending] at busy
    · cases gone.symm.trans activity
    · cases gone.symm.trans activity
  case skip pending _ | gather pending _ _ | ask pending _ _ _ _ =>
    exact h.of_pending rfl rfl rfl (Option.isSome_of_eq_some pending)
  case answer released => exact .of_not_released released (by rintro _ _ ⟨⟩)
  case refuseOptions | answerLast | answerLate | lapse | failWrite | expireWrite =>
    exact h.of_over rfl rfl (.inl rfl) (.inl rfl)
  case hangUp | shut | destroy => exact h.of_over rfl rfl (.inr rfl) (.inr rfl)
  case accept activity _ _ => exact h.of_pending rfl rfl rfl (h.writing _ _ activity)
  case flush activity => exact h.of_pending rfl rfl rfl (h.writing _ _ activity)

theorem Orderly.step (h : Orderly s) (step : Step settings now s e s' fx) : Orderly s' := by
  cases step with
  | whole rule => exact h.rule rule
  | breakOff rule => exact (h.rule rule).of_over rfl rfl (.inr rfl) (.inr rfl)

theorem orderly_of_run (orderly : Orderly s₀) (run : Run settings s₀ es s) : Orderly s := by
  induction run with
  | start => exact orderly
  | step run h ih => exact ih.step (step_of_step? h)

/-- A session that has been let go stays so. -/
theorem not_held_of_step (step : Step settings now s e s' fx) (free : s.held = false) :
    s'.held = false := by
  by_cases letGo : e = .letGo
  · subst letGo
    cases step with
    | breakOff _ unused => exact absurd trivial unused
    | whole rule =>
      cases rule with
      | letGo => rfl
      | hangUp _ event => simp at event
  · rw [(same_of_step step).2.2 letGo, free]

/-! ## What can happen to a session can happen to one like it -/

/-- A session that serves nobody: it has no scan, no command, and nothing to write. -/
structure AtRest (s : Session) : Prop where
  pending : s.pending = none
  queue : s.queue = []
  writing : ∀ left patience, s.activity ≠ .writing left patience

/-- Two sessions of which one has been let go, and which have nothing more to do with scans. -/
structure Parted (s t : Session) : Prop where
  left : AtRest s
  right : AtRest t
  free : s.held = false ∨ t.held = false
  /-- A session that is held has come to its end only if the other one has. -/
  isOver : t.held = true → IsOver t → IsOver s
  isOver' : s.held = true → IsOver s → IsOver t

/-- Two sessions that are alike, or have been so until one of them that has been let go served no
more. -/
inductive Twin (s t : Session) : Prop
  | alike (h : Alike s t)
  | parted (h : Parted s t)

theorem Parted.symm (h : Parted s t) : Parted t s :=
  ⟨h.right, h.left, h.free.symm, h.isOver', h.isOver⟩

theorem Twin.symm (h : Twin s t) : Twin t s := by
  cases h with
  | alike h => exact .alike h.symm
  | parted h => exact .parted h.symm

/-- A session with commands is none of which the task knows that it has been let go. -/
theorem Orderly.not_released_of_queue {c : Command} {queue : List Command} (h : Orderly s)
    (head : s.queue = c :: queue) : s.released = false :=
  Bool.eq_false_iff.mpr fun released => by simp [h.queue released] at head

/-- A session that serves again, and one that has been let go and serves no more. -/
theorem Parted.of_last {patience : Deadline} (again : s.activity = .listening patience)
    (last : IsOver t) (pending : s.pending = none) (pending' : t.pending = none)
    (queue : s.queue = []) (queue' : t.queue = []) (free : t.held = false) : Parted s t where
  left := ⟨pending, queue, by simp [again]⟩
  right := ⟨pending', queue', fun _ _ writing => by
    rcases last with h | h <;> cases h.symm.trans writing⟩
  free := .inr free
  isOver := fun held => by simp [free] at held
  isOver' := fun _ isOver => by rcases isOver with h | h <;> cases again.symm.trans h

/-- **What happens to a session can happen to one like it.** -/
theorem exists_rule_of_alike (alike : Alike s t) (orderly : Orderly s) (orderly' : Orderly t)
    (rule : Rule settings now s e s' fx) (kept : Entry.isOfUsers ⟨now, e, fx⟩ = false)
    (inTime : ¬e.IsLapse) (held : e.IsUse → t.held = true) (now' : Instant) :
    ∃ t' fx', Rule settings now' t e t' fx' ∧ Entry.isOfUsers ⟨now', e, fx'⟩ = false ∧
      told fx' = told fx ∧ Twin s' t' := by
  obtain ⟨held', released', activity', same⟩ := alike
  cases rule
  case refuse state =>
    by_cases gone : s.state = .disconnected <;> simp [Entry.isOfUsers, gone] at kept
  case ready | letGo | release | abandon => cases kept
  case lapse => exact absurd (.inl rfl) inTime
  case expireWrite => exact absurd (.inr rfl) inTime
  case orphan state payload_ne activity =>
    rw [activity] at same
    cases same
    exact ⟨_, _, .orphan (held trivial) state payload_ne rfl, rfl, rfl,
      .alike (.mk _ _ _ (activity ▸ .ended))⟩
  case claim state payload_ne activity =>
    exact ⟨_, _, .claim (held trivial) state payload_ne fun ended => activity (same.eq_ended ended),
      rfl, rfl, .alike (.mk _ _ _ same)⟩
  case close =>
    refine ⟨_, _, .close (held trivial), rfl, rfl, .alike ?_⟩
    simp only [close, hasEnded, same.beq_ended]
    exact .mk _ _ _ same
  case start activity head _ state =>
    rw [activity] at same
    cases same
    exact ⟨_, _, .start rfl head (orderly'.not_released_of_queue head) state, rfl, rfl,
      .alike (.mk _ _ _ (.writing ..))⟩
  case turnDown activity head _ state =>
    rw [activity] at same
    cases same
    exact ⟨_, _, .turnDown rfl head (orderly'.not_released_of_queue head) state, rfl, rfl,
      .alike (.mk _ _ _ .closing)⟩
  case obey activity head _ =>
    rw [activity] at same
    cases same
    exact ⟨_, _, .obey rfl head (orderly'.not_released_of_queue head), rfl, rfl,
      .alike (.mk _ _ _ .closing)⟩
  case discard activity bytes_ne pending =>
    rw [activity] at same
    cases same
    exact ⟨_, _, .discard rfl bytes_ne pending, rfl, rfl, .alike (.mk _ _ _ (.listening ..))⟩
  case skip activity bytes_ne pending left =>
    rw [activity] at same
    cases same
    exact ⟨_, _, .skip rfl bytes_ne pending left, rfl, rfl, .alike (.mk _ _ _ (.listening ..))⟩
  case gather activity bytes_ne pending left isDone =>
    rw [activity] at same
    cases same
    exact ⟨_, _, .gather rfl bytes_ne pending left isDone, rfl, rfl,
      .alike (.mk _ _ _ (.listening ..))⟩
  case refuseOptions activity bytes_ne pending left isDone state outcome =>
    rw [activity] at same
    cases same
    exact ⟨_, _, .refuseOptions rfl bytes_ne pending left isDone state outcome, rfl, rfl,
      .alike (.mk _ _ _ .closing)⟩
  case ask activity bytes_ne pending left isDone state outcome =>
    rw [activity] at same
    cases same
    exact ⟨_, _, .ask rfl bytes_ne pending left isDone state outcome, rfl, rfl,
      .alike (.mk _ _ _ (.writing ..))⟩
  case answer r verdict activity bytes_ne pending left isDone state outcome reuse _ =>
    rw [activity] at same
    cases same
    cases known : released' with
    | false =>
      exact ⟨_, _, .answer rfl bytes_ne pending left isDone state outcome reuse rfl, rfl, rfl,
        .alike (.mk _ _ _ (.listening ..))⟩
    | true =>
      subst known
      have queue : s.queue = [] := orderly'.queue rfl
      refine ⟨_, _, .answerLast rfl bytes_ne pending left isDone state ?_, rfl, ?_,
        .parted (.of_last rfl (.inl rfl) rfl rfl queue queue (orderly'.held rfl))⟩
      · simp
      · exact (told_tellAndShutDown pending _).trans
          (congrArg (fun o => [Effect.answered r.number o]) outcome)
  case answerLast bytes r activity bytes_ne pending left isDone state last =>
    rw [activity] at same
    cases same
    by_cases again : s.reuse = true ∧
        (s.gathered settings bytes).response.takeOutcome.1.toBool = true ∧ released' = false
    · obtain ⟨reuse, ok, rfl⟩ := again
      have released : s.released = true := by
        by_contra unknown
        exact last ⟨reuse, ok, Bool.eq_false_iff.mpr unknown⟩
      cases outcome : (s.gathered settings bytes).response.takeOutcome.1 with
      | error fault => simp [outcome, Except.toBool] at ok
      | ok verdict =>
        have queue : s.queue = [] := orderly.queue released
        refine ⟨_, _, .answer rfl bytes_ne pending left isDone state outcome reuse rfl, rfl, ?_,
          .parted (.symm (.of_last rfl (.inl rfl) rfl rfl queue queue (orderly.held released)))⟩
        exact (told_tellAndShutDown pending _).symm
    · exact ⟨_, _, .answerLast rfl bytes_ne pending left isDone state again, rfl, rfl,
        .alike (.mk _ _ _ .closing)⟩
  case answerLate activity bytes_ne pending left isDone state =>
    rw [activity] at same
    cases same
    exact ⟨_, _, .answerLate rfl bytes_ne pending left isDone state, rfl, rfl,
      .alike (.mk _ _ _ .closing)⟩
  case hangUp activity event =>
    rw [activity] at same
    cases same
    refine ⟨_, _, .hangUp rfl event, ?_, rfl, .alike (.mk _ _ _ .ended)⟩
    rcases event with rfl | rfl <;> rfl
  case accept activity pos le =>
    rw [activity] at same
    cases same
    exact ⟨_, _, .accept rfl pos le, rfl, rfl, .alike (.mk _ _ _ (.writing ..))⟩
  case flush activity =>
    rw [activity] at same
    cases same
    exact ⟨_, _, .flush rfl, rfl, rfl, .alike (.mk _ _ _ (.listening ..))⟩
  case failWrite activity =>
    rw [activity] at same
    cases same
    exact ⟨_, _, .failWrite rfl, rfl, rfl, .alike (.mk _ _ _ .closing)⟩
  case shut activity =>
    rw [activity] at same
    cases same
    exact ⟨_, _, .shut rfl, rfl, rfl, .alike (.mk _ _ _ .ended)⟩
  case destroy activity =>
    exact ⟨_, _, .destroy fun ended => activity (same.eq_ended ended), rfl, rfl,
      .alike (.mk _ _ _ .ended)⟩

/-! ## Two sessions -/

theorem held_of_use (rule : Rule settings now s e s' fx) (use : e.IsUse) : s.held = true := by
  cases rule
  case refuse held _ | ready held _ | orphan held _ _ _ | claim held _ _ _ | close held |
    letGo held => exact held
  case hangUp event => rcases event with rfl | rfl <;> cases use
  all_goals cases use

/-- A session at rest stays so, and nothing comes of what happens to it. -/
theorem AtRest.rule (rest : AtRest s) (rule : Rule settings now s e s' fx)
    (idle : Entry.isOfUsers ⟨now, e, fx⟩ = true ∨ ¬e.IsUse) : AtRest s' ∧ told fx = [] := by
  have nothing : s.dropPending = [] ∧ s.dropQueue = [] := by
    simp [dropPending, dropQueue, rest.pending, rest.queue]
  have untold (outcome : Outcome) : s.tell outcome = [] := by simp [tell, rest.pending]
  cases rule
  case refuse | ready => exact ⟨rest, rfl⟩
  case orphan | claim | close =>
    rcases idle with users | unused
    · cases users
    · exact absurd trivial unused
  case letGo => exact ⟨⟨rest.pending, rest.queue, rest.writing⟩, rfl⟩
  case start head _ _ | turnDown head _ _ | obey head _ => cases rest.queue.symm.trans head
  case release pending | skip pending _ | gather pending _ _ | refuseOptions pending _ _ _ _ |
    ask pending _ _ _ _ | answer pending _ _ _ _ _ _ | answerLast pending _ _ _ _ |
    answerLate pending _ _ _ => cases rest.pending.symm.trans pending
  case abandon => exact ⟨⟨rfl, rest.queue, by rintro _ _ ⟨⟩⟩, by simp [dropPending, rest.pending]⟩
  case discard => exact ⟨⟨rest.pending, rest.queue, by rintro _ _ ⟨⟩⟩, rfl⟩
  case hangUp => exact ⟨⟨rfl, rfl, by rintro _ _ ⟨⟩⟩, by simp [untold, nothing]⟩
  case lapse => exact ⟨⟨rfl, rest.queue, by rintro _ _ ⟨⟩⟩, by simp [untold]⟩
  case accept activity _ _ | flush activity | failWrite activity | expireWrite activity _ =>
    exact absurd activity (rest.writing _ _)
  case shut | destroy => exact ⟨⟨rfl, rfl, by rintro _ _ ⟨⟩⟩, by simp [nothing]⟩

/-- A session at rest goes on unless its task comes to its end. -/
theorem AtRest.isOver_iff (rest : AtRest s) (rule : Rule settings now s e s' fx)
    (kept : Entry.isOfUsers ⟨now, e, fx⟩ = false) (unused : ¬e.IsUse) :
    IsOver s' ↔ e.read? = none := by
  cases rule
  case refuse | ready | orphan | claim | close | letGo => exact absurd trivial unused
  case start head _ _ | turnDown head _ _ | obey head _ => cases rest.queue.symm.trans head
  case abandon => cases kept
  case release pending | skip pending _ | gather pending _ _ | refuseOptions pending _ _ _ _ |
    ask pending _ _ _ _ | answer pending _ _ _ _ _ _ | answerLast pending _ _ _ _ |
    answerLate pending _ _ _ => cases rest.pending.symm.trans pending
  case discard => simp [IsOver, listening, Event.read?]
  case hangUp event => rcases event with rfl | rfl <;> exact iff_of_true (.inr rfl) rfl
  case lapse => exact iff_of_true (.inl rfl) rfl
  case accept activity _ _ | flush activity | failWrite activity | expireWrite activity _ =>
    exact absurd activity (rest.writing _ _)
  case shut | destroy => exact iff_of_true (.inr rfl) rfl

/-- With an event of users, the task of a session at rest comes to its end only if nobody holds the
session. -/
theorem AtRest.isOver_users (rest : AtRest s) (rule : Rule settings now s e s' fx)
    (users : Entry.isOfUsers ⟨now, e, fx⟩ = true) :
    (s'.held = true → IsOver s' → IsOver s) ∧ (IsOver s → IsOver s') := by
  cases rule
  case refuse | ready | letGo => exact ⟨fun _ => id, id⟩
  case release pending => cases rest.pending.symm.trans pending
  case abandon held _ _ _ =>
    exact ⟨fun h => (by cases held.symm.trans h), fun _ => .inl rfl⟩
  case hangUp event => rcases event with rfl | rfl <;> cases users
  all_goals cases users

/-- **An event of users** leaves a session to be the twin of the other one, and tells of no scan. -/
theorem Twin.users (twin : Twin s t) (step : Step settings now t e t' fx)
    (clock : InTime settings now) (users : Entry.isOfUsers ⟨now, e, fx⟩ = true) :
    Twin s t' ∧ told fx = [] := by
  have rule := step.rule clock
  cases twin with
  | alike alike =>
    obtain ⟨held', released', activity', same⟩ := alike
    clear step
    cases rule
    case refuse | ready => exact ⟨.alike (.mk _ _ _ same), rfl⟩
    case letGo => exact ⟨.alike (.mk _ _ _ same), rfl⟩
    case release activity _ _ _ _ =>
      obtain rfl := activity
      obtain ⟨patience, listening⟩ := same.exists_listening
      exact ⟨.alike (.mk _ _ _ (listening ▸ .listening ..)), rfl⟩
    case abandon activity held _ queue pending =>
      obtain rfl := activity
      obtain ⟨patience, listening⟩ := same.exists_listening
      refine ⟨.parted (.of_last listening (.inl rfl) pending rfl queue queue held), ?_⟩
      simp only [shutDown_snd, dropPending]
      rw [show s.pending = none from pending]
      rfl
    case hangUp event => rcases event with rfl | rfl <;> cases users
    all_goals cases users
  | parted parted =>
    obtain ⟨rest, nothing⟩ := parted.right.rule rule (.inl users)
    obtain ⟨ended, ends⟩ := parted.right.isOver_users rule users
    have held : t'.held = true → t.held = true := fun held => by
      by_contra free
      simp [not_held_of_step step (Bool.eq_false_iff.mpr free)] at held
    exact ⟨.parted ⟨parted.left, rest, parted.free.imp_right (not_held_of_step step),
      fun h isOver => parted.isOver (held h) (ended h isOver),
      fun h isOver => ends (parted.isOver' h isOver)⟩, nothing⟩

/-- **What happens besides users** happens alike to two sessions that are twins. -/
theorem Twin.step (twin : Twin s t) (orderly : Orderly s) (orderly' : Orderly t)
    (step : Step settings now s e s' fx) (step' : Step settings now' t e t' fx')
    (kept : Entry.isOfUsers ⟨now, e, fx⟩ = false) (kept' : Entry.isOfUsers ⟨now', e, fx'⟩ = false)
    (inTime : ¬e.IsLapse) (clock : InTime settings now) (clock' : InTime settings now') :
    Twin s' t' ∧ told fx' = told fx := by
  have rule := step.rule clock
  have rule' := step'.rule clock'
  cases twin with
  | alike alike =>
    obtain ⟨t₁, fx₁, rule₁, -, same, twin⟩ := exists_rule_of_alike alike orderly orderly' rule kept
      inTime (held_of_use rule') now'
    obtain ⟨rfl, rfl⟩ := Prod.mk.inj (Option.some.inj
      ((step?_of_step (rule₁.of_inTime clock')).symm.trans (step?_of_step step')))
    exact ⟨twin, same⟩
  | parted parted =>
    have unused : ¬e.IsUse := fun use => by
      rcases parted.free with free | free
      · simp [held_of_use rule use] at free
      · simp [held_of_use rule' use] at free
    obtain ⟨rest, nothing⟩ := parted.left.rule rule (.inr unused)
    obtain ⟨rest', nothing'⟩ := parted.right.rule rule' (.inr unused)
    have same := (parted.left.isOver_iff rule kept unused).trans
      (parted.right.isOver_iff rule' kept' unused).symm
    exact ⟨.parted ⟨rest, rest', parted.free.imp (not_held_of_step step) (not_held_of_step step'),
      fun _ => same.mpr, fun _ => same.mp⟩, nothing'.trans nothing.symm⟩

/-! ## Two runs -/

theorem kept?_eq_some {x : Entry} {e : Event} (h : x.kept? = some e) :
    x.event = e ∧ x.isOfUsers = false := by
  simp only [Entry.kept?] at h
  split at h
  · cases h
  next other => exact ⟨Option.some.inj h, Bool.eq_false_iff.mpr other⟩

theorem kept?_eq_none {x : Entry} (h : x.kept? = none) : x.isOfUsers = true := by
  simpa [Entry.kept?] using h

/-- Each event besides users stands somewhere in the run. -/
theorem Run.exists_of_kept {first more : List Event} (run : Run settings s₀ es s)
    (split : Session.kept es = first ++ e :: more) :
    ∃ before t now fx t' after, Run settings s₀ before t ∧ Session.kept before = first ∧
      t.step? settings now e = some (t', fx) ∧ Entry.isOfUsers ⟨now, e, fx⟩ = false ∧
      Run settings t' after s ∧ Session.kept after = more ∧
      es = before ++ ⟨now, e, fx⟩ :: after := by
  obtain ⟨before, rest, rfl, before_eq, rest_eq⟩ := List.filterMap_eq_append_iff.mp split
  obtain ⟨between, y, after, rfl, none, hy, after_eq⟩ := List.filterMap_eq_cons_iff.mp rest_eq
  obtain ⟨rfl, other⟩ := kept?_eq_some hy
  rw [← List.append_assoc] at run ⊢
  obtain ⟨t, t', run, h, later⟩ := run.exists_of_cons
  refine ⟨_, t, y.now, y.effects, t', after, run, ?_, h, other, later, after_eq, rfl⟩
  rw [kept_append, show Session.kept before = first from before_eq,
    show Session.kept between = [] from List.filterMap_eq_nil_iff.mpr none, List.append_nil]

/-- Events of users alone leave a session to be the twin of another one. -/
theorem Twin.users_run (twin : Twin s t) (run : Run settings t es t') (none : kept es = [])
    (clock : ∀ x ∈ es, InTime settings x.now) : Twin s t' ∧ told (effects es) = [] := by
  induction run with
  | start => exact ⟨twin, rfl⟩
  | @step es u now e u' fx run h ih =>
    rw [kept_append, List.append_eq_nil_iff] at none
    rw [List.forall_mem_append] at clock
    obtain ⟨twin', nothing⟩ := ih none.1 clock.1
    have users : Entry.isOfUsers ⟨now, e, fx⟩ = true :=
      kept?_eq_none (List.filterMap_eq_nil_iff.mp none.2 _ List.mem_cons_self)
    obtain ⟨twin'', nothing'⟩ := twin'.users (step_of_step? h)
      (clock.2 _ List.mem_cons_self) users
    exact ⟨twin'', by rw [effects_append, effects_singleton, told_append, nothing, nothing']; rfl⟩

/-- **Two runs in which the same happens besides users** tell the same of scans, and lead to
twins. -/
theorem twin_of_runs (orderly : Orderly s₀) (run : Run settings s₀ es s)
    (run' : Run settings s₀ es' t) (same : kept es' = kept es)
    (inTime : ∀ x ∈ es, ¬x.event.IsLapse) (clock : ∀ x ∈ es, InTime settings x.now)
    (clock' : ∀ x ∈ es', InTime settings x.now) :
    Twin s t ∧ told (effects es') = told (effects es) := by
  induction run generalizing es' t with
  | start => exact (Twin.alike (.refl s₀)).users_run run' same clock'
  | @step es s now e s' fx run h ih =>
    rw [List.forall_mem_append] at inTime clock
    have step := step_of_step? h
    have onTime := clock.2 _ List.mem_cons_self
    cases users : Entry.isOfUsers ⟨now, e, fx⟩ with
    | true =>
      have none : kept [⟨now, e, fx⟩] = [] := by simp [kept, Entry.kept?, users]
      rw [kept_append, none, List.append_nil] at same
      obtain ⟨twin, told_eq⟩ := ih run' same inTime.1 clock.1 clock'
      obtain ⟨twin', nothing⟩ := twin.symm.users step onTime users
      refine ⟨twin'.symm, ?_⟩
      rw [told_eq, effects_append, effects_singleton, told_append, nothing, List.append_nil]
    | false =>
      have one : kept [⟨now, e, fx⟩] = [e] := by simp [kept, Entry.kept?, users]
      rw [kept_append, one] at same
      -- the other run goes through the event, too, with events of users around it
      obtain ⟨before, u, now', fx', u', after, first, before_eq, h', users', last, after_eq, rfl⟩ :=
        run'.exists_of_kept same
      rw [List.forall_mem_append, List.forall_mem_cons] at clock'
      obtain ⟨clockBefore, onTime', clockAfter⟩ := clock'
      obtain ⟨twin, told_eq⟩ := ih first before_eq inTime.1 clock.1 clockBefore
      obtain ⟨twin', told_eq'⟩ := twin.step (orderly_of_run orderly run)
        (orderly_of_run orderly first) step (step_of_step? h') users users'
        (inTime.2 ⟨now, e, fx⟩ List.mem_cons_self) onTime onTime'
      obtain ⟨twin'', nothing⟩ := twin'.users_run last after_eq clockAfter
      refine ⟨twin'', ?_⟩
      have all : effects (before ++ ⟨now', e, fx'⟩ :: after) =
          effects before ++ (fx' ++ effects after) := by
        simp [effects]
      have all' : effects (es ++ [⟨now, e, fx⟩]) = effects es ++ fx := by simp
      rw [all, all', told_append, told_append, told_append, told_eq, told_eq', nothing,
        List.append_nil]

end Session

end Icap
