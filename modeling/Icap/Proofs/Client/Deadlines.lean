import Icap.Proofs.Client.Pools
import Icap.Proofs.Promise

/-!
# Deadlines of a client

A client reckons a deadline whenever something is to take no longer than so long: for a connection
that is opened, for a call that gets in line, and for a session that listens or writes. Each of them
is the instant of an event and, on top of it, a timeout of the settings or what a lease asks for.

The clock may end in between. Settings are accepted whatever their timeouts are, so this is left to
whoever writes them. The task of a session breaks off when it is to listen again and the clock
cannot tell for how long.

* `Deadlines` — what holds of all sessions and deadlines of a client.
* `Deadlines.step` — an event keeps it if it holds of what the event adds.
* `deadlines_of_history` — where all deadlines come from, and why tasks have come to their end.
* `OnTime` — all deadlines are on the clock.
* `exists_broken_of_late` — a task that breaks off because the clock ends.
* `deadlines_iff` — up to when deadlines are on the clock, and tasks do not break off.
* `exists_off_the_clock` — settings that are accepted, and with which it is otherwise at once.
-/

namespace Icap

/-! ## Sessions -/

/-- The deadline of what the task of a session waits for. -/
def Activity.deadline? : Activity → Option Deadline
  | .listening patience => some patience
  | .writing _ patience => some patience
  | .closing | .ended => none

/-- An event with which the task of a session comes to its end. -/
def Session.Event.Ends (e : Session.Event) : Prop :=
  e = .shut ∨ e = .destroyed ∨ e = .endOfStream ∨ e = .readFailed

/-- **The task of a session** keeps its deadline, or takes a new one for an inactivity timeout from
now. -/
theorem Session.deadline_of_step {settings : Settings} {now : Instant} {s s' : Session}
    {e : Session.Event} {fx : List Session.Effect} {x : Deadline}
    (step : Session.Step settings now s e s' fx) (hx : x ∈ s'.activity.deadline?) :
    x ∈ s.activity.deadline? ∨ x = Instant.after? now settings.inactivityTimeout := by
  rcases step.rule_or_ended with rule | ended
  · clear step
    cases rule
    case refuse | ready | orphan | claim | close | letGo => exact .inl hx
    case accept activity _ _ =>
      rw [activity]
      exact .inl hx
    case start | release | discard | skip | gather | ask | answer | flush =>
      exact .inr (Option.some.inj hx).symm
    all_goals cases hx
  · rw [ended] at hx
    cases hx

/-- The task of a session that comes to its end without reason breaks off: the clock cannot tell the
end of its new patience. -/
theorem Session.ends_of_step {settings : Settings} {now : Instant} {s s' : Session}
    {e : Session.Event} {fx : List Session.Effect} (step : Session.Step settings now s e s' fx)
    (ended : s'.activity = .ended) :
    s.activity = .ended ∨ e.Ends ∨ ¬Session.InTime settings now := by
  by_cases inTime : Session.InTime settings now
  · cases step.rule inTime
    case refuse | ready | orphan | claim | close | letGo => exact .inl ended
    case hangUp event => rcases event with rfl | rfl <;> simp [Session.Event.Ends]
    case shut | destroy => simp [Session.Event.Ends]
    all_goals cases ended
  · exact .inr (.inr inTime)

theorem Session.same_of_scan (s : Session) (filename : String) (payload : Bytes) :
    (s.scan filename payload).1.number = s.number ∧
      (s.scan filename payload).1.activity = s.activity := by
  simp only [Session.scan]
  split <;> (try split) <;> (try split) <;> exact ⟨rfl, rfl⟩

namespace Client

variable {settings : Settings} {c c' : Client} {now wall : Instant} {route : Route} {d : Desk}
  {P : Nat → Activity → Prop} {Q : Deadline → Prop} {s : Session} {k : Nat} {fx : List Effect}
  {job : Job} {notice : Desk.Notice} {notices : List Desk.Notice}

/-! ## All deadlines -/

/-- What the tasks of a client's sessions wait for is such, and so are its other deadlines. -/
structure Deadlines (P : Nat → Activity → Prop) (Q : Deadline → Prop) (c : Client) : Prop where
  sessions : ∀ s ∈ c.sessions, P s.number s.activity
  attempts : ∀ a ∈ c.attempts, Q a.patience
  calls : ∀ e ∈ c.desks, ∀ call ∈ e.2.calls, Q call.patience

theorem deadlines_start (settings : Settings) : Deadlines P Q { settings } where
  sessions := fun _ there => by cases there
  attempts := fun _ there => by cases there
  calls := fun _ there => by cases there

theorem Deadlines.mono {P' : Nat → Activity → Prop} {Q' : Deadline → Prop} (h : Deadlines P Q c)
    (tasks : ∀ k a, P k a → P' k a) (weaker : ∀ x, Q x → Q' x) : Deadlines P' Q' c where
  sessions := fun s hs => tasks _ _ (h.sessions s hs)
  attempts := fun a ha => weaker _ (h.attempts a ha)
  calls := fun e he call there => weaker _ (h.calls e he call there)

/-- How long a call for a lease is to wait. -/
def Event.lease? : Event → Option Duration
  | .call ⟨_, _, .lease patience⟩ => some patience
  | _ => none

/-- How long an event may have something wait. -/
def Event.Allows (settings : Settings) (e : Event) (d : Duration) : Prop :=
  d = settings.inactivityTimeout ∨ d = settings.connectTimeout ∨ d ∈ e.lease?

namespace Deadlines

theorem jobs (h : Deadlines P Q c) (jobs : List Job) : Deadlines P Q { c with jobs } :=
  ⟨h.sessions, h.attempts, h.calls⟩

theorem dropAttempts (h : Deadlines P Q c) (p : Attempt → Bool) :
    Deadlines P Q { c with attempts := c.attempts.filter p } :=
  ⟨h.sessions, fun a ha => h.attempts a (List.mem_of_mem_filter ha), h.calls⟩

theorem attempt (h : Deadlines P Q c) (connect : Q (Instant.after? now c.settings.connectTimeout))
    (route : Route) (reuse : Bool) (call : Nat) (pooled : Bool) :
    Deadlines P Q (c.attempt now route reuse call pooled).1 where
  sessions := h.sessions
  attempts := fun a ha => by
    rcases List.mem_append.mp ha with ha | ha
    · exact h.attempts a ha
    · obtain rfl := List.mem_singleton.mp ha
      exact connect
  calls := h.calls

theorem addSession (h : Deadlines P Q c) (hs : P s.number s.activity) :
    Deadlines P Q { c with sessions := c.sessions ++ [s] } where
  sessions := fun t ht => by
    rcases List.mem_append.mp ht with ht | ht
    · exact h.sessions t ht
    · obtain rfl := List.mem_singleton.mp ht
      exact hs
  attempts := h.attempts
  calls := h.calls

theorem setSession (h : Deadlines P Q c) (hs : P s.number s.activity) :
    Deadlines P Q (c.setSession s) where
  sessions := fun t ht => by
    obtain ⟨u, hu, rfl⟩ := List.mem_map.mp ht
    split
    · exact hs
    · exact h.sessions u hu
  attempts := h.attempts
  calls := h.calls

theorem of_session? (h : Deadlines P Q c) (found : c.session? k = some s) : P k s.activity :=
  number_of_session? found ▸ h.sessions s (List.mem_of_find?_eq_some found)

theorem startScan (h : Deadlines P Q c) (k : Nat) (filename : String) (payload : Bytes) :
    Deadlines P Q (c.startScan k filename payload).1 := by
  simp only [Client.startScan]
  split
  · exact h
  next s found =>
    obtain ⟨number, activity⟩ := s.same_of_scan filename payload
    refine h.setSession ?_
    rw [number, activity, number_of_session? found]
    exact h.of_session? found

theorem setDesk (h : Deadlines P Q c) (hd : ∀ call ∈ d.calls, Q call.patience) :
    Deadlines P Q (c.setDesk route d) where
  sessions := h.sessions
  attempts := h.attempts
  calls := fun e he => by
    obtain ⟨e', he', rfl⟩ := List.mem_map.mp he
    split
    · exact hd
    · exact h.calls e' he'

theorem addDesk (h : Deadlines P Q c) (route : Route) :
    Deadlines P Q { c with desks := c.desks ++ [(route, {})] } where
  sessions := h.sessions
  attempts := h.attempts
  calls := fun e he => by
    rcases List.mem_append.mp he with he | he
    · exact h.calls e he
    · obtain rfl := List.mem_singleton.mp he
      exact fun call there => by cases there

/-! ## Events -/

theorem heed (h : Deadlines P Q c) (connect : Q (Instant.after? now c.settings.connectTimeout))
    (route : Route) (notice : Desk.Notice) : Deadlines P Q (heed now route c notice).1 := by
  cases notice <;> simp only [Client.heed]
  case handed =>
    split
    · exact h.jobs _
    · exact h
  case refused =>
    split
    · exact h.jobs _
    · exact h
  case close session =>
    cases found : c.session? session with
    | none => exact h
    | some s => exact h.setSession (h.sessions s (List.mem_of_find?_eq_some found))
  case «open» => exact h.attempt connect ..

theorem heedAll (h : Deadlines P Q c) (connect : Q (Instant.after? now c.settings.connectTimeout))
    (route : Route) (notices : List Desk.Notice) :
    Deadlines P Q (heedAll now route c notices).1 := by
  induction notices generalizing c with
  | nil => exact h
  | cons notice notices ih =>
    rw [heedAll_cons]
    exact ih (h.heed connect route notice) ((Aside.heed now route c notice).settings ▸ connect)

/-- An event at a desk: calls come to it, and none of them gets a new deadline. -/
theorem deskStep {e : Desk.Event} (h : Deadlines P Q c)
    (connect : Q (Instant.after? now c.settings.connectTimeout))
    (arrived : ∀ call ∈ e.arrived, Q call.patience)
    (moved : c.deskStep? now wall route e = some (c', fx)) : Deadlines P Q c' := by
  obtain ⟨d, d', notices, found, step, rfl, -⟩ := exists_of_deskStep? moved
  refine heedAll (h.setDesk fun call there => ?_) connect route notices
  -- a call that is there now was there before, or has just come
  obtain ⟨gone, perm, -⟩ := (Desk.step_of_step? step).calls
  rcases List.mem_append.mp (perm.mem_iff.mpr (List.mem_append_right gone there)) with was | new
  · exact h.calls _ (mem_of_desk? found) call was
  · exact arrived call new

theorem lineUp {uses : Bool} {patience : Duration} (h : Deadlines P Q c)
    (connect : Q (Instant.after? now c.settings.connectTimeout))
    (own : Q (Instant.after? now patience)) :
    Deadlines P Q (c.lineUp now wall job uses patience).1 := by
  simp only [Client.lineUp]
  cases stepped : c.deskStep? now wall job.route
      (.arrive ⟨job.call, uses, Instant.after? now patience⟩) with
  | none => exact h
  | some result =>
    refine h.deskStep connect (fun call there => ?_) stepped
    obtain rfl := List.mem_singleton.mp there
    exact own

theorem begin (h : Deadlines P Q c)
    (allowed : ∀ d, Event.Allows c.settings (.call job) d → Q (Instant.after? now d)) :
    Deadlines P Q (c.begin now wall job).1 := by
  have connect := allowed _ (.inr (.inl rfl))
  have added := h.jobs (c.jobs ++ [job])
  simp only [Client.begin]
  split
  next => exact added.attempt connect ..
  next => exact added.attempt connect ..
  next patience wish =>
    split
    · refine added.lineUp connect (allowed _ (.inr (.inr ?_)))
      obtain ⟨call, route, _⟩ := job
      subst wish
      exact rfl
    · exact added.jobs _
  next =>
    split
    · exact added.lineUp connect connect
    · split
      · exact added.jobs _
      · exact (added.addDesk job.route).lineUp connect connect

theorem useStep (h : Deadlines P Q c) (connect : Q (Instant.after? now c.settings.connectTimeout))
    (moved : c.useStep? now wall route = some (c', fx)) : Deadlines P Q c' := by
  simp only [useStep?] at moved
  split at moved
  · split at moved
    next filename payload _ =>
      obtain ⟨⟨c₁, fx₁⟩, stepped, heq⟩ := Option.map_eq_some_iff.mp moved
      cases heq
      refine ((h.startScan ..).jobs _).deskStep ?_ (by simp [Desk.Event.arrived]) stepped
      exact (Aside.startScan c _ filename payload).settings ▸ connect
    · cases moved
  · cases moved

theorem connectedStep (h : Deadlines P Q c)
    (connect : Q (Instant.after? now c.settings.connectTimeout))
    (new : P k (.listening (Instant.after? now c.settings.inactivityTimeout)))
    (moved : c.connectedStep? now wall k = some (c', fx)) : Deadlines P Q c' := by
  simp only [connectedStep?] at moved
  split at moved
  · cases moved
  next a found =>
    have added := (h.dropAttempts fun a => a.session != k).addSession (s :=
      { Session.start c.settings k a.route a.reuse now with opened := wall }) new
    split at moved
    · exact added.deskStep connect (by simp [Desk.Event.arrived]) moved
    · split at moved
      · obtain ⟨rfl, -⟩ := Prod.mk.inj (Option.some.inj moved)
        exact (added.startScan ..).jobs _
      · obtain ⟨rfl, -⟩ := Prod.mk.inj (Option.some.inj moved)
        exact added.jobs _

theorem notConnectedStep (h : Deadlines P Q c)
    (connect : Q (Instant.after? now c.settings.connectTimeout))
    (moved : c.notConnectedStep? now wall k = some (c', fx)) : Deadlines P Q c' := by
  simp only [notConnectedStep?] at moved
  split at moved
  · cases moved
  next a found =>
    have dropped := h.dropAttempts fun a => a.session != k
    split at moved
    · exact dropped.deskStep connect (by simp [Desk.Event.arrived]) moved
    · obtain ⟨rfl, -⟩ := Prod.mk.inj (Option.some.inj moved)
      exact dropped.jobs _

theorem sessionStep {e : Session.Event} (h : Deadlines P Q c)
    (moves : ∀ s s' fx, Session.Step c.settings now s e s' fx → P k s.activity → P k s'.activity)
    (moved : c.sessionStep? now k e = some (c', fx)) : Deadlines P Q c' := by
  simp only [sessionStep?] at moved
  split at moved
  · cases moved
  next s found =>
    split at moved
    · cases moved
    · obtain ⟨⟨s', sfx⟩, step, heq⟩ := Option.map_eq_some_iff.mp moved
      obtain ⟨rfl, -⟩ := Prod.mk.inj heq
      have step := Session.step_of_step? step
      refine h.setSession ?_
      rw [(Session.same_of_step step).1, number_of_session? found]
      exact moves s s' sfx step (h.of_session? found)

theorem giveUpStep {call : Nat} (h : Deadlines P Q c)
    (connect : Q (Instant.after? now c.settings.connectTimeout))
    (moved : c.giveUpStep? now wall call = some (c', fx)) : Deadlines P Q c' := by
  simp only [giveUpStep?] at moved
  split at moved
  · cases moved
  next job found =>
    have dropped := (h.dropAttempts fun a => a.call != call).jobs (c.jobs.filter (·.call != call))
    generalize stepped : deskStep? _ now wall job.route (.leave call) = result at moved
    cases result with
    | none =>
      cases moved
      exact dropped
    | some result =>
      cases moved
      exact dropped.deskStep connect (by simp [Desk.Event.arrived]) stepped

/-- **An event adds few deadlines.** What holds of the deadlines of a client, and of those that the
event may add, holds of them afterwards, and so it is with what holds of its sessions if an event of
a session keeps it. -/
theorem step {e : Event} (h : Deadlines P Q c)
    (allowed : ∀ d, e.Allows c.settings d → Q (Instant.after? now d))
    (new : ∀ k, P k (.listening (Instant.after? now c.settings.inactivityTimeout)))
    (moves : ∀ k e', e = .session k e' → ∀ s s' fx, Session.Step c.settings now s e' s' fx →
      P k s.activity → P k s'.activity)
    (moved : c.step? now wall e = some (c', fx)) : Deadlines P Q c' := by
  have connect := allowed _ (.inr (.inl rfl))
  cases e with
  | call job =>
    simp only [step?] at moved
    split at moved
    · cases moved
    · obtain ⟨rfl, -⟩ := Prod.mk.inj (Option.some.inj moved)
      exact h.begin allowed
  | shutOut job =>
    obtain ⟨rfl, -⟩ := eq_of_shutOut? moved
    exact h
  | serve route late => exact h.deskStep connect (by simp [Desk.Event.arrived]) moved
  | use route => exact h.useStep connect moved
  | expire route call => exact h.deskStep connect (by simp [Desk.Event.arrived]) moved
  | connected session => exact h.connectedStep connect (new session) moved
  | notConnected session => exact h.notConnectedStep connect moved
  | session number e => exact h.sessionStep (moves number e rfl) moved
  | giveUp call => exact h.giveUpStep connect moved

end Deadlines

/-! ## Histories -/

variable {c₀ : Client} {es : List Entry}

theorem settings_of_history (history : History c₀ es c) : c.settings = c₀.settings := by
  induction history with
  | start => rfl
  | step _ h ih => exact (moves_of_step? h).settings.trans ih

/-- A deadline is the instant of an event and, on top of it, as long as the event may have something
wait. -/
def Reckoned (settings : Settings) (es : List Entry) (x : Deadline) : Prop :=
  ∃ y ∈ es, ∃ d, y.event.Allows settings d ∧ x = Instant.after? y.now d

/-- The task of a session has come to its end for a reason. -/
def Ended (es : List Entry) (k : Nat) : Prop := ∃ y ∈ es, ∃ e, y.event = .session k e ∧ e.Ends

theorem Reckoned.append {x : Deadline} (h : Reckoned settings es x) (es' : List Entry) :
    Reckoned settings (es ++ es') x := by
  obtain ⟨y, hy, known⟩ := h
  exact ⟨y, List.mem_append_left _ hy, known⟩

/-- **Where deadlines come from.** Each of them is the instant of an event and, on top of it, as
long as the event may have something wait. A task comes to its end for a reason, or when the clock
cannot tell the end of its patience. -/
theorem deadlines_of_history (history : History { settings } es c) :
    c.Deadlines (fun k a => (∀ x ∈ a.deadline?, Reckoned settings es x) ∧
        (a = .ended → Ended es k ∨ ∃ y ∈ es, ¬Session.InTime settings y.now))
      (Reckoned settings es) := by
  induction history with
  | start => exact deadlines_start settings
  | @step es c c' now wall e fx history h ih =>
    have last : (⟨now, wall, e, fx⟩ : Entry) ∈ es ++ [⟨now, wall, e, fx⟩] :=
      List.mem_append_right _ List.mem_cons_self
    have same := settings_of_history history
    have inactivity : Reckoned settings (es ++ [⟨now, wall, e, fx⟩])
        (Instant.after? now c.settings.inactivityTimeout) := by
      rw [same]
      exact ⟨_, last, _, .inl rfl, rfl⟩
    refine Deadlines.step (ih.mono ?_ fun x known => known.append _) ?_ ?_ ?_ h
    · rintro k a ⟨known, ended⟩
      refine ⟨fun x hx => (known x hx).append _, fun isEnded => (ended isEnded).imp ?_ ?_⟩
      · rintro ⟨y, hy, reason⟩
        exact ⟨y, List.mem_append_left _ hy, reason⟩
      · rintro ⟨y, hy, late⟩
        exact ⟨y, List.mem_append_left _ hy, late⟩
    · intro d allowed
      rw [same] at allowed
      exact ⟨_, last, d, allowed, rfl⟩
    · intro k
      refine ⟨fun x hx => ?_, fun ended => by cases ended⟩
      obtain rfl := Option.some.inj hx
      exact inactivity
    · rintro k e' event s s' sfx step ⟨known, ended⟩
      refine ⟨fun x hx => ?_, fun isEnded => ?_⟩
      · rcases Session.deadline_of_step step hx with was | rfl
        · exact known x was
        · exact inactivity
      · rcases Session.ends_of_step step isEnded with was | reason | late
        · exact ended was
        · exact .inl ⟨_, last, e', event, reason⟩
        · rw [same] at late
          exact .inr ⟨_, last, late⟩

/-- All deadlines of a client are on the clock. -/
def OnTime (c : Client) : Prop :=
  c.Deadlines (fun _ a => ∀ x ∈ a.deadline?, x.isSome = true) fun x => x.isSome = true

/-- **A client is on the clock** if all deadlines are that the events of its history may add. -/
theorem onTime_of_history (history : History { settings } es c)
    (room : ∀ y ∈ es, ∀ d, y.event.Allows settings d → y.now + d < Instant.bound) : c.OnTime := by
  have onClock (x : Deadline) (known : Reckoned settings es x) : x.isSome = true := by
    obtain ⟨y, hy, d, allowed, rfl⟩ := known
    exact Instant.isSome_after?.mpr (room y hy d allowed)
  exact (deadlines_of_history history).mono (fun k a known x hx => onClock x (known.1 x hx)) onClock

/-- **Tasks do not break off** if the clock can always tell the end of the patience of a session. -/
theorem ended_of_history (history : History { settings } es c)
    (inTime : ∀ y ∈ es, Session.InTime settings y.now) (found : c.session? k = some s)
    (isEnded : s.activity = .ended) : Ended es k := by
  refine (((deadlines_of_history history).of_session? found).2 isEnded).resolve_right ?_
  rintro ⟨y, hy, late⟩
  exact late (inTime y hy)

/-- What becomes of a client with events that all happen at one instant, if all of them can. -/
def replay? (now : Instant) (c : Client) : List Event → Option (List Entry × Client)
  | [] => some ([], c)
  | e :: later =>
    match c.step? now 0 e with
    | none => none
    | some (c', fx) => (replay? now c' later).map fun r => (⟨now, 0, e, fx⟩ :: r.1, r.2)

theorem history_of_replay? {events : List Event} {es' : List Entry} (history : History c₀ es c)
    (h : replay? now c events = some (es', c')) :
    History c₀ (es ++ es') c' ∧ es'.map Entry.event = events ∧ ∀ y ∈ es', y.now = now := by
  induction events generalizing c es es' with
  | nil =>
    cases h
    exact ⟨by rwa [List.append_nil], rfl, fun _ there => by cases there⟩
  | cons e later ih =>
    simp only [replay?] at h
    split at h
    · cases h
    next c₁ fx step =>
      obtain ⟨⟨es₁, c₂⟩, rest, heq⟩ := Option.map_eq_some_iff.mp h
      cases heq
      obtain ⟨history, events, instants⟩ := ih (history.step step) rest
      rw [List.append_assoc] at history
      exact ⟨history, congrArg (e :: ·) events, List.forall_mem_cons.mpr ⟨rfl, instants⟩⟩

/-! ## The end of the clock -/

/-- A session that belongs to no pool is asked for. -/
def asking : List Event := [.call ⟨1, somewhere, .connect⟩]

/-- A session that belongs to no pool is opened. -/
def opening : List Event := asking ++ [.connected 1]

/-- An event of a session is one of its client, unless it is let go. -/
theorem step?_of_session (wall : Instant) {e : Session.Event} {s' : Session}
    {effects : List Session.Effect} (found : c.session? k = some s)
    (step : Session.Step c.settings now s e s' effects) (kept : e ≠ .letGo) :
    c.step? now wall (.session k e) = some (c.setSession s', effects.map (.session k)) := by
  simp only [step?, sessionStep?, found, kept, false_and, if_false, Session.step?_of_step step,
    Option.map_some]

/-- **A task breaks off** when it reads something at an instant from which on the clock cannot tell
the end of its patience. -/
theorem exists_broken_of_late (late : ¬Session.InTime settings now) :
    ∃ es c s, History { settings } es c ∧ (∀ y ∈ es, y.now = now) ∧ c.session? 1 = some s ∧
      s.activity = .ended ∧ ¬Ended es 1 := by
  obtain ⟨es, c, replay, s, found, kept, number, patience, activity, pending⟩ :
      ∃ es c, replay? now { settings } opening = some (es, c) ∧
        ∃ s, c.session? 1 = some s ∧ c.settings = settings ∧ s.number = 1 ∧
          ∃ patience, s.activity = .listening patience ∧ s.pending = none :=
    ⟨_, _, rfl, _, rfl, rfl, rfl, _, rfl, rfl⟩
  obtain ⟨history, events, instants⟩ := history_of_replay? .start replay
  have broken : (Session.listening c.settings now (s.skipped [0])).activity = .listening none :=
    congrArg Activity.listening (Option.not_isSome_iff_eq_none.mp (kept.symm ▸ late))
  have step := step?_of_session 0 found
    (.breakOff (.discard activity (List.cons_ne_nil 0 []) pending) id broken) nofun
  refine ⟨_, _, _, history.step step, List.forall_mem_append.mpr ⟨instants, ?_⟩,
    (session?_setSession ..).trans ((if_pos number.symm).trans (congrArg _ found)), rfl, ?_⟩
  · exact List.forall_mem_singleton.mpr rfl
  · rintro ⟨y, hy, e, event, reason⟩
    rcases List.mem_append.mp hy with old | last
    · have among : Event.session 1 e ∈ opening := by
        rw [← events, ← event]
        exact List.mem_map_of_mem old
      simp [opening, asking] at among
    · obtain rfl := List.mem_singleton.mp last
      obtain rfl := (Event.session.inj event).2
      simp [Session.Event.Ends] at reason

/-- **Up to when a client is safe.** However a client is used up to an instant, and however long its
leases are to take as long as they end on the clock: all its deadlines are on the clock exactly if
those are that both of its timeouts lead to from there, and no task breaks off exactly if the one is
that its inactivity timeout leads to. The same is true of a thread that waits for the outcome of a
scan. -/
theorem deadlines_iff (settings : Settings) (T : Instant) :
    ((∀ es c, History { settings } es c → (∀ y ∈ es, y.now ≤ T) →
        (∀ y ∈ es, ∀ patience ∈ y.event.lease?, T + patience < Instant.bound) → c.OnTime) ↔
      T + settings.inactivityTimeout < Instant.bound ∧
        T + settings.connectTimeout < Instant.bound) ∧
      ((∀ es c, History { settings } es c → (∀ y ∈ es, y.now ≤ T) → ∀ k s,
          c.session? k = some s → s.activity = .ended → Ended es k) ↔
        T + settings.inactivityTimeout < Instant.bound) ∧
      ∀ (p : Promise) begun patience turns,
        (p.blockFor? begun patience turns).isSome = true ↔ begun + patience < Instant.bound := by
  refine ⟨⟨fun safe => ?_, fun ⟨inactivity, connect⟩ es c history early leases => ?_⟩,
    ⟨fun safe => ?_, fun inactivity es c history early k s found => ?_⟩,
    fun p begun patience turns => Promise.isSome_blockFor?⟩
  · -- each of the timeouts has a history in which it counts from the last instant
    have reached {events : List Event} {es : List Entry} {c : Client}
        (replay : replay? T { settings } events = some (es, c))
        (leases : ∀ e ∈ events, e.lease? = none) : c.OnTime := by
      obtain ⟨history, rfl, instants⟩ := history_of_replay? .start replay
      refine safe es c history (fun y hy => (instants y hy).le) fun y hy patience lease => ?_
      cases (leases _ (List.mem_map_of_mem hy)).symm.trans lease
    obtain ⟨es, c, replay, a, ha, connecting⟩ :
        ∃ es c, replay? T { settings } asking = some (es, c) ∧
          ∃ a ∈ c.attempts, a.patience = T.after? settings.connectTimeout :=
      ⟨_, _, rfl, _, List.mem_cons_self, rfl⟩
    obtain ⟨es', c', replay', s, hs, listening⟩ :
        ∃ es c, replay? T { settings } opening = some (es, c) ∧
          ∃ s ∈ c.sessions, s.activity = .listening (T.after? settings.inactivityTimeout) :=
      ⟨_, _, rfl, _, List.mem_cons_self, rfl⟩
    have listens := (reached replay' (by decide)).sessions s hs
    have connects := (reached replay (by decide)).attempts a ha
    rw [listening] at listens
    rw [connecting] at connects
    exact ⟨Instant.isSome_after?.mp (listens _ rfl), Instant.isSome_after?.mp connects⟩
  · refine onTime_of_history history fun y hy d allowed => ?_
    refine Nat.lt_of_le_of_lt (Nat.add_le_add_right (early y hy) d) ?_
    rcases allowed with rfl | rfl | lease
    · exact inactivity
    · exact connect
    · exact leases y hy d lease
  · by_contra late
    obtain ⟨es, c, s, history, instants, found, isEnded, none⟩ :=
      exists_broken_of_late fun inTime => late (Instant.isSome_after?.mp inTime)
    exact none (safe es c history (fun y hy => (instants y hy).le) 1 s found isEnded)
  · exact ended_of_history history (fun y hy =>
      Session.InTime.of_le (Instant.isSome_after?.mpr inactivity) (early y hy)) found

/-! ### Settings that lead off the clock -/

/-- Timeouts that are numbers of seconds, as great as may be. -/
def farAhead : Document :=
  .map [(.text "inactivity_timeout", .text "18446744073709551615"),
    (.text "connect_timeout", .text "18446744073709551615")]

/-- A call for a scan and one for a lease get in line, and a session that belongs to no pool hears
something that nobody has asked for. -/
def lingering : List Event :=
  [.call ⟨2, somewhere, .scan "a" [65]⟩, .call ⟨3, somewhere, .lease Session.longest⟩] ++ opening ++
    [.session 1 (.read [0])]

/-- A client to wait as long as may be. -/
def patient : Settings where
  inactivityTimeout := Session.longest
  connectTimeout := Session.longest

/-- **Settings may lead off the clock.** There are settings that are accepted, and with them, from
the start of the clock, it cannot tell how long calls for a scan and for a lease stand in line and
how long a thread waits, and the task of a session breaks off once it has read something, with the
session still connected. -/
theorem exists_off_the_clock :
    ∃ settings c₀ es c, Settings.read farAhead = .ok settings ∧ settings.check = .ok () ∧
      make settings = .ok c₀ ∧ History c₀ es c ∧ es.map Entry.event = lingering ∧
      (∀ y ∈ es, y.now = 0) ∧
      (c.desk? somewhere).map (fun d => d.line.map Call.patience) = some [none, none] ∧
      (c.session? 1).map (fun s => (s.activity, s.state)) = some (.ended, .connected) ∧
      ∀ (p : Promise) turns, p.blockFor? 0 Session.longest turns = none := by
  have read : Settings.read farAhead = .ok patient := by decide +kernel
  obtain ⟨es, c, replay, line, session⟩ :
      ∃ es c, replay? 0 { settings := patient } lingering = some (es, c) ∧
        (c.desk? somewhere).map (fun d => d.line.map Call.patience) = some [none, none] ∧
        (c.session? 1).map (fun s => (s.activity, s.state)) = some (.ended, .connected) :=
    ⟨_, _, rfl, rfl, rfl⟩
  obtain ⟨history, events, instants⟩ := history_of_replay? .start replay
  exact ⟨_, _, es, c, read, rfl, rfl, history, events, instants, line, session,
    fun _ _ => rfl⟩

end Client

end Icap
