import Icap.Proofs.Client.Failures
import Icap.Proofs.Client.Moves

/-!
# Scans of one client do not collide

Any number of calls for scans, for any routes, share the sessions of a client. Events come in any
order; only a call that has been handed a session goes on at once, and starts its scan before
anything else happens.

* `turn?` — an event, and the scan that is started with it.
* `Run` — the runs of a client that is used for scans alone.
* `CutOff` — the task of a session may have ended without a word.
* `Sound.turn_of_step` — what comes of an event in a turn.
* `sound_of_run`, `opening_of_run` — what holds at every point of a run.
* `scans_of_run` — no scan collides with another one.
* `exists_call_without_task` — a call that is handed a session whose task has been cut off.
-/

namespace Icap

/-- Whether a call is about to use its session. -/
def Desk.isInUse (d : Desk) : Bool :=
  match d.served with
  | some (_, .using _ _) => true
  | _ => false

theorem Desk.isInUse_iff {d : Desk} : d.isInUse = true ↔ d.InUse := by
  simp only [isInUse, InUse]
  split
  next call id n served => exact iff_of_true rfl ⟨call, id, n, served⟩
  next other =>
    refine iff_of_false Bool.noConfusion ?_
    rintro ⟨call, id, n, served⟩
    exact other call id n served

namespace Client

/-! ## Turns -/

/-- The route whose pool has handed a session to a call that is about to use it. -/
def inUse? (c : Client) : Option Route :=
  (c.desks.map Prod.fst).find? fun route => (c.desk? route).any Desk.isInUse

/-- One event, unless it cannot happen now. A call that is handed a session with it starts its scan
before anything else happens. -/
def turn? (c : Client) (now wall : Instant) (e : Event) : Option (Client × List Effect) :=
  match c.step? now wall e with
  | none => none
  | some (c, fx) =>
    match c.inUse? with
    | none => some (c, fx)
    | some route => (c.step? now wall (.use route)).map fun (c, more) => (c, fx ++ more)

/-- An event in the history of a client. -/
structure Entry where
  now : Instant
  wall : Instant
  event : Event
  effects : List Effect

/-- The runs of a client that is used for scans alone. -/
inductive Run (settings : Settings) : List Entry → Client → Prop
  | start : Run settings [] { settings }
  | step {es c now wall e c' fx} (run : Run settings es c) (scans : e.IsForScans)
      (h : c.turn? now wall e = some (c', fx)) : Run settings (es ++ [⟨now, wall, e, fx⟩]) c'

/-- All that a history brought about. -/
def effects (es : List Entry) : List Effect := es.flatMap Entry.effects

/-- An event with which the task of a session may end without a word. -/
def Event.CutsOff (settings : Settings) (now : Instant) (k : Nat) : Event → Prop
  | .session number e => number = k ∧ Session.CutsOff settings now e
  | _ => False

instance (settings : Settings) (now : Instant) (k : Nat) (e : Event) :
    Decidable (e.CutsOff settings now k) :=
  match e with
  | .session number e => inferInstanceAs (Decidable (number = k ∧ Session.CutsOff settings now e))
  | .call _ | .shutOut _ | .serve _ _ | .use _ | .expire _ _ | .connected _ | .notConnected _
  | .giveUp _ =>
    inferInstanceAs (Decidable False)

/-- The task of a session may have ended without a word. -/
def CutOff (settings : Settings) (es : List Entry) (k : Nat) : Prop :=
  ∃ x ∈ es, x.event.CutsOff settings x.now k

instance (settings : Settings) (es : List Entry) (k : Nat) : Decidable (CutOff settings es k) :=
  inferInstanceAs (Decidable (∃ x ∈ es, _))

/-- A call is handed a session with an event. -/
def Hands (c : Client) (now wall : Instant) (e : Event) (call k : Nat) : Prop :=
  ∃ c' fx route d a n, c.step? now wall e = some (c', fx) ∧ c'.desk? route = some d ∧
    d.served = some (a, .using k n) ∧ a.number = call

variable {cut : Nat → Prop} {settings : Settings} {c c' : Client} {now wall : Instant}
  {route : Route} {d : Desk} {k n : Nat} {fx fx' : List Effect} {job : Job} {es : List Entry}

theorem CutOff.append (h : CutOff settings es k) (es' : List Entry) :
    CutOff settings (es ++ es') k := by
  obtain ⟨x, hx, cut⟩ := h
  exact ⟨x, List.mem_append_left _ hx, cut⟩

theorem free_of_inUse? (h : c.inUse? = none) : Free c := by
  intro route d found inUse
  have := List.find?_eq_none.mp h route (List.mem_map_of_mem (mem_of_desk? found))
  simp [found, Desk.isInUse_iff.mpr inUse] at this

theorem exists_of_inUse? (h : c.inUse? = some route) : ∃ d, c.desk? route = some d ∧ d.InUse := by
  have := List.find?_some h
  cases found : c.desk? route with
  | none => simp [found] at this
  | some d => exact ⟨d, rfl, Desk.isInUse_iff.mp (by simpa [found] using this)⟩

/-! ## Runs -/

/-- No call is handed a session with an event of a session. -/
theorem not_session_of_inUse {e : Event} (free : Free c) (h : c.step? now wall e = some (c', fx))
    (found : c'.desk? route = some d) (inUse : d.InUse) (k : Nat) (e' : Session.Event) :
    e ≠ .session k e' := by
  rintro rfl
  simp only [step?, sessionStep?] at h
  split at h
  · cases h
  split at h
  · cases h
  obtain ⟨⟨s, sfx⟩, -, heq⟩ := Option.map_eq_some_iff.mp h
  cases heq
  exact free route d found inUse

/-- **A turn is an event, and the scan of the call that has been handed a session with it.** -/
theorem Sound.turn_of_step {e : Event} (sound : Sound cut fx c) (cut' : Nat → Prop)
    (free : Free c) (scans : e.IsForScans) (more : ∀ k, cut k → cut' k)
    (cuts : ∀ k e', e = .session k e' → Session.CutsOff c.settings now e' → cut' k)
    (h : c.step? now wall e = some (c', fx')) :
    (c.turn? now wall e = some (c', fx') ∧ Sound cut' (fx ++ fx') c' ∧ Free c') ∨
      ∃ route d call k n c'' result, c'.desk? route = some d ∧
        d.served = some (call, .using k n) ∧ Starts cut k result ∧
        c.turn? now wall e = some (c'', fx' ++ [.finished call.number result]) ∧
        Sound cut' (fx ++ (fx' ++ [.finished call.number result])) c'' ∧ Free c'' := by
  cases inUse : c'.inUse? with
  | none =>
    exact .inl ⟨by simp only [turn?, h, inUse], ((sound.mono more).step free scans cuts h).1,
      free_of_inUse? inUse⟩
  | some route =>
    obtain ⟨d, found, call, k, n, served⟩ := exists_of_inUse? inUse
    -- the event is none of a session, so no task has been cut off with it
    obtain ⟨sound', poised⟩ := sound.step free scans (fun k' e' event =>
      (not_session_of_inUse free h found ⟨call, k, n, served⟩ k' e' event).elim) h
    obtain ⟨c'', result, used, starts, sound'', free'⟩ :=
      sound'.useStep poised found served now wall
    rw [List.append_assoc] at sound''
    exact .inr ⟨route, d, call, k, n, c'', result, found, served, starts,
      by simp only [turn?, h, inUse, used, Option.map_some], sound''.mono more, free'⟩

theorem exists_of_turn? {e : Event} (h : c.turn? now wall e = some (c', fx')) :
    ∃ c₁ fx₁, c.step? now wall e = some (c₁, fx₁) := by
  simp only [turn?] at h
  split at h
  · cases h
  next c₁ fx₁ step => exact ⟨c₁, fx₁, step⟩

theorem settings_of_turn? {e : Event} (h : c.turn? now wall e = some (c', fx)) :
    c'.settings = c.settings := by
  simp only [turn?] at h
  split at h
  · cases h
  next c₁ fx₁ step =>
    have same := (moves_of_step? step).settings
    split at h
    · cases h
      exact same
    · obtain ⟨⟨c₂, fx₂⟩, used, heq⟩ := Option.map_eq_some_iff.mp h
      cases heq
      exact (moves_of_step? used).settings.trans same

theorem settings_of_run (run : Run settings es c) : c.settings = settings := by
  induction run with
  | start => rfl
  | step run scans h ih => exact (settings_of_turn? h).trans ih

/-- **The invariant holds at every point of a run**, and no call is about to use its session. -/
theorem sound_of_run (run : Run settings es c) :
    Sound (CutOff settings es) (effects es) c ∧ Free c := by
  induction run with
  | start => exact ⟨sound_start _ settings, fun route d found => by cases found⟩
  | @step es c now wall e c' fx run scans h ih =>
    obtain ⟨sound, free⟩ := ih
    have told : effects (es ++ [⟨now, wall, e, fx⟩]) = effects es ++ fx := by simp [effects]
    have cuts (k : Nat) (e' : Session.Event) (event : e = .session k e')
        (cut : Session.CutsOff c.settings now e') :
        CutOff settings (es ++ [⟨now, wall, e, fx⟩]) k :=
      ⟨_, List.mem_append_right _ List.mem_cons_self, event ▸ ⟨rfl, settings_of_run run ▸ cut⟩⟩
    rw [told]
    obtain ⟨c₁, fx₁, step⟩ := exists_of_turn? h
    rcases sound.turn_of_step _ free scans (fun _ cut => cut.append _) cuts step with
      ⟨turn, kept⟩ | ⟨_, _, _, _, _, _, _, -, -, -, turn, kept⟩
    all_goals
      obtain ⟨rfl, rfl⟩ := Prod.mk.inj (Option.some.inj (turn.symm.trans h))
      exact kept

theorem Opening.turn {e : Event} (opening : Opening c) (sound : Sound cut fx c)
    (scans : e.IsForScans) (h : c.turn? now wall e = some (c', fx')) : Opening c' := by
  simp only [turn?] at h
  split at h
  · cases h
  next c₁ fx₁ step =>
    have opening₁ := opening.step sound scans step
    split at h
    · cases h
      exact opening₁
    · obtain ⟨⟨c₂, fx₂⟩, used, heq⟩ := Option.map_eq_some_iff.mp h
      cases heq
      exact opening₁.useStep used

/-- Connections are opened for the calls that are served. -/
theorem opening_of_run (run : Run settings es c) : Opening c := by
  induction run with
  | start => exact opening_start settings
  | step run scans h ih => exact ih.turn (sound_of_run run).1 scans h

/-! ## All calls -/

/-- A call that has been handed a session only fails if the task of the session has been cut
off. -/
theorem Sound.excused_of_turn? {e : Event} {fault : ScanFault} (sound : Sound cut fx c)
    (free : Free c) (opening : Opening c) (scans : e.IsForScans)
    (h : c.turn? now wall e = some (c', fx')) (failed : .finished n (.error fault) ∈ fx') :
    Excused c e n fault ∨
      fault = .requestFailed .taskGone ∧ ∃ k, c.Hands now wall e n k ∧ cut k := by
  obtain ⟨c₁, fx₁, step⟩ := exists_of_turn? h
  rcases sound.turn_of_step (fun _ => True) free scans (fun _ _ => trivial)
    (fun _ _ _ _ => trivial) step with
    ⟨turn, -⟩ | ⟨route, d, call, k, m, c₂, result, found, served, starts, turn, -⟩
  all_goals obtain ⟨rfl, rfl⟩ := Prod.mk.inj (Option.some.inj (turn.symm.trans h))
  · exact .inl (sound.excused opening scans step failed)
  rcases List.mem_append.mp failed with before | now
  · exact .inl (sound.excused opening scans step before)
  · obtain ⟨rfl, same⟩ : n = call.number ∧ .error fault = result := by simpa using now
    cases starts with
    | started reply => cases same
    | cutOff cuts =>
      cases same
      exact .inr ⟨rfl, k, ⟨c₁, fx₁, route, d, call, m, step, found, served, rfl⟩, cuts⟩

/-- **Scans of one client do not collide.** At every point of a run of a client that is used for
scans alone, whatever the routes, the files, the connections and the servers are:

* at most one of the scans of a session has no outcome yet;
* a call that fails with the next event does so because there can be no pool or no session for it,
  because the session that was being opened for it could not be, because its time is over, or
  because it is handed a session whose task has been cut off, and never because a session is in use;
* a call that is handed a session with the next event starts its scan on this session at once,
  unless the task of the session has been cut off. -/
theorem scans_of_run (run : Run settings es c) :
    (∀ k, ((Session.promised (of k (effects es))).filter fun n =>
        (Session.outcome? (of k (effects es)) (.promised n)).isNone).length ≤ 1) ∧
      (∀ now wall e c' fx, e.IsForScans → c.turn? now wall e = some (c', fx) →
        ∀ call fault, .finished call (.error fault) ∈ fx → Excused c e call fault ∨
          fault = .requestFailed .taskGone ∧
            ∃ k, c.Hands now wall e call k ∧ CutOff settings es k) ∧
      ∀ now wall e c' fx, e.IsForScans → c.step? now wall e = some (c', fx) →
        ∀ route d call k n, c'.desk? route = some d → d.served = some (call, .using k n) →
          ∃ c'' result, Starts (CutOff settings es) k result ∧
            c.turn? now wall e = some (c'', fx ++ [.finished call.number result]) := by
  obtain ⟨sound, free⟩ := sound_of_run run
  refine ⟨fun k => ?_, fun now wall e c' fx scans h call fault failed =>
    sound.excused_of_turn? free (opening_of_run run) scans h failed, ?_⟩
  · cases found : c.session? k with
    | none =>
      rw [sound.silent k found]
      exact Nat.zero_le _
    | some s => exact (sound.ledger k s found).1.unsettled_length_le
  · intro now wall e c' fx scans step route d call k n found served
    have inUse : d.InUse := ⟨call, k, n, served⟩
    have poised := (sound.step free scans (fun k' e' event =>
      (not_session_of_inUse free step found inUse k' e' event).elim) step).2
    rcases sound.turn_of_step (fun _ => True) free scans (fun _ _ => trivial)
      (fun _ _ _ _ => trivial) step with
      ⟨turn, -, free'⟩ |
        ⟨route', d', call', k', n', c'', result, found', served', starts, turn, -⟩
    · exact absurd inUse (free' route d found)
    · obtain rfl := poised.one route d route' d' found found' inUse ⟨_, _, _, served'⟩
      obtain rfl := Option.some.inj (found.symm.trans found')
      cases served.symm.trans served'
      exact ⟨c'', result, starts, turn⟩

/-! ### Two sessions, three calls -/

/-- The history and the end of the run that goes through events, if all of them can happen. -/
def play? (now : Instant) : Client → List Event → Option (List Entry × Client)
  | c, [] => some ([], c)
  | c, e :: more =>
    match c.turn? now now e with
    | none => none
    | some (c', fx) => (play? now c' more).map fun (es, c'') => (⟨now, now, e, fx⟩ :: es, c'')

theorem run_of_play? {events : List Event} {es' : List Entry} (run : Run settings es c)
    (scans : ∀ e ∈ events, e.IsForScans) (h : play? now c events = some (es', c')) :
    Run settings (es ++ es') c' ∧ es'.map Entry.event = events := by
  induction events generalizing es c es' with
  | nil =>
    cases h
    exact ⟨by rwa [List.append_nil], rfl⟩
  | cons e more ih =>
    simp only [play?] at h
    split at h
    · cases h
    next c₁ fx turn =>
      obtain ⟨⟨es'', c''⟩, play, heq⟩ := Option.map_eq_some_iff.mp h
      cases heq
      obtain ⟨next, events⟩ := ih (run.step (scans e List.mem_cons_self) turn)
        (fun e he => scans e (List.mem_cons_of_mem _ he)) play
      rw [List.append_assoc] at next
      exact ⟨next, congrArg (e :: ·) events⟩

/-- The run that goes through events, and what has been found out about it. -/
theorem exists_run_of_play? {events : List Event} {p : List Entry × Client → Bool}
    (scans : ∀ e ∈ events, e.IsForScans)
    (h : (play? now { settings } events).elim false p = true) :
    ∃ es c, Run settings es c ∧ es.map Entry.event = events ∧ p (es, c) = true := by
  cases played : play? now { settings } events with
  | none => simp [played] at h
  | some played' =>
    rw [played] at h
    obtain ⟨run, events⟩ := run_of_play? .start scans played
    exact ⟨_, _, run, events, h⟩

/-- A route. -/
def somewhere : Route := ⟨"h", 1, "s"⟩

/-- A call starts its scan on a session. While it is busy a second one is opened for a call with an
empty file, which gives it back. The first session dies, and a third call waits to be served. -/
def sharing : List Event :=
  [.call ⟨1, somewhere, .scan "a" [65]⟩, .serve somewhere fun _ => false,
    .call ⟨2, somewhere, .scan "e" []⟩, .connected 1, .serve somewhere fun _ => false,
    .session 1 .command, .connected 2, .session 1 (.writeFailed .reset),
    .call ⟨3, somewhere, .scan "b" [66]⟩]

theorem scans_of_run_sharing :
    ∃ es c, Run { userAgent := "u" } es c ∧
      .finished 1 (.ok (.scan 1 (.promised 1))) ∈ effects es ∧
      .finished 2 (.ok (.scan 2 (.ready Session.emptyVerdict))) ∈ effects es ∧
      (c.turn? 0 0 (.expire somewhere 3)).map Prod.snd =
        some [.finished 3 (.error .notConnected)] ∧
      ((c.step? 0 0 (.serve somewhere fun _ => false)).bind fun r => r.1.inUse?) =
        some somewhere ∧
      ¬CutOff { userAgent := "u" } es 1 ∧ ¬CutOff { userAgent := "u" } es 2 ∧
      (∀ k, ((Session.promised (of k (effects es))).filter fun n =>
        (Session.outcome? (of k (effects es)) (.promised n)).isNone).length ≤ 1) ∧
      (∀ now wall e c' fx, e.IsForScans → c.turn? now wall e = some (c', fx) →
        ∀ call fault, .finished call (.error fault) ∈ fx → Excused c e call fault ∨
          fault = .requestFailed .taskGone ∧
            ∃ k, c.Hands now wall e call k ∧ CutOff { userAgent := "u" } es k) ∧
      ∀ now wall e c' fx, e.IsForScans → c.step? now wall e = some (c', fx) →
        ∀ route d call k n, c'.desk? route = some d → d.served = some (call, .using k n) →
          ∃ c'' result, Starts (CutOff { userAgent := "u" } es) k result ∧
            c.turn? now wall e = some (c'', fx ++ [.finished call.number result]) := by
  have h : (play? 0 { settings := { userAgent := "u" } } sharing).elim false (fun played =>
      .finished 1 (.ok (.scan 1 (.promised 1))) ∈ effects played.1 ∧
        .finished 2 (.ok (.scan 2 (.ready Session.emptyVerdict))) ∈ effects played.1 ∧
        (played.2.turn? 0 0 (.expire somewhere 3)).map Prod.snd =
          some [.finished 3 (.error .notConnected)] ∧
        ((played.2.step? 0 0 (.serve somewhere fun _ => false)).bind fun r => r.1.inUse?) =
          some somewhere ∧
        ¬CutOff { userAgent := "u" } played.1 1 ∧ ¬CutOff { userAgent := "u" } played.1 2) =
          true := by
    decide +kernel
  have scans : ∀ e ∈ sharing, e.IsForScans := by
    simp [sharing, Event.IsForScans, Job.IsForScan]
  obtain ⟨es, c, run, -, found⟩ := exists_run_of_play? scans h
  obtain ⟨first, second, late, handed, spared⟩ := of_decide_eq_true found
  exact ⟨es, c, run, first, second, late, handed, spared.1, spared.2, scans_of_run run⟩

/-! ### A session whose task breaks off -/

/-- A session is opened for a call with an empty file, which gives it back. It reads something that
nobody has asked for, and a second call gets in line. -/
def idling : List Event :=
  [.call ⟨1, somewhere, .scan "e" []⟩, .serve somewhere fun _ => false, .connected 1,
    .session 1 (.read [0]), .call ⟨2, somewhere, .scan "a" [65]⟩]

/-- **A call may fail on the session that it is handed.** There are settings that are accepted, and
with them the task of an idle session ends when it reads something that nobody has asked for, and
the session stays connected. Its pool hands it to the next call, which fails for want of a task. -/
theorem exists_call_without_task :
    ∃ settings es c, Settings.read Session.lasting = .ok settings ∧ settings.check = .ok () ∧
      Run settings es c ∧ es.map Entry.event = idling ∧
      .finished 1 (.ok (.scan 1 (.ready Session.emptyVerdict))) ∈ effects es ∧
      (c.turn? 2 2 (.serve somewhere fun _ => false)).map Prod.snd =
        some [.finished 2 (.error (.requestFailed .taskGone))] := by
  have h : (play? 1 { settings := Session.endless } idling).elim false (fun played =>
      .finished 1 (.ok (.scan 1 (.ready Session.emptyVerdict))) ∈ effects played.1 ∧
        (played.2.turn? 2 2 (.serve somewhere fun _ => false)).map Prod.snd =
          some [.finished 2 (.error (.requestFailed .taskGone))]) = true := by
    decide +kernel
  have scans : ∀ e ∈ idling, e.IsForScans := by
    simp [idling, Event.IsForScans, Job.IsForScan]
  obtain ⟨es, c, run, events, found⟩ := exists_run_of_play? scans h
  obtain ⟨first, second⟩ := of_decide_eq_true found
  exact ⟨Session.endless, es, c, Session.read_lasting, rfl, run, events, first, second⟩

end Client

end Icap
