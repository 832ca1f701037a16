import Icap.Proofs.Client.Turns

/-!
# The pools of a client

A route that has a pool keeps it. To the desk of a route, an event of a client is an event of its
own or nothing at all: the desk goes through these events, looks at the sessions of the client, and
keeps to the limits of the settings. Nothing else ever becomes of it.

* `deskEvent?`, `seen` — what an event of a client is to a desk, and the client that the desk sees.
* `deskAfter` — the desk after an event.
* `desk?_of_step?` — a route keeps its desk with an event.
* `History`, `Leads` — what becomes of a client, and of the desk of a route meanwhile.
* `follows_of_history` — routes keep their pools.
-/

namespace Icap

/-- A desk after an event, if the event can happen. -/
def Desk.after (d : Desk) (look : Looks) (limits : PoolLimits) (e : Desk.Event) : Desk :=
  ((d.step? look limits e).map Prod.fst).getD d

namespace Client

variable {c c' c₀ : Client} {now wall : Instant} {route ρ : Route} {d : Desk} {k : Nat}
  {fx : List Effect} {job : Job} {es : List Entry}

/-! ## One event -/

/-- What an event of a client is to the desk of a route. -/
def deskEvent? (c : Client) (now : Instant) : Event → Option (Route × Desk.Event)
  | .call ⟨call, route, .scan _ _⟩ =>
    some (route, .arrive ⟨call, true, Instant.after? now c.settings.connectTimeout⟩)
  | .call ⟨call, route, .lease patience⟩ =>
    some (route, .arrive ⟨call, false, Instant.after? now patience⟩)
  | .call ⟨_, _, .scanOnce _ _⟩ | .call ⟨_, _, .connect⟩ | .shutOut _ | .session _ _ => none
  | .serve route late => some (route, .serve late)
  | .use route => some (route, .used)
  | .expire route call => some (route, .expire call)
  | .connected k =>
    ((c.attempt? k).filter Attempt.pooled).map fun a => (a.route, .opened k)
  | .notConnected k =>
    ((c.attempt? k).filter Attempt.pooled).map fun a => (a.route, .notOpened .notConnected)
  | .giveUp call => (c.job? call).map fun job => (job.route, .leave call)

/-- The client that a desk sees with an event: the session that has been connected is there, and the
scan of the call that uses its session has been started. -/
def seen (c : Client) (now wall : Instant) : Event → Client
  | .connected k =>
    match c.attempt? k with
    | some a =>
      { c with sessions := c.sessions ++
          [{ Session.start c.settings k a.route a.reuse now with opened := wall }] }
    | none => c
  | .use route =>
    match c.desk? route with
    | some { served := some (call, .using session _), .. } =>
      match c.job? call.number with
      | some ⟨_, _, .scan filename payload⟩ => (c.startScan session filename payload).1
      | _ => c
    | _ => c
  | _ => c

/-- The desk of a route after an event at the desk of a route, if there is one. -/
def visited (c : Client) (wall : Instant) (event : Option (Route × Desk.Event)) (route : Route)
    (d : Desk) : Desk :=
  match event with
  | some (ρ, e) =>
    if ρ = route then d.after (fun _ => c.view wall) c.settings.poolLimits e else d
  | none => d

/-- The desk of a route after an event of a client. -/
def deskAfter (c : Client) (now wall : Instant) (e : Event) (route : Route) (d : Desk) : Desk :=
  (c.seen now wall e).visited wall (c.deskEvent? now e) route d

/-- A desk sees of a client nothing but the sessions, and keeps to limits of the settings. -/
theorem visited_congr (sessions : c'.sessions = c.sessions) (settings : c'.settings = c.settings)
    (wall : Instant) (event : Option (Route × Desk.Event)) (route : Route) (d : Desk) :
    c'.visited wall event route d = c.visited wall event route d := by
  have view : c'.view = c.view := by
    funext wall k
    simp only [view, session?, sessions]
  simp only [visited, view, settings]

/-- A route keeps its desk with an event at the desk of a route, be it possible or not. -/
theorem desk?_getD_deskStep? (found : c.desk? route = some d) (now wall : Instant) (ρ : Route)
    (e : Desk.Event) : ((c.deskStep? now wall ρ e).getD (c, [])).1.desk? route =
      some (c.visited wall (some (ρ, e)) route d) := by
  simp only [visited, Desk.after]
  cases h : c.deskStep? now wall ρ e with
  | some result =>
    obtain ⟨c', fx⟩ := result
    obtain ⟨d₁, d', notices, found₁, step, same, -⟩ := exists_of_deskStep? h
    rw [Option.getD_some, same, desk?, heedAll_desks, ← desk?, desk?_setDesk]
    split
    next here =>
      subst here
      obtain rfl := Option.some.inj (found.symm.trans found₁)
      rw [found, Option.map_some, if_pos rfl, step, Option.map_some, Option.getD_some]
    next other => rw [if_neg (Ne.symm other), found]
  | none =>
    rw [Option.getD_none, found]
    split
    next here =>
      subst here
      simp only [deskStep?, found, Option.map_eq_none_iff] at h
      rw [h, Option.map_none, Option.getD_none]
    next => rfl

theorem desk?_of_deskStep? {e : Desk.Event} (found : c.desk? route = some d)
    (h : c.deskStep? now wall ρ e = some (c', fx)) :
    c'.desk? route = some (c.visited wall (some (ρ, e)) route d) := by
  have kept := desk?_getD_deskStep? found now wall ρ e
  rwa [h, Option.getD_some] at kept

theorem desk?_of_begin (found : c.desk? route = some d) (now wall : Instant) (job : Job) :
    (c.begin now wall job).1.desk? route =
      some (c.visited wall (c.deskEvent? now (.call job)) route d) := by
  obtain ⟨call, ρ, wish⟩ := job
  cases wish with
  | connect | scanOnce => exact found
  | lease patience =>
    simp only [begin]
    split
    · exact desk?_getD_deskStep? (c := { c with jobs := c.jobs ++ [_] }) found now wall ρ _
    next absent =>
      have other : ρ ≠ route := fun here => by cases (here ▸ absent).symm.trans found
      rw [deskEvent?, visited, if_neg other]
      exact found
  | scan filename payload =>
    simp only [begin]
    split
    · exact desk?_getD_deskStep? (c := { c with jobs := c.jobs ++ [_] }) found now wall ρ _
    next absent =>
      have other : ρ ≠ route := fun here => by cases (here ▸ absent).symm.trans found
      split
      · rw [deskEvent?, visited, if_neg other]
        exact found
      · have added : desk? { c with
            jobs := c.jobs ++ [⟨call, ρ, .scan filename payload⟩]
            desks := c.desks ++ [(ρ, {})] } route = some d := by
          simp only [desk?] at found
          simp only [desk?, List.lookup_append, found, Option.some_or]
        exact desk?_getD_deskStep? added now wall ρ _

/-- **A route keeps its desk**, and the event is to the desk what it is to a desk. -/
theorem desk?_of_step? {e : Event} (h : c.step? now wall e = some (c', fx))
    (found : c.desk? route = some d) :
    c'.desk? route = some (c.deskAfter now wall e route d) := by
  cases e with
  | call job =>
    simp only [step?] at h
    split at h
    · cases h
    · obtain ⟨rfl, -⟩ := Prod.mk.inj (Option.some.inj h)
      exact desk?_of_begin found now wall job
  | shutOut job =>
    obtain ⟨rfl, -⟩ := eq_of_shutOut? h
    exact found
  | serve ρ late => exact desk?_of_deskStep? found h
  | use ρ =>
    simp only [step?, useStep?] at h
    split at h
    next pool call session commands line found' =>
      split at h
      next filename payload job =>
        obtain ⟨⟨c₁, fx₁⟩, stepped, heq⟩ := Option.map_eq_some_iff.mp h
        cases heq
        have started := (Aside.startScan c session filename payload).trans (.finish _ call.number
          (c.startScan session filename payload).2)
        have kept := desk?_of_deskStep? ((started.desk?_eq route).trans found) stepped
        rw [kept, deskAfter, seen]
        simp only [found', job]
        exact congrArg some (visited_congr rfl rfl ..)
      · cases h
    · cases h
  | expire ρ call => exact desk?_of_deskStep? found h
  | connected k =>
    simp only [step?, connectedStep?] at h
    split at h
    · cases h
    next a attempt =>
      split at h
      next pooled =>
        have kept := desk?_of_deskStep? (c := { c with
          attempts := c.attempts.filter (·.session != k)
          sessions := c.sessions ++
            [{ Session.start c.settings k a.route a.reuse now with opened := wall }] }) found h
        rw [kept, deskAfter, deskEvent?, seen, attempt, Option.filter_some, if_pos pooled]
        exact congrArg some (visited_congr rfl rfl ..)
      next unpooled =>
        have nothing : c.deskEvent? now (.connected k) = none := by
          rw [deskEvent?, attempt, Option.filter_some, if_neg unpooled, Option.map_none]
        rw [deskAfter, nothing, visited]
        split at h
        · obtain ⟨rfl, -⟩ := Prod.mk.inj (Option.some.inj h)
          exact ((Aside.startScan ..).desk?_eq route).trans found
        · obtain ⟨rfl, -⟩ := Prod.mk.inj (Option.some.inj h)
          exact found
  | notConnected k =>
    simp only [step?, notConnectedStep?] at h
    split at h
    · cases h
    next a attempt =>
      split at h
      next pooled =>
        have kept := desk?_of_deskStep? (c := { c with
          attempts := c.attempts.filter (·.session != k) }) found h
        have same : c.seen now wall (.notConnected k) = c := rfl
        rw [kept, deskAfter, same, deskEvent?, attempt, Option.filter_some, if_pos pooled]
        exact congrArg some (visited_congr rfl rfl ..)
      next unpooled =>
        have nothing : c.deskEvent? now (.notConnected k) = none := by
          rw [deskEvent?, attempt, Option.filter_some, if_neg unpooled, Option.map_none]
        rw [deskAfter, nothing, visited]
        obtain ⟨rfl, -⟩ := Prod.mk.inj (Option.some.inj h)
        exact found
  | session number e =>
    simp only [step?, sessionStep?] at h
    split at h
    · cases h
    split at h
    · cases h
    obtain ⟨⟨s, sfx⟩, -, heq⟩ := Option.map_eq_some_iff.mp h
    cases heq
    exact found
  | giveUp call =>
    simp only [step?, giveUpStep?] at h
    split at h
    · cases h
    next job known =>
      have kept := desk?_getD_deskStep? (c := { c with
        jobs := c.jobs.filter (·.call != call)
        attempts := c.attempts.filter (·.call != call) }) found now wall job.route (.leave call)
      rw [Option.some.inj h] at kept
      have same : c.seen now wall (.giveUp call) = c := rfl
      rw [kept, deskAfter, same, deskEvent?, known, Option.map_some]
      exact congrArg some (visited_congr rfl rfl ..)

/-! ## Histories -/

/-- What may become of a client with the events of a history. -/
inductive History (c₀ : Client) : List Entry → Client → Prop
  | start : History c₀ [] c₀
  | step {es : List Entry} {c c' : Client} {now wall : Instant} {e : Event} {fx : List Effect}
      (history : History c₀ es c) (h : c.step? now wall e = some (c', fx)) :
      History c₀ (es ++ [⟨now, wall, e, fx⟩]) c'

/-- What becomes of the desk of a route while a client goes through the events of a history. -/
inductive Leads (route : Route) (c₀ : Client) (d₀ : Desk) : List Entry → Client → Desk → Prop
  | start : Leads route c₀ d₀ [] c₀ d₀
  | step {es : List Entry} {c c' : Client} {d : Desk} {now wall : Instant} {e : Event}
      {fx : List Effect} (leads : Leads route c₀ d₀ es c d)
      (h : c.step? now wall e = some (c', fx)) :
      Leads route c₀ d₀ (es ++ [⟨now, wall, e, fx⟩]) c' (c.deskAfter now wall e route d)

/-- What becomes of the pools of a client with the events of a history: each route keeps its pool,
of which becomes what these events make of it, and other routes get theirs. -/
structure Follows (es : List Entry) (c c' : Client) : Prop where
  routes : c.desks.map Prod.fst <+: c'.desks.map Prod.fst
  desk : ∀ route d, c.desk? route = some d →
    ∃ d', c'.desk? route = some d' ∧ Leads route c d es c' d'

/-- **Each route keeps its pool.** -/
theorem follows_of_history (history : History c₀ es c) : Follows es c₀ c := by
  induction history with
  | start => exact ⟨List.prefix_refl _, fun route d found => ⟨d, found, .start⟩⟩
  | step history h ih =>
    refine ⟨ih.routes.trans (moves_of_step? h).routes, fun route d found => ?_⟩
    obtain ⟨d₁, found₁, leads⟩ := ih.desk route d found
    exact ⟨_, desk?_of_step? h found₁, leads.step h⟩

end Client

end Icap
