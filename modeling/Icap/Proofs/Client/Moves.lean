import Icap.Proofs.Client.Parts
import Icap.Proofs.Pool.Run
import Icap.Proofs.Session.States

/-!
# What an event of a client is made of

Whatever a client is used for, an event is made of few parts: something changes beside the desks, a
route gets a pool if there is room for one, and something happens at the desk of one route.

* `Aside` — a change beside the desks. Sessions that are dead stay so, and numbers are not used
  again.
* `Moves` — the parts, and any number of them.
* `moves_of_step?` — an event is made of them.
* `Moves.routes` — which routes have a pool afterwards.
-/

namespace Icap

namespace Client

variable {c c' c₁ c₂ : Client} {now wall : Instant} {route ρ : Route} {d d' : Desk}
  {s t : Session} {k : Nat} {ks ks' : List Nat} {fx : List Effect} {job : Job} {a : Attempt}
  {notice : Desk.Notice} {notices : List Desk.Notice}

/-! ## Numbers -/

/-- The numbers of the sessions that are there or are being connected. -/
def numbers (c : Client) : List Nat :=
  c.sessions.map Session.number ++ c.attempts.map Attempt.session

/-- Sessions have numbers of their own, and the next one to be asked for has a new one. -/
structure Numbered (c : Client) : Prop where
  nodup : c.numbers.Nodup
  le : ∀ k ∈ c.numbers, k ≤ c.asked

/-- Some numbers are used no more. -/
theorem Numbered.subperm (h : c.Numbered) (numbers : c'.numbers.Subperm c.numbers)
    (asked : c'.asked = c.asked) : c'.Numbered where
  nodup := by
    obtain ⟨l, perm, sub⟩ := numbers
    exact perm.nodup_iff.mp (h.nodup.sublist sub)
  le := fun k hk => asked ▸ h.le k (numbers.subset hk)

/-! ## Beside the desks -/

/-- A change beside the desks. -/
structure Aside (c c' : Client) : Prop where
  settings : c'.settings = c.settings
  desks : c'.desks = c.desks
  numbered : c.Numbered → c'.Numbered
  session : ∀ k s, c.session? k = some s →
    ∃ s', c'.session? k = some s' ∧ (s.isDead = true → s'.isDead = true)

namespace Aside

theorem desk?_eq (h : Aside c c') (route : Route) : c'.desk? route = c.desk? route := by
  rw [desk?, h.desks, desk?]

theorem refl (c : Client) : Aside c c := ⟨rfl, rfl, id, fun _ s found => ⟨s, found, id⟩⟩

theorem trans (h : Aside c c₁) (h' : Aside c₁ c₂) : Aside c c₂ where
  settings := h'.settings.trans h.settings
  desks := h'.desks.trans h.desks
  numbered := h'.numbered ∘ h.numbered
  session := fun k s found => by
    obtain ⟨s₁, found₁, dead₁⟩ := h.session k s found
    obtain ⟨s₂, found₂, dead₂⟩ := h'.session k s₁ found₁
    exact ⟨s₂, found₂, dead₂ ∘ dead₁⟩

/-- Calls come and go. -/
theorem jobs (c : Client) (jobs : List Job) : Aside c { c with jobs } where
  settings := rfl
  desks := rfl
  numbered := fun h => ⟨h.nodup, h.le⟩
  session := fun _ s found => ⟨s, found, id⟩

/-- Connections are opened no more. -/
theorem dropAttempts (c : Client) (p : Attempt → Bool) :
    Aside c { c with attempts := c.attempts.filter p } where
  settings := rfl
  desks := rfl
  numbered := fun h => by
    refine h.subperm (List.Sublist.subperm ?_) rfl
    exact List.Sublist.append (List.Sublist.refl _) (List.filter_sublist.map _)
  session := fun _ s found => ⟨s, found, id⟩

theorem finish (c : Client) (call : Nat) (result : Except ScanFault Gain) :
    Aside c (c.finish call result).1 := jobs c _

/-- A session is asked for. -/
theorem attempt (c : Client) (now : Instant) (route : Route) (reuse : Bool) (call : Nat)
    (pooled : Bool) : Aside c (c.attempt now route reuse call pooled).1 where
  settings := rfl
  desks := rfl
  numbered := fun h => by
    have numbers :
        (c.attempt now route reuse call pooled).1.numbers = c.numbers ++ [c.asked + 1] := by
      simp [Client.attempt, Client.numbers]
    refine ⟨?_, fun k hk => ?_⟩
    · rw [numbers, ← List.concat_eq_append]
      exact h.nodup.concat fun there => Nat.not_succ_le_self _ (h.le _ there)
    · rw [numbers] at hk
      rcases List.mem_append.mp hk with hk | hk
      · exact Nat.le_succ_of_le (h.le k hk)
      · exact Nat.le_of_eq (List.mem_singleton.mp hk)
  session := fun _ s found => ⟨s, found, id⟩

/-- A session moves. -/
theorem setSession (found : c.session? s.number = some t)
    (dead : t.isDead = true → s.isDead = true) : Aside c (c.setSession s) where
  settings := rfl
  desks := rfl
  numbered := fun h => by
    refine h.subperm (List.Perm.subperm (.of_eq ?_)) rfl
    simp only [Client.numbers, Client.setSession, List.map_map]
    congr 1
    refine List.map_congr_left fun u _ => ?_
    simp only [Function.comp]
    split <;> simp_all
  session := fun k u there => by
    rw [session?_setSession]
    split
    next same =>
      subst same
      obtain rfl := Option.some.inj (found.symm.trans there)
      exact ⟨s, by rw [there, Option.map_some], dead⟩
    next => exact ⟨u, there, id⟩

/-- A session that has been asked for is there. -/
theorem addSession (there : a ∈ c.attempts) (number : s.number = a.session) :
    Aside c { c with
      attempts := c.attempts.filter (·.session != a.session)
      sessions := c.sessions ++ [s] } where
  settings := rfl
  desks := rfl
  numbered := fun h => by
    refine h.subperm ?_ rfl
    have nodup : (c.attempts.map Attempt.session).Nodup := (List.nodup_append.mp h.nodup).2.1
    have left : (a.session :: (c.attempts.filter (·.session != a.session)).map
        Attempt.session).Subperm (c.attempts.map Attempt.session) := by
      refine List.Nodup.subperm (List.nodup_cons.mpr ⟨by simp, ?_⟩) ?_
      · exact nodup.sublist (List.filter_sublist.map _)
      · exact List.cons_subset.mpr
          ⟨List.mem_map_of_mem there, (List.filter_sublist.map _).subset⟩
    simpa [Client.numbers, number] using
      (List.subperm_append_left (c.sessions.map Session.number)).mpr left
  session := fun k u found => by
    rw [session?_addSession, found, Option.some_or]
    exact ⟨u, rfl, id⟩

/-- A notice is heeded. -/
theorem heed (now : Instant) (route : Route) (c : Client) (notice : Desk.Notice) :
    Aside c (heed now route c notice).1 := by
  cases notice <;> simp only [Client.heed]
  case handed =>
    split
    · exact finish ..
    · exact refl c
  case refused =>
    split
    · exact finish ..
    · exact refl c
  case close session =>
    cases found : c.session? session with
    | none => exact refl c
    | some s =>
      have number := number_of_session? found
      exact setSession (t := s) (by simpa [Session.close, number] using found) fun _ => rfl
  case «open» => exact attempt ..

theorem heedAll (now : Instant) (route : Route) (c : Client) (notices : List Desk.Notice) :
    Aside c (heedAll now route c notices).1 := by
  induction notices generalizing c with
  | nil => exact refl c
  | cons notice notices ih =>
    rw [heedAll_cons]
    exact (heed now route c notice).trans (ih _)

/-- A scan is started. -/
theorem startScan (c : Client) (session : Nat) (filename : String) (payload : Bytes) :
    Aside c (c.startScan session filename payload).1 := by
  simp only [Client.startScan]
  split
  · exact refl c
  next s found =>
    have number : (s.scan filename payload).1.number = s.number := by
      simp only [Session.scan]
      split <;> (try split) <;> (try split) <;> rfl
    refine setSession (t := s) (by rw [number, number_of_session? found, found]) fun dead => ?_
    have state : s.state = .disconnected := by simpa [Session.isDead] using dead
    simp [Session.scan, state, Session.isDead]

end Aside

/-- A session that is closed is dead. -/
theorem isDead_of_heedAll (closed : .close k ∈ notices)
    (found : (heedAll now route c notices).1.session? k = some s)
    (there : (c.session? k).isSome = true) : s.isDead = true := by
  induction notices generalizing c with
  | nil => cases closed
  | cons notice notices ih =>
    rw [heedAll_cons] at found
    obtain ⟨t, ht⟩ := Option.isSome_iff_exists.mp there
    obtain ⟨t₁, ht₁, -⟩ := (Aside.heed now route c notice).session k t ht
    by_cases here : notice = .close k
    · -- it is closed now, and stays dead
      obtain ⟨s', found', dead⟩ := (Aside.heedAll now route _ notices).session k t₁ ht₁
      obtain rfl := Option.some.inj (found.symm.trans found')
      refine dead ?_
      have number := number_of_session? ht
      subst here
      simp only [heed, ht, Option.elim_some, session?_setSession] at ht₁
      rw [if_pos (by simp [Session.close, number]), Option.map_some] at ht₁
      exact Option.some.inj ht₁ ▸ rfl
    · exact ih ((List.mem_cons.mp closed).resolve_left (Ne.symm here)) found
        (by rw [ht₁]; rfl)

/-! ## The parts of an event -/

/-- What events may make of a client, with the sessions that they bring to pools. -/
inductive Moves : Client → List Nat → Client → Prop
  | aside {c c' : Client} (h : Aside c c') : Moves c [] c'
  /-- A route gets a pool. -/
  | addDesk {c : Client} {route : Route} (absent : c.desk? route = none)
      (room : c.desks.length < c.settings.maxRoutes) :
      Moves c [] { c with desks := c.desks ++ [(route, {})] }
  /-- Something happens at a desk, and brings no session. -/
  | desk {c c' : Client} {now wall : Instant} {route : Route} {e : Desk.Event} {fx : List Effect}
      (h : c.deskStep? now wall route e = some (c', fx)) (brings : e.opened? = none) : Moves c [] c'
  /-- A session that was asked for is brought to a pool. -/
  | receive {c c' : Client} {now wall : Instant} {route : Route} {a : Attempt} {s : Session}
      {fx : List Effect} (there : a ∈ c.attempts) (number : s.number = a.session)
      (h : deskStep? { c with
          attempts := c.attempts.filter (·.session != a.session)
          sessions := c.sessions ++ [s] } now wall route (.opened a.session) = some (c', fx)) :
      Moves c [a.session] c'
  | trans {c c₁ c₂ : Client} {ks ks' : List Nat} (h : Moves c ks c₁) (h' : Moves c₁ ks' c₂) :
      Moves c (ks' ++ ks) c₂

/-- Something changes beside the desks first. -/
theorem Moves.after (h : Moves c₁ ks c₂) (aside : Aside c c₁) : Moves c ks c₂ := by
  have both := Moves.trans (.aside aside) h
  rwa [List.append_nil] at both

/-- The session that an event brings to a pool. -/
def brought (c : Client) : Event → List Nat
  | .connected k => if (c.attempt? k).any Attempt.pooled then [k] else []
  | _ => []

theorem moves_of_lineUp (c : Client) (now wall : Instant) (job : Job) (uses : Bool)
    (patience : Duration) : Moves c [] (c.lineUp now wall job uses patience).1 := by
  simp only [lineUp]
  cases h : c.deskStep? now wall job.route
      (.arrive ⟨job.call, uses, Instant.after? now patience⟩) with
  | none => exact .aside (.refl c)
  | some stepped => exact .desk h rfl

theorem moves_of_begin (c : Client) (now wall : Instant) (job : Job) :
    Moves c [] (c.begin now wall job).1 := by
  have added : Aside c { c with jobs := c.jobs ++ [job] } := .jobs c _
  simp only [begin]
  split
  next => exact .aside (added.trans (.attempt ..))
  next => exact .aside (added.trans (.attempt ..))
  next patience =>
    split
    · exact (moves_of_lineUp ..).after added
    · exact .aside (added.trans (.finish ..))
  next filename payload =>
    split
    · exact (moves_of_lineUp ..).after added
    next absent =>
      split
      · exact .aside (added.trans (.finish ..))
      next room => exact (Moves.trans (.addDesk absent (Nat.not_le.mp room))
          (moves_of_lineUp ..)).after added

theorem moves_of_useStep? (h : c.useStep? now wall route = some (c', fx)) : Moves c [] c' := by
  simp only [useStep?] at h
  split at h
  · split at h
    · obtain ⟨⟨c₁, fx₁⟩, stepped, heq⟩ := Option.map_eq_some_iff.mp h
      cases heq
      exact (Moves.desk stepped rfl).after ((Aside.startScan ..).trans (.jobs ..))
    · cases h
  · cases h

theorem moves_of_connectedStep? (h : c.connectedStep? now wall k = some (c', fx)) :
    Moves c (c.brought (.connected k)) c' := by
  simp only [connectedStep?] at h
  split at h
  · cases h
  next a found =>
    have there : a ∈ c.attempts := List.mem_of_find?_eq_some found
    obtain rfl : a.session = k := by simpa using List.find?_some found
    have added := Aside.addSession (c := c) (s :=
      { Session.start c.settings a.session a.route a.reuse now with opened := wall }) there rfl
    split at h
    next pooled =>
      rw [brought, found, Option.any_some, if_pos pooled]
      exact .receive there rfl h
    next unpooled =>
      rw [brought, found, Option.any_some, if_neg unpooled]
      split at h
      · obtain ⟨rfl, -⟩ := Prod.mk.inj (Option.some.inj h)
        exact .aside ((added.trans (.startScan ..)).trans (.jobs _ _))
      · obtain ⟨rfl, -⟩ := Prod.mk.inj (Option.some.inj h)
        exact .aside (added.trans (.jobs _ _))

theorem moves_of_notConnectedStep? (h : c.notConnectedStep? now wall k = some (c', fx)) :
    Moves c [] c' := by
  simp only [notConnectedStep?] at h
  split at h
  · cases h
  next a found =>
    have dropped := Aside.dropAttempts c (·.session != k)
    split at h
    · exact (Moves.desk h rfl).after dropped
    · obtain ⟨rfl, -⟩ := Prod.mk.inj (Option.some.inj h)
      exact .aside (dropped.trans (.jobs _ _))

theorem moves_of_sessionStep? {e : Session.Event} (h : c.sessionStep? now k e = some (c', fx)) :
    Moves c [] c' := by
  simp only [sessionStep?] at h
  split at h
  · cases h
  next s found =>
    split at h
    · cases h
    · obtain ⟨⟨s', sfx⟩, step, heq⟩ := Option.map_eq_some_iff.mp h
      obtain ⟨rfl, -⟩ := Prod.mk.inj heq
      have step := Session.step_of_step? step
      refine .aside (.setSession (t := s) ?_ fun dead => ?_)
      · rw [(Session.same_of_step step).1, number_of_session? found, found]
      · have state : s.state = .disconnected := by simpa [Session.isDead] using dead
        simp [Session.isDead, Session.disconnected_of_step step state]

theorem moves_of_giveUpStep? {call : Nat} (h : c.giveUpStep? now wall call = some (c', fx)) :
    Moves c [] c' := by
  simp only [giveUpStep?] at h
  split at h
  · cases h
  next job found =>
    have aside : Aside c { c with
        jobs := c.jobs.filter (·.call != call)
        attempts := c.attempts.filter (·.call != call) } :=
      (Aside.dropAttempts c _).trans (.jobs _ _)
    generalize stepped : deskStep? _ now wall job.route (.leave call) = result at h
    cases result with
    | none =>
      cases h
      exact .aside aside
    | some result =>
      cases h
      exact (Moves.desk stepped rfl).after aside

/-- **An event is made of these parts.** -/
theorem moves_of_step? {e : Event} (h : c.step? now wall e = some (c', fx)) :
    Moves c (c.brought e) c' := by
  cases e with
  | call job =>
    simp only [step?] at h
    split at h
    · cases h
    · obtain ⟨rfl, -⟩ := Prod.mk.inj (Option.some.inj h)
      exact moves_of_begin ..
  | shutOut job =>
    obtain ⟨rfl, -⟩ := eq_of_shutOut? h
    exact .aside (.refl _)
  | serve route late => exact .desk h rfl
  | use route => exact moves_of_useStep? h
  | expire route call => exact .desk h rfl
  | connected session => exact moves_of_connectedStep? h
  | notConnected session => exact moves_of_notConnectedStep? h
  | session number e => exact moves_of_sessionStep? h
  | giveUp call => exact moves_of_giveUpStep? h

theorem settings_of_deskStep? {e : Desk.Event} (h : c.deskStep? now wall route e = some (c', fx)) :
    c'.settings = c.settings := by
  obtain ⟨d, d', notices, -, -, rfl, -⟩ := exists_of_deskStep? h
  exact (Aside.heedAll now route (c.setDesk route d') notices).settings

/-- Settings stay as they are. -/
theorem Moves.settings (h : Moves c ks c') : c'.settings = c.settings := by
  induction h with
  | aside h => exact h.settings
  | addDesk => rfl
  | desk h => exact settings_of_deskStep? h
  | receive _ _ h =>
    have same := settings_of_deskStep? h
    exact same
  | trans _ _ ih ih' => exact ih'.trans ih

/-! ## The pools -/

@[simp] theorem routes_setDesk (c : Client) (route : Route) (d : Desk) :
    (c.setDesk route d).desks.map Prod.fst = c.desks.map Prod.fst := by
  simp only [setDesk, List.map_map]
  refine List.map_congr_left fun e _ => ?_
  simp only [Function.comp]
  split <;> simp_all

theorem routes_of_deskStep? {e : Desk.Event} (h : c.deskStep? now wall route e = some (c', fx)) :
    c'.desks.map Prod.fst = c.desks.map Prod.fst := by
  obtain ⟨d, d', notices, -, -, rfl, -⟩ := exists_of_deskStep? h
  rw [heedAll_desks, routes_setDesk]

/-- Routes that have a pool stay in their order, and other ones come behind them. -/
theorem Moves.routes (h : Moves c ks c') : c.desks.map Prod.fst <+: c'.desks.map Prod.fst := by
  induction h with
  | aside h => exact h.desks ▸ List.prefix_refl _
  | addDesk absent room => simp
  | desk h => exact (routes_of_deskStep? h).symm ▸ List.prefix_refl _
  | receive _ _ h =>
    have same := routes_of_deskStep? h
    exact same ▸ List.prefix_refl _
  | trans _ _ ih ih' => exact ih.trans ih'

end Client

end Icap
