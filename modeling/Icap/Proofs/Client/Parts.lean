import Icap.Client
import Mathlib.Data.List.Nodup

/-!
# The parts of a client

A client looks up its sessions, its desks and its calls by their numbers and routes. What an event
changes of one of them leaves the others as they are.

* `session?_setSession`, `desk?_setDesk` — what is found after a change.
* `exists_of_deskStep?` — an event at a desk: the desk is replaced, then its notices are heeded.
* `heed_desks`, `session?_heed` — what a notice does not change.
-/

namespace Icap.Client

variable {c c' : Client} {now wall : Instant} {route ρ : Route} {d d' : Desk} {s t : Session}
  {k number : Nat} {fx : List Effect} {notice : Desk.Notice} {notices : List Desk.Notice}

/-! ## Sessions -/

theorem number_of_session? (found : c.session? k = some s) : s.number = k := by
  simpa using List.find?_some found

theorem session?_setSession (c : Client) (s : Session) (k : Nat) :
    (c.setSession s).session? k =
      if k = s.number then (c.session? k).map fun _ => s else c.session? k := by
  have same : ((fun t : Session => t.number == k) ∘ fun t => if t.number = s.number then s else t) =
      fun t => t.number == k := by
    funext t
    simp only [Function.comp]
    split <;> simp_all
  simp only [session?, setSession, List.find?_map, same]
  cases found : c.sessions.find? fun t => t.number == k with
  | none => simp
  | some t =>
    obtain rfl : t.number = k := by simpa using List.find?_some found
    split <;> simp_all

theorem session?_eq_none : c.session? k = none ↔ k ∉ c.sessions.map Session.number := by
  simp [session?, List.find?_eq_none]

theorem session?_addSession (attempts : List Attempt) (s : Session) (k : Nat) :
    session? { c with attempts, sessions := c.sessions ++ [s] } k =
      (c.session? k).or (if s.number = k then some s else none) := by
  simp only [session?, List.find?_append, List.find?_cons, List.find?_nil]
  split <;> simp_all

/-! ## Desks -/

theorem desk?_setDesk (c : Client) (route : Route) (d : Desk) (ρ : Route) :
    (c.setDesk route d).desk? ρ =
      if ρ = route then (c.desk? ρ).map fun _ => d else c.desk? ρ := by
  simp only [desk?, setDesk]
  induction c.desks with
  | nil => simp
  | cons e desks ih =>
    obtain ⟨r, d₁⟩ := e
    by_cases hρ : ρ = r
    · subst hρ
      by_cases hr : ρ = route <;> simp [hr]
    · have other : (ρ == r) = false := beq_false_of_ne hρ
      by_cases hr : r = route
      · simpa [hr, hr ▸ other, List.lookup_cons, hr ▸ hρ] using ih
      · rw [List.map_cons, if_neg hr, List.lookup_cons, other, ih, List.lookup_cons, other]

/-- A desk after a change is the one that has been put there, or one of another route. -/
theorem desk?_of_setDesk {d₁ : Desk} (found : (c.setDesk route d).desk? ρ = some d₁) :
    ρ = route ∧ d₁ = d ∨ ρ ≠ route ∧ c.desk? ρ = some d₁ := by
  rw [desk?_setDesk] at found
  split at found
  next here =>
    obtain ⟨_, -, rfl⟩ := Option.map_eq_some_iff.mp found
    exact .inl ⟨here, rfl⟩
  next other => exact .inr ⟨other, found⟩

theorem mem_of_desk? (found : c.desk? route = some d) : (route, d) ∈ c.desks := by
  simp only [desk?] at found
  generalize c.desks = desks at found
  induction desks with
  | nil => simp at found
  | cons e desks ih =>
    obtain ⟨r, d₁⟩ := e
    rw [List.lookup_cons] at found
    split at found
    next same =>
      obtain rfl := Option.some.inj found
      rw [eq_of_beq same]
      exact List.mem_cons_self
    next => exact List.mem_cons_of_mem _ (ih found)

/-- A session of a pool belongs to a pool. -/
theorem isPooled_of_mem (found : c.desk? route = some d) (member : k ∈ d.pool.members) :
    c.isPooled k = true := by
  simp only [isPooled, List.any_eq_true]
  exact ⟨_, mem_of_desk? found, by simpa using member⟩

/-! ## Calls -/

theorem exists_of_job? {call : Nat} {job : Job} (found : c.job? call = some job) :
    job ∈ c.jobs ∧ job.call = call :=
  ⟨List.mem_of_find?_eq_some found, by simpa using List.find?_some found⟩

theorem job?_isSome {call : Nat} : (c.job? call).isSome = true ↔ call ∈ c.jobs.map Job.call := by
  simp [job?, List.find?_isSome]

/-- A call that is turned away leaves nothing behind. -/
theorem eq_of_shutOut? {job : Job} (h : c.shutOut? job = some (c', fx)) :
    c' = c ∧ fx = [.finished job.call (.error .tableTaken)] := by
  simp only [shutOut?] at h
  split at h
  · split at h
    · cases h
    · obtain ⟨rfl, rfl⟩ := Prod.mk.inj (Option.some.inj h)
      exact ⟨rfl, rfl⟩
  all_goals cases h

/-! ## Notices -/

@[simp] theorem heed_desks : (heed now route c notice).1.desks = c.desks := by
  cases notice <;> simp only [heed]
  case handed => split <;> rfl
  case refused => split <;> rfl
  case close session => cases c.session? session <;> rfl
  case «open» => rfl

/-- A notice leaves alone the sessions that it does not close. -/
theorem session?_heed (other : notice ≠ .close k) :
    (heed now route c notice).1.session? k = c.session? k := by
  cases notice <;> simp only [heed]
  case handed => split <;> rfl
  case refused => split <;> rfl
  case close session =>
    have other : session ≠ k := fun same => other (same ▸ rfl)
    cases found : c.session? session with
    | none => rfl
    | some s =>
      have number := number_of_session? found
      rw [Option.elim_some, session?_setSession, if_neg]
      simpa [Session.close, number] using other.symm
  case «open» => rfl

theorem heedAll_cons (notice : Desk.Notice) (notices : List Desk.Notice) :
    heedAll now route c (notice :: notices) =
      ((heedAll now route (heed now route c notice).1 notices).1,
        (heed now route c notice).2 ++ (heedAll now route (heed now route c notice).1 notices).2) :=
  rfl

@[simp] theorem heedAll_desks : (heedAll now route c notices).1.desks = c.desks := by
  induction notices generalizing c with
  | nil => rfl
  | cons notice notices ih => rw [heedAll_cons, ih, heed_desks]

theorem session?_heedAll (other : .close k ∉ notices) :
    (heedAll now route c notices).1.session? k = c.session? k := by
  induction notices generalizing c with
  | nil => rfl
  | cons notice notices ih =>
    rw [List.mem_cons, not_or] at other
    rw [heedAll_cons, ih other.2, session?_heed (Ne.symm other.1)]

/-! ## Events at a desk -/

/-- **An event at a desk.** The desk is replaced, and then its notices are heeded. -/
theorem exists_of_deskStep? {e : Desk.Event}
    (h : c.deskStep? now wall route e = some (c', fx)) :
    ∃ d d' notices, c.desk? route = some d ∧
      d.step? (fun _ => c.view wall) c.settings.poolLimits e = some (d', notices) ∧
      c' = (heedAll now route (c.setDesk route d') notices).1 ∧
      fx = (heedAll now route (c.setDesk route d') notices).2 := by
  simp only [deskStep?] at h
  split at h
  · cases h
  next d found =>
    obtain ⟨⟨d', notices⟩, step, heq⟩ := Option.map_eq_some_iff.mp h
    exact ⟨d, d', notices, found, step, (congrArg Prod.fst heq).symm, (congrArg Prod.snd heq).symm⟩

theorem deskStep?_of_step? {e : Desk.Event} (found : c.desk? route = some d)
    (step : d.step? (fun _ => c.view wall) c.settings.poolLimits e = some (d', notices)) :
    c.deskStep? now wall route e = some (heedAll now route (c.setDesk route d') notices) := by
  simp only [deskStep?, found, step, Option.map_some]

end Icap.Client
