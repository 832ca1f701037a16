import Icap.Proofs.Pool.Handout

/-!
# What a desk does for its calls

A call that gets in line leaves the desk again: it is handed a session, it is refused one, or it is
given up. A session that it is handed is its own, and has been seen alive.

* `calls`, `Step.calls` — the calls at a desk, and what becomes of them.
* `Step.mem_available` — what an event makes available has been seen idle.
* `Step.mem_using` — the session that a call is handed.
* `members_of_step?`, `Step.closed` — what an event does to the sessions of the pool.
* `Step.opening` — the call that a session is being opened for.
* `Step.refusal` — why a call is refused.
-/

namespace Icap

/-- A session that a pool takes back has been available or is the one that is given back. -/
theorem Pool.mem_available_of_giveBack {p : Pool} {session id : Nat} {idle : Bool}
    (h : id ∈ (p.giveBack session idle).available) :
    id ∈ p.available ∨ id = session ∧ idle = true := by
  cases idle with
  | false =>
    rw [giveBack_busy] at h
    exact .inl h
  | true =>
    rcases List.mem_cons.mp ((p.giveBack_subset session true).1 h) with same | there
    · exact .inr ⟨same, rfl⟩
    · exact .inl there

namespace Desk

variable {look : Looks} {limits : PoolLimits} {d d' : Desk} {e : Event} {notices : List Notice}
  {id : Nat} {call : Call}

/-! ## Calls -/

/-- The calls at a desk: the one that is served, and those in line. -/
def calls (d : Desk) : List Call := d.served.toList.map Prod.fst ++ d.line

/-- The call that an event brings. -/
def Event.arrived : Event → List Call
  | .arrive call => [call]
  | _ => []

/-- The calls at a desk are those with a number and those that are left when they leave the line. -/
theorem calls_perm_of_filter (d : Desk) (number : Nat) :
    (d.calls ++ []).Perm ((d.line.filter fun call : Call => call.number == number) ++
      calls { d with line := d.line.filter fun call : Call => call.number != number }) := by
  have line := List.filter_append_perm (fun call => call.number == number) d.line
  rw [List.append_nil, Desk.calls, Desk.calls, ← List.append_assoc]
  refine ((line.symm.append_left _).trans ?_)
  rw [← List.append_assoc]
  exact .append_right _ List.perm_append_comm

/-- **What becomes of the calls at a desk.** Those that are refused leave it. -/
theorem Step.calls (step : Step look limits d e d' notices) :
    ∃ gone, (d.calls ++ e.arrived).Perm (gone ++ d'.calls) ∧
      ∀ n fault, .refused n fault ∈ notices → e.arrived = [] ∧ n ∈ gone.map Call.number := by
  cases step
  case arrive call absent => exact ⟨[], by simp [Desk.calls, Event.arrived], by simp⟩
  case refuse call line fault free head found =>
    exact ⟨[call], by simp [Desk.calls, Event.arrived, searched, free, head],
      by simp [Event.arrived]⟩
  case reuse call line id free head found =>
    refine ⟨if call.uses then [] else [call], .of_eq ?_, by simp⟩
    simp only [Desk.calls, Event.arrived, searched, hand, free, head]
    split <;> simp
  case ask free head found =>
    exact ⟨[], by simp [Desk.calls, Event.arrived, searched, free, head], by simp⟩
  case receive session call served =>
    refine ⟨if call.uses then [] else [call], .of_eq ?_, by simp⟩
    simp only [Desk.calls, Event.arrived, hand, served]
    split <;> simp
  case fail fault call served | done call session commands served | abandon call served =>
    exact ⟨[call], by simp [Desk.calls, Event.arrived, served], by simp [Event.arrived]⟩
  case expire number waits =>
    refine ⟨_, calls_perm_of_filter d number, fun n fault refused => ?_⟩
    obtain ⟨rfl, -⟩ : n = number ∧ _ := by simpa using refused
    obtain ⟨call, hcall, same⟩ := List.any_eq_true.mp waits
    exact ⟨rfl, List.mem_map.mpr ⟨call, List.mem_filter.mpr ⟨hcall, same⟩, by simpa using same⟩⟩
  case leave number other => exact ⟨_, calls_perm_of_filter d number, by simp⟩

/-- A call that gets in line was not at the desk. -/
theorem Step.not_mem_of_arrived (step : Step look limits d e d' notices)
    (arrived : call ∈ e.arrived) : call.number ∉ d.calls.map Call.number := by
  cases step
  case arrive call' absent =>
    obtain rfl := List.mem_singleton.mp arrived
    obtain ⟨line, served⟩ := Bool.or_eq_false_iff.mp absent
    intro there
    obtain ⟨other, there, same⟩ := List.mem_map.mp there
    rcases List.mem_append.mp there with there | there
    · cases hs : d.served <;> simp_all
    · exact List.any_eq_false.mp line other there (by simpa using same)
  all_goals cases arrived

/-- The calls at a desk have different numbers, and one that is refused is not there any more. -/
theorem Step.calls_nodup (step : Step look limits d e d' notices)
    (nodup : (d.calls.map Call.number).Nodup) :
    (d'.calls.map Call.number).Nodup ∧ ∀ n fault, .refused n fault ∈ notices →
      n ∈ d.calls.map Call.number ∧ n ∉ d'.calls.map Call.number := by
  obtain ⟨gone, perm, refused⟩ := step.calls
  have one : (e.arrived.map Call.number).Nodup := by
    cases e <;> simp [Event.arrived]
  have all : ((d.calls ++ e.arrived).map Call.number).Nodup := by
    rw [List.map_append, List.nodup_append]
    refine ⟨nodup, one, ?_⟩
    rintro n hn _ hm rfl
    obtain ⟨call, arrived, rfl⟩ := List.mem_map.mp hm
    exact step.not_mem_of_arrived arrived hn
  have left := (perm.map Call.number).nodup_iff.mp all
  rw [List.map_append] at left
  obtain ⟨-, nodup', apart⟩ := List.nodup_append.mp left
  refine ⟨nodup', fun n fault h => ?_⟩
  obtain ⟨arrived, there⟩ := refused n fault h
  refine ⟨?_, fun still => apart n there n still rfl⟩
  rw [arrived, List.append_nil] at perm
  exact (perm.map _).mem_iff.mpr (by simp [there])

/-- Whether a call is about to use its session. -/
def InUse (d : Desk) : Prop := ∃ call id n, d.served = some (call, .using id n)

/-- A call that is given up is not at the desk any more, unless it is about to use its session. -/
theorem Step.not_mem_of_leave {number : Nat} (step : Step look limits d (.leave number) d' notices)
    (nodup : (d.calls.map Call.number).Nodup) (free : ¬InUse d) :
    number ∉ d'.calls.map Call.number := by
  cases step
  case abandon call served =>
    simp only [Desk.calls, served, Option.toList_some, List.map_cons] at nodup
    exact (List.nodup_cons.mp nodup).1
  case leave other =>
    simp only [Desk.calls, List.map_append, List.mem_append, not_or]
    constructor
    · cases served : d.served with
      | none => simp
      | some hold =>
        obtain ⟨call, _ | ⟨id, n⟩⟩ := hold
        · simpa using (other call served).symm
        · exact absurd ⟨call, id, n, served⟩ free
    · simp

/-- A call can be given up at any time, and nobody is told. -/
theorem exists_of_leave (d : Desk) (look : Looks) (limits : PoolLimits) (number : Nat) :
    ∃ d', d.step? look limits (.leave number) = some (d', []) ∧ (InUse d' → InUse d) := by
  simp only [step?]
  split
  next call served =>
    split
    · refine ⟨_, rfl, ?_⟩
      rintro ⟨_, _, _, ⟨⟩⟩
    · exact ⟨_, rfl, id⟩
  · exact ⟨_, rfl, id⟩

/-! ## Sessions -/

/-- The sessions of a pool are those that have been there and the one that is brought. -/
theorem members_of_step? (step : d.step? look limits e = some (d', notices))
    (nodup : (e.opened?.toList ++ d.pool.members).Nodup) :
    d'.pool.members.Nodup ∧ d'.pool.members ⊆ e.opened?.toList ++ d.pool.members := by
  obtain ⟨gone, perm, -⟩ := (books_of_step? step).members
  exact ⟨(List.nodup_append.mp (perm.nodup_iff.mp nodup)).1,
    fun id hid => perm.mem_iff.mpr (List.mem_append_left gone hid)⟩

/-- What is closed was a session of the pool, and is none any more. -/
theorem Step.closed (step : Step look limits d e d' notices) (nodup : d.pool.members.Nodup)
    (closed : .close id ∈ notices) : id ∈ d.pool.members ∧ id ∉ d'.pool.members := by
  cases step
  case refuse | ask => exact Pool.closed_of_seek nodup (by simpa using closed)
  case reuse =>
    -- handing a session out leaves the pool as the search has left it
    have gone := Pool.closed_of_seek nodup (by simpa using closed)
    exact gone
  all_goals simp at closed

/-- What an event makes available has been seen idle. -/
theorem Step.mem_available (step : Step look limits d e d' notices)
    (available : id ∈ d'.pool.available) :
    id ∈ d.pool.available ∨ ∃ m, (look m id).idle = true := by
  have searched {late : Nat → Bool} (h : id ∈ (d.pool.seek look limits late).pool.available) :
      id ∈ d.pool.available ∨ ∃ m, (look m id).idle = true := by
    rcases Pool.mem_available_of_seek (.inl h) with there | ⟨l, -, -, m, -, idle, -⟩
    · exact .inl there
    · exact .inr ⟨m, idle⟩
  cases step
  case refuse | reuse | ask => exact searched available
  case done call session commands served =>
    dsimp only at available
    split at available
    · rcases Pool.mem_available_of_giveBack available with there | ⟨rfl, idle⟩
      · exact .inl there
      · exact .inr ⟨1, idle⟩
    · exact .inl available
  all_goals exact .inl available

/-- **The session that a call is handed** has just been opened, or has been available or seen idle,
and alive; and it is not closed. -/
theorem Step.mem_using {n : Nat} (step : Step look limits d e d' notices) (free : ¬InUse d)
    (nodup : d.pool.members.Nodup) (served : d'.served = some (call, .using id n)) :
    (∃ m, n = (look m id).commands) ∧ .close id ∉ notices ∧
      (e.opened? = some id ∨
        (id ∈ d.pool.available ∨ ∃ m, (look m id).idle = true) ∧
          ∃ m, (look m id).dead = false) := by
  cases step
  case arrive | expire | leave => exact absurd ⟨call, id, n, served⟩ free
  case refuse free' _ _ => cases free'.symm.trans served
  case reuse found =>
    simp only [hand] at served
    split at served <;> cases served
    refine ⟨⟨_, rfl⟩, fun closed => ?_, .inr ⟨?_, Pool.alive_of_seek found⟩⟩
    · refine (Pool.closed_of_seek nodup (by simpa using closed)).2 (List.mem_append_right _ ?_)
      exact List.mem_map_of_mem (Pool.leased_of_seek found)
    · rcases Pool.mem_available_of_seek (.inr found) with there | ⟨l, -, -, m, -, idle, -⟩
      · exact .inl there
      · exact .inr ⟨m, idle⟩
  case receive =>
    simp only [hand] at served
    split at served <;> cases served
    exact ⟨⟨_, rfl⟩, by simp, .inl rfl⟩
  case ask | fail | abandon | done => cases served

/-! ## Sessions that are being opened -/

/-- The call that a session is being opened for. -/
def opening? (d : Desk) : Option Nat :=
  match d.served with
  | some (call, .opening) => some call.number
  | _ => none

/-- The call that a notice asks a session for. -/
def Notice.asker? : Notice → Option Nat
  | .open number => some number
  | _ => none

/-- Whether nothing is being opened for a call any more with an event. -/
def Event.Ends (number : Nat) : Event → Prop
  | .opened _ | .notOpened _ => True
  | .leave number' => number' = number
  | _ => False

/-- **One session is being opened at a desk at most**, and it is asked for as this begins. -/
theorem Step.opening (step : Step look limits d e d' notices) :
    (notices.filterMap Notice.asker? = [] ∧ d'.opening? = d.opening?) ∨
      (∃ number, d.opening? = none ∧ notices.filterMap Notice.asker? = [number] ∧
        d'.opening? = some number) ∨
      ∃ number, d.opening? = some number ∧ e.Ends number ∧
        notices.filterMap Notice.asker? = [] ∧ d'.opening? = none := by
  have handed (d₀ : Desk) (call : Call) (id commands : Nat) :
      (d₀.hand call id commands).1.opening? = none := by
    simp only [hand]
    split <;> rfl
  cases step
  case arrive | expire | leave => exact .inl ⟨rfl, rfl⟩
  case refuse free head found =>
    exact .inl ⟨by simp [Notice.asker?], rfl⟩
  case reuse free head found =>
    refine .inl ⟨by simp [Notice.asker?], (handed ..).trans ?_⟩
    rw [opening?, free]
  case ask call line free head found =>
    exact .inr (.inl ⟨call.number, by rw [opening?, free], by simp [Notice.asker?], rfl⟩)
  case receive call served =>
    exact .inr (.inr ⟨call.number, by rw [opening?, served], trivial, rfl, handed ..⟩)
  case fail call served =>
    exact .inr (.inr ⟨call.number, by rw [opening?, served], trivial, rfl, rfl⟩)
  case done served => exact .inl ⟨rfl, by simp only [opening?, served]⟩
  case abandon call served =>
    exact .inr (.inr ⟨call.number, by rw [opening?, served], rfl, rfl, rfl⟩)

/-! ## Refusals -/

/-- Why a call is refused. -/
inductive Refusal (d : Desk) (e : Event) (number : Nat) : ScanFault → Prop
  /-- It is served, and there is neither a session for it nor room for one more. -/
  | full {late} (event : e = .serve late) (first : d.line.head?.map Call.number = some number) :
      Refusal d e number .noFreeSession
  /-- It is served, and its time is over. -/
  | timeOver {late m} (event : e = .serve late)
      (first : d.line.head?.map Call.number = some number) (past : late m = true) :
      Refusal d e number .timeout
  /-- No session could be opened for it. -/
  | notOpened {fault} (event : e = .notOpened fault) (opening : d.opening? = some number) :
      Refusal d e number fault
  /-- It has lost its patience in line. -/
  | expired (event : e = .expire number) : Refusal d e number .timeout

/-- **Why a call is refused.** -/
theorem Step.refusal {number : Nat} {fault : ScanFault} (step : Step look limits d e d' notices)
    (refused : .refused number fault ∈ notices) : d.Refusal e number fault := by
  cases step
  case refuse late call line fault' free head found =>
    obtain ⟨rfl, rfl⟩ : number = call.number ∧ fault = fault' := by simpa using refused
    have first : d.line.head?.map Call.number = some call.number := by rw [head]; rfl
    rcases Pool.fault_of_seek found with rfl | ⟨rfl, m, past⟩
    · exact .full rfl first
    · exact .timeOver rfl first past
  case fail fault' call served =>
    obtain ⟨rfl, rfl⟩ : number = call.number ∧ fault = fault' := by simpa using refused
    exact .notOpened rfl (by rw [opening?, served])
  case expire number' waits =>
    obtain ⟨rfl, rfl⟩ : number = number' ∧ fault = _ := by simpa using refused
    exact .expired rfl
  all_goals simp at refused

end Desk

end Icap
