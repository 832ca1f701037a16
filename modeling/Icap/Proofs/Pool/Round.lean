import Icap.Proofs.Pool.Search
import Mathlib.Data.Nat.Find

/-!
# What a search goes by

A search that is in time looks at every leased session once, drops the dead ones, makes the released
ones available and leaves all others leased. Then it takes the available sessions in their order, up
to the first one that can be handed out. In which order it comes to the leased sessions is up to
what it finds: the last one takes the place of one that is gone.

* `Lease.finding` — what a search finds out about a leased session.
* `findings`, `findings_perm` — what it finds out about all of them.
* `tidied`, `sweep_eq` — the pool after that.
* `FitsAt` — an available session can be handed out when the search comes to it.
* `choose_of_fitsAt`, `choose_of_none` — the search among the available sessions.
* `seek_of_fitsAt`, `seek_of_none` — the whole of a search.
-/

namespace Icap

/-- What a search finds out about a leased session. -/
inductive Finding
  /-- The connection is gone. -/
  | dead
  /-- It has run a command since it was handed out, and is idle again. -/
  | released
  /-- Neither of them. -/
  | leased
  deriving DecidableEq, Repr

/-- The number of looks that it takes to find something out. -/
def Finding.looks : Finding → Nat
  | .dead => 1
  | .released | .leased => 3

/-- What the looks at a leased session show, of which the first one has the number `n`. -/
def Lease.finding (look : Looks) (n : Nat) (l : Lease) : Finding :=
  if (look n l.session).dead then .dead
  else if l.isReleased (look (n + 1) l.session).idle (look (n + 2) l.session).commands then
    .released
  else .leased

namespace Pool

variable {p : Pool} {look : Looks} {limits : PoolLimits} {late : Nat → Bool} {id n i : Nat}
  {l : Lease} {f g : Finding} {available : List Nat} {rest : List Lease}

/-! ## Leased sessions -/

/-- The leased sessions in the order in which a search comes to them, each with what it finds out.
The first look has the number `n`. -/
def findings (look : Looks) (n : Nat) : List Lease → List (Lease × Finding)
  | [] => []
  | l :: more =>
    (l, l.finding look n) ::
      findings look (n + (l.finding look n).looks)
        (if l.finding look n = .leased then more else fillFirst more)
termination_by rest => rest.length
decreasing_by split <;> simp

/-- The sessions about which something has been found out. -/
def found (f : Finding) (seen : List (Lease × Finding)) : List Lease :=
  (seen.filter (·.2 = f)).map Prod.fst

/-- The number of looks that it takes to find all of this out. -/
def looks : List (Lease × Finding) → Nat
  | [] => 0
  | (_, f) :: seen => f.looks + looks seen

@[simp] theorem found_nil (f : Finding) : found f [] = [] := rfl

@[simp] theorem found_cons (f : Finding) (l : Lease) (g : Finding) (seen : List (Lease × Finding)) :
    found f ((l, g) :: seen) = if g = f then l :: found f seen else found f seen := by
  by_cases h : g = f <;> simp [found, h]

@[simp] theorem looks_nil : looks [] = 0 := rfl

@[simp] theorem looks_cons (l : Lease) (f : Finding) (seen : List (Lease × Finding)) :
    looks ((l, f) :: seen) = f.looks + looks seen := rfl

/-- **A search looks at every leased session once.** -/
theorem findings_perm (look : Looks) (n : Nat) (rest : List Lease) :
    ((findings look n rest).map Prod.fst).Perm rest := by
  fun_induction findings look n rest with
  | case1 => exact .refl _
  | case2 n l more ih =>
    refine .cons l (ih.trans ?_)
    split
    · exact .refl _
    · exact fillFirst_perm more

/-- What a search finds out is what it sees. -/
theorem exists_of_mem_findings (h : (l, f) ∈ findings look n rest) :
    ∃ m, l.finding look m = f := by
  fun_induction findings look n rest with
  | case1 => cases h
  | case2 n l' more ih =>
    rcases List.mem_cons.mp h with same | h
    · cases same
      exact ⟨n, rfl⟩
    · exact ih h

theorem mem_found {seen : List (Lease × Finding)} : l ∈ found f seen ↔ (l, f) ∈ seen := by
  simp [found]

/-- **Looking over the leased sessions in time.** The clock is read once for each session that stays
leased. -/
theorem sweep_eq (n : Nat) (available : List Nat) (kept rest : List Lease)
    (onTime : ∀ k < (found .leased (findings look n rest)).length,
      late (kept.length + k) = false) :
    sweep look late n available kept rest =
      ⟨true, ⟨available ++ (found .released (findings look n rest)).map Lease.session,
        kept ++ found .leased (findings look n rest)⟩, n + looks (findings look n rest)⟩ := by
  fun_induction sweep look late n available kept rest with
  | case1 => simp [findings]
  | case2 n available kept l more dead ih =>
    have seen : l.finding look n = .dead := by simp [Lease.finding, dead]
    rw [findings, seen] at onTime ⊢
    rw [ih onTime]
    simp [Finding.looks, Nat.add_assoc]
  | case3 n available kept l more dead released ih =>
    have seen : l.finding look n = .released := by simp [Lease.finding, dead, released]
    rw [findings, seen] at onTime ⊢
    rw [ih onTime]
    simp [Finding.looks, Nat.add_assoc]
  | case4 n available kept l more dead released late =>
    have seen : l.finding look n = .leased := by simp [Lease.finding, dead, released]
    rw [findings, seen] at onTime
    have := onTime 0 (by simp)
    simp [late] at this
  | case5 n available kept l more dead released late ih =>
    have seen : l.finding look n = .leased := by simp [Lease.finding, dead, released]
    rw [findings, seen] at onTime ⊢
    rw [ih fun k hk => ?_]
    · simp [Finding.looks, Nat.add_assoc]
    · have := onTime (k + 1) (by simpa [Finding.looks] using hk)
      rwa [List.length_append, List.length_singleton, Nat.add_right_comm]

/-- A pool whose leased sessions have been looked over. -/
def tidied (p : Pool) (look : Looks) : Pool :=
  ⟨p.available ++ (found .released (findings look 0 p.leased)).map Lease.session,
    found .leased (findings look 0 p.leased)⟩

/-- The number of looks that it takes to look the leased sessions over. -/
def tidyLooks (p : Pool) (look : Looks) : Nat := looks (findings look 0 p.leased)

theorem swept_eq (onTime : ∀ n, late n = false) (p : Pool) (look : Looks) :
    p.swept look late = ⟨true, p.tidied look, p.tidyLooks look⟩ := by
  simp [swept, sweep_eq 0 p.available [] p.leased fun _ _ => onTime _, tidied, tidyLooks]

/-- Looking over the leased sessions leaves no more of them. -/
theorem length_leased_tidied_le (p : Pool) (look : Looks) :
    (p.tidied look).leased.length ≤ p.leased.length := by
  rw [← (findings_perm look 0 p.leased).length_eq, List.length_map]
  simp only [tidied, found, List.length_map]
  exact List.length_filter_le _ _

/-! ## Available sessions -/

/-- The available session at a place, the first place being zero, can be handed out when a search
comes to it that finds none in front of it and that begins with the look number `n`. -/
def FitsAt (look : Looks) (limits : PoolLimits) (n : Nat) (available : List Nat) (i : Nat) : Prop :=
  ∃ id, available[i]? = some id ∧
    limits.admit (look (n + 3 * i) id).dead (look (n + 3 * i + 1) id).age
      (look (n + 3 * i + 2) id).commands = true

theorem fitsAt_zero {more : List Nat} : FitsAt look limits n (id :: more) 0 ↔
    limits.admit (look n id).dead (look (n + 1) id).age (look (n + 2) id).commands = true := by
  simp [FitsAt]

theorem fitsAt_succ {more : List Nat} :
    FitsAt look limits n (id :: more) (i + 1) ↔ FitsAt look limits (n + 3) more i := by
  rw [FitsAt, FitsAt, show n + 3 * (i + 1) = n + 3 + 3 * i by omega]
  rfl

/-- If one can be handed out, there is a first one. -/
theorem exists_first_of_fitsAt (fits : FitsAt look limits n available i) :
    ∃ j ≤ i, FitsAt look limits n available j ∧ ∀ k < j, ¬FitsAt look limits n available k := by
  classical
  have some_fits : ∃ j, FitsAt look limits n available j := ⟨i, fits⟩
  exact ⟨Nat.find some_fits, Nat.find_min' some_fits fits, Nat.find_spec some_fits,
    fun k => Nat.find_min some_fits⟩

/-- **The first session that can be handed out is found**, and those in front of it are closed. -/
theorem choose_of_fitsAt (onTime : ∀ n, late n = false) (readings : Nat)
    (fits : FitsAt look limits n available i)
    (first : ∀ j < i, ¬FitsAt look limits n available j) :
    choose look limits late n readings available =
      { closed := available.take i, found := available[i]?, rest := available.drop (i + 1),
        looks := n + 3 * (i + 1) } := by
  induction available generalizing n i readings with
  | nil =>
    obtain ⟨id, there, -⟩ := fits
    cases there
  | cons id more ih =>
    cases i with
    | zero => simp [choose, fitsAt_zero.mp fits]
    | succ i =>
      have unfit := mt fitsAt_zero.mpr (first 0 (Nat.succ_pos i))
      have again := ih (readings + 1) (fitsAt_succ.mp fits) fun j hj =>
        mt fitsAt_succ.mpr (first (j + 1) (Nat.succ_lt_succ hj))
      simp only [choose, if_neg unfit, onTime, Bool.false_eq_true, if_false, again]
      simp only [List.take_succ_cons, List.getElem?_cons_succ, List.drop_succ_cons,
        Choice.mk.injEq, true_and]
      omega

/-- If no session can be handed out, all of them are closed. -/
theorem choose_of_none (onTime : ∀ n, late n = false) (readings : Nat)
    (none : ∀ i, ¬FitsAt look limits n available i) :
    choose look limits late n readings available =
      { closed := available, looks := n + 3 * available.length } := by
  induction available generalizing n readings with
  | nil => rfl
  | cons id more ih =>
    have unfit := mt fitsAt_zero.mpr (none 0)
    have again := ih (readings + 1) fun j => mt fitsAt_succ.mpr (none (j + 1))
    simp only [choose, if_neg unfit, onTime, Bool.false_eq_true, if_false, again]
    simp only [List.length_cons, Choice.mk.injEq, true_and]
    omega

/-! ## The whole search -/

/-- **A search in time hands out the first available session that it can**, and closes those in
front of it. -/
theorem seek_of_fitsAt (onTime : ∀ n, late n = false)
    (fits : FitsAt look limits (p.tidyLooks look) (p.tidied look).available i)
    (first : ∀ j < i, ¬FitsAt look limits (p.tidyLooks look) (p.tidied look).available j)
    (there : (p.tidied look).available[i]? = some id) :
    p.seek look limits late =
      { pool := lend ⟨(p.tidied look).available.drop (i + 1), (p.tidied look).leased⟩ id
          (look (p.tidyLooks look + 3 * (i + 1)) id).commands
        closed := (p.tidied look).available.take i
        found := .ok (some id)
        looks := p.tidyLooks look + 3 * (i + 1) + 1 } := by
  have swept := swept_eq onTime p look
  simp only [Pool.swept] at swept
  simp only [seek, swept, choose_of_fitsAt onTime _ fits first, there, Bool.not_true,
    Bool.false_eq_true, if_false]

/-- **A search in time that can hand out no session closes all that are available**, and gives up if
those that stay leased are too many. -/
theorem seek_of_none (onTime : ∀ n, late n = false)
    (none : ∀ i, ¬FitsAt look limits (p.tidyLooks look) (p.tidied look).available i) :
    p.seek look limits late =
      { pool := ⟨[], (p.tidied look).leased⟩
        closed := (p.tidied look).available
        found := if 0 < limits.sessions ∧ limits.sessions ≤ (p.tidied look).leased.length
          then .error .noFreeSession else .ok .none
        looks := p.tidyLooks look + 3 * (p.tidied look).available.length } := by
  have swept := swept_eq onTime p look
  simp only [Pool.swept] at swept
  simp only [seek, swept, choose_of_none onTime _ none, Bool.not_true, Bool.false_eq_true, if_false,
    Pool.size, List.length_nil, Nat.zero_add]
  split <;> rfl

end Pool

end Icap
