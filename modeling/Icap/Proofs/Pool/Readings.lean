import Icap.Proofs.Pool.Round

/-!
# When a search gives up

A search reads the clock once for each session that stays leased and once for each available session
that it closes, and at no other time. It gives up at the first reading at which it is late. If it is
late at none of them, it comes to what it would come to with all the time in the world.

* `unhurried` — a search that is never late.
* `readings` — how often it reads the clock.
* `seek_of_onTime` — a search that is late at none of its readings.
* `found_timeout_iff` — a search gives up if and only if it is late at one of them.
* `dead_or_closed_of_seek`, `unfit_of_closed` — what a search loses, late or not.
-/

namespace Icap.Pool

variable {p : Pool} {look : Looks} {limits : PoolLimits} {late : Nat → Bool} {id n : Nat}
  {l : Lease} {available : List Nat} {kept rest : List Lease}

/-- A search that is never late. -/
def unhurried (p : Pool) (look : Looks) (limits : PoolLimits) : Search :=
  p.seek look limits fun _ => false

/-- How often a search reads the clock that does not give up. -/
def readings (p : Pool) (look : Looks) (limits : PoolLimits) : Nat :=
  (p.tidied look).leased.length + (p.unhurried look limits).closed.length

/-! ## Looking over the leased sessions -/

/-- Looking over the leased sessions is in time if it is late for none of those that stay leased. -/
theorem inTime_sweep_iff (n : Nat) (available : List Nat) (kept rest : List Lease) :
    (sweep look late n available kept rest).inTime = true ↔
      ∀ k < (found .leased (findings look n rest)).length, late (kept.length + k) = false := by
  constructor
  · intro inTime
    fun_induction sweep look late n available kept rest with
    | case1 => simp [findings]
    | case2 n available kept l more dead ih =>
      have seen : l.finding look n = .dead := by simp [Lease.finding, dead]
      rw [findings, seen]
      exact ih inTime
    | case3 n available kept l more dead released ih =>
      have seen : l.finding look n = .released := by simp [Lease.finding, dead, released]
      rw [findings, seen]
      exact ih inTime
    | case4 => cases inTime
    | case5 n available kept l more dead released late ih =>
      have seen : l.finding look n = .leased := by simp [Lease.finding, dead, released]
      rw [findings, seen]
      intro k hk
      cases k with
      | zero => simpa using late
      | succ k =>
        have := ih inTime k (by simpa [Finding.looks] using hk)
        rwa [List.length_append, List.length_singleton, Nat.add_right_comm] at this
  · intro onTime
    rw [sweep_eq n available kept rest onTime]

theorem inTime_swept_iff : (p.swept look late).inTime = true ↔
    ∀ k < (p.tidied look).leased.length, late k = false := by
  simp only [swept, inTime_sweep_iff, List.length_nil, Nat.zero_add, tidied]

/-- Looking over the leased sessions in time leaves the pool tidied. -/
theorem swept_of_inTime (inTime : (p.swept look late).inTime = true) :
    p.swept look late = ⟨true, p.tidied look, p.tidyLooks look⟩ := by
  have onTime := inTime_swept_iff.mp inTime
  rw [swept, sweep_eq 0 p.available [] p.leased (by simpa [tidied] using onTime)]
  simp [tidied, tidyLooks]

/-- A session is dropped if it is found dead, and at no other time. -/
theorem dead_of_not_mem_sweep (there : id ∈ available ++ (kept ++ rest).map Lease.session)
    (gone : id ∉ (sweep look late n available kept rest).pool.members) :
    ∃ l, (l, .dead) ∈ findings look n rest ∧ l.session = id := by
  fun_induction sweep look late n available kept rest with
  | case1 => exact absurd (by simpa [members] using there) gone
  | case4 => exact absurd there gone
  | case2 n available kept l more dead ih =>
    have seen : l.finding look n = .dead := by simp [Lease.finding, dead]
    rw [findings, seen]
    rcases List.mem_cons.mp (((gap_perm available kept more l).trans List.perm_middle).mem_iff.mp
      there) with same | other
    · exact ⟨l, List.mem_cons_self, same.symm⟩
    · obtain ⟨l', found, same⟩ := ih other gone
      exact ⟨l', List.mem_cons_of_mem _ found, same⟩
  | case3 n available kept l more dead released ih =>
    have seen : l.finding look n = .released := by simp [Lease.finding, dead, released]
    rw [findings, seen]
    have there' := (gap_perm available kept more l).mem_iff.mp there
    obtain ⟨l', found, same⟩ := ih (by simpa using there') gone
    exact ⟨l', List.mem_cons_of_mem _ found, same⟩
  | case5 n available kept l more dead released late ih =>
    have seen : l.finding look n = .leased := by simp [Lease.finding, dead, released]
    rw [findings, seen]
    obtain ⟨l', found, same⟩ := ih (by simpa using there) gone
    exact ⟨l', List.mem_cons_of_mem _ found, same⟩

/-! ## Searching the available sessions -/

/-- The search among available sessions is in time if it is late for none of those that it would
close with all the time in the world. -/
theorem inTime_choose_iff (n readings : Nat) (available : List Nat) :
    (choose look limits late n readings available).inTime = true ↔
      ∀ k < (choose look limits (fun _ => false) n readings available).closed.length,
        late (readings + k) = false := by
  fun_induction choose look limits late n readings available with
  | case1 => simp [choose]
  | case2 n readings id more admitted => simp [choose, admitted]
  | case3 n readings id more admitted late =>
    simp only [choose, admitted, Bool.false_eq_true, if_false, List.length_cons, false_iff]
    intro onTime
    have := onTime 0 (Nat.succ_pos _)
    simp [late] at this
  | case4 n readings id more admitted onTime c ih =>
    simp only [choose, admitted, Bool.false_eq_true, if_false, List.length_cons,
      Nat.forall_lt_succ_left, Nat.add_zero, Bool.eq_false_iff.mpr onTime, true_and]
    refine ih.trans (forall₂_congr fun k _ => ?_)
    rw [Nat.add_assoc, Nat.add_comm 1 k]

theorem choose_of_onTime (n readings : Nat) (available : List Nat)
    (inTime : (choose look limits late n readings available).inTime = true) :
    choose look limits late n readings available =
      choose look limits (fun _ => false) n readings available := by
  fun_induction choose look limits late n readings available with
  | case1 => rfl
  | case2 n readings id more admitted => simp [choose, admitted]
  | case3 => cases inTime
  | case4 n readings id more admitted onTime c ih =>
    simp only [choose, admitted, Bool.false_eq_true, if_false, ← ih inTime]
    rfl

/-- What a search closes it could not use when it came to it. -/
theorem unfit_of_closed_choose {readings : Nat}
    (closed : id ∈ (choose look limits late n readings available).closed) :
    ∃ i, available[i]? = some id ∧ ¬FitsAt look limits n available i := by
  fun_induction choose look limits late n readings available with
  | case1 => cases closed
  | case2 => cases closed
  | case3 n readings id' more admitted late =>
    obtain rfl := List.mem_singleton.mp closed
    exact ⟨0, rfl, fun fits => admitted (fitsAt_zero.mp fits)⟩
  | case4 n readings id' more admitted onTime c ih =>
    rcases List.mem_cons.mp closed with rfl | closed
    · exact ⟨0, rfl, fun fits => admitted (fitsAt_zero.mp fits)⟩
    · obtain ⟨i, there, unfit⟩ := ih closed
      exact ⟨i + 1, there, fun fits => unfit (fitsAt_succ.mp fits)⟩

/-! ## The whole search -/

/-- A search gives up among the leased sessions if it is late there. -/
theorem seek_of_late_sweep (inTime : (p.swept look late).inTime = false) :
    p.seek look limits late =
      { pool := (p.swept look late).pool, found := .error .timeout
        looks := (p.swept look late).looks } := by
  rw [swept] at inTime ⊢
  simp [seek, inTime]

/-- A search that has looked over the leased sessions in time gives up among the available ones if
it is late there. -/
theorem found_of_late_choice (swept : (p.swept look late).inTime = true)
    (inTime : (p.choice look limits late).inTime = false) :
    (p.seek look limits late).found = .error .timeout := by
  simp only [choice, Pool.swept] at swept inTime
  simp [seek, swept, inTime]

/-- What a search closes that has looked over the leased sessions in time. -/
theorem closed_of_swept (inTime : (p.swept look late).inTime = true) :
    (p.seek look limits late).closed = (p.choice look limits late).closed := by
  rw [swept] at inTime
  simp only [seek, choice, swept, inTime]
  split
  · contradiction
  split
  · rfl
  split
  · rfl
  split <;> rfl

theorem choice_of_inTime (inTime : (p.swept look late).inTime = true) :
    p.choice look limits late = choose look limits late (p.tidyLooks look)
      (p.tidied look).leased.length (p.tidied look).available := by
  simp only [choice, swept_of_inTime inTime]

/-- The readings of a search are those for leased sessions and, behind them, those for available
ones. -/
theorem forall_readings_iff {P : Nat → Prop} : (∀ k < p.readings look limits, P k) ↔
    (∀ k < (p.tidied look).leased.length, P k) ∧
      ∀ k < (p.unhurried look limits).closed.length, P ((p.tidied look).leased.length + k) := by
  constructor
  · intro h
    exact ⟨fun k hk => h k (Nat.lt_add_right _ hk), fun k hk => h _ (Nat.add_lt_add_left hk _)⟩
  · rintro ⟨first, second⟩ k hk
    rcases Nat.lt_or_ge k (p.tidied look).leased.length with lt | ge
    · exact first k lt
    · obtain ⟨j, rfl⟩ := Nat.exists_eq_add_of_le ge
      exact second j (Nat.lt_of_add_lt_add_left hk)

theorem inTime_unhurried (p : Pool) (look : Looks) : (p.swept look fun _ => false).inTime = true :=
  inTime_swept_iff.mpr fun _ _ => rfl

/-- A search is late at none of its readings if both of its parts are in time. -/
theorem onTime_iff : (∀ k < p.readings look limits, late k = false) ↔
    (p.swept look late).inTime = true ∧ (p.choice look limits late).inTime = true := by
  rw [forall_readings_iff, ← inTime_swept_iff]
  refine and_congr_right fun inTime => ?_
  rw [choice_of_inTime inTime, inTime_choose_iff, unhurried,
    closed_of_swept (inTime_unhurried p look), choice_of_inTime (inTime_unhurried p look)]

/-- **A search that is late at none of its readings** comes to what it comes to when it is never
late. -/
theorem seek_of_onTime (onTime : ∀ k < p.readings look limits, late k = false) :
    p.seek look limits late = p.unhurried look limits := by
  obtain ⟨inTime, inTime'⟩ := onTime_iff.mp onTime
  have swept_eq : p.swept look late = p.swept look fun _ => false := by
    rw [swept_of_inTime inTime, swept_of_inTime (inTime_unhurried p look)]
  have choice_eq : p.choice look limits late = p.choice look limits fun _ => false := by
    rw [choice_of_inTime inTime] at inTime' ⊢
    rw [choose_of_onTime _ _ _ inTime', choice_of_inTime (inTime_unhurried p look)]
  rw [swept, swept] at swept_eq
  rw [choice, choice, swept, swept, swept_eq] at choice_eq
  simp only [unhurried, seek, swept_eq, choice_eq]

/-- **A search gives up if and only if it is late at one of its readings.** -/
theorem found_timeout_iff : (p.seek look limits late).found = .error .timeout ↔
    ∃ k < p.readings look limits, late k = true := by
  constructor
  · intro timeout
    by_contra none
    have onTime : ∀ k < p.readings look limits, late k = false := by simpa using none
    rw [seek_of_onTime onTime] at timeout
    -- a search that is never late does not give up
    rcases fault_of_seek timeout with fault | ⟨-, m, late⟩
    · cases fault
    · cases late
  · rintro ⟨k, hk, isLate⟩
    by_cases inTime : (p.swept look late).inTime = true
    · refine found_of_late_choice inTime (Bool.eq_false_iff.mpr fun inTime' => ?_)
      rw [onTime_iff.mpr ⟨inTime, inTime'⟩ k hk] at isLate
      cases isLate
    · rw [seek_of_late_sweep (by simpa using inTime)]

/-! ## What a search loses -/

/-- **What a search loses** it has found dead among the leased sessions, or it closes it. -/
theorem dead_or_closed_of_seek (there : id ∈ p.members)
    (gone : id ∉ (p.seek look limits late).pool.members) :
    (∃ l, (l, .dead) ∈ findings look 0 p.leased ∧ l.session = id) ∨
      id ∈ (p.seek look limits late).closed := by
  by_cases kept : id ∈ (p.swept look late).pool.members
  · -- after the first part it is there, so the second part leaves, finds or closes it
    have taken := members_of_available_eq (p.available_swept look limits late)
    rw [taken.mem_iff, List.append_assoc, List.mem_append, List.mem_append,
      Option.mem_toList] at kept
    have seeks := seeks_seek p look limits late
    generalize p.seek look limits late = s at gone seeks ⊢
    cases seeks with
    | lateSweep =>
      refine absurd (taken.mem_iff.mpr ?_) gone
      rwa [List.append_assoc, List.mem_append, List.mem_append, Option.mem_toList]
    | lateChoice inTime =>
      have nothing := choose_found _ _ _ _ _ _ inTime
      rw [← choice] at nothing
      exact .inr ((kept.resolve_left gone).resolve_left (by simp [nothing]))
    | found found =>
      rw [members_lend, List.mem_append, List.mem_singleton] at gone
      obtain ⟨left, other⟩ := not_or.mp gone
      refine .inr ((kept.resolve_left left).resolve_left fun same => other ?_)
      rw [found] at same
      exact (Option.some.inj same).symm
    | full nothing | room nothing =>
      exact .inr ((kept.resolve_left gone).resolve_left (by simp [nothing]))
  · exact .inl (dead_of_not_mem_sweep there kept)

/-- **What a search closes** was available, or had been found released, and could not be used. -/
theorem unfit_of_closed (closed : id ∈ (p.seek look limits late).closed) :
    ∃ i, (p.tidied look).available[i]? = some id ∧
      ¬FitsAt look limits (p.tidyLooks look) (p.tidied look).available i := by
  by_cases inTime : (p.swept look late).inTime = true
  · rw [closed_of_swept inTime, choice_of_inTime inTime] at closed
    exact unfit_of_closed_choose closed
  · rw [seek_of_late_sweep (by simpa using inTime)] at closed
    cases closed

end Icap.Pool
