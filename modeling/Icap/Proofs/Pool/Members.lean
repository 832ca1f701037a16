import Icap.Pool
import Mathlib.Data.List.Perm.Basic

/-!
# The sessions of a pool

Whatever a pool does, it moves its sessions around: none is lost but those that were seen dead and
those that are to be closed, and none is there twice.

* `sweep_members`, `choose_eq` — the two halves of a search.
* `seek_members` — the sessions of a pool before and after a search.
* `giveBack_members` — those before and after a session is given back.
-/

namespace Icap.Pool

variable {α : Type}

/-! ## Lists with a gap -/

theorem fillFirst_perm (xs : List α) : (fillFirst xs).Perm xs := by
  cases xs with
  | nil => exact .refl _
  | cons x xs =>
    have h := List.perm_append_singleton ((x :: xs).getLast (List.cons_ne_nil x xs))
      (x :: xs).dropLast
    rw [List.dropLast_append_getLast] at h
    exact h.symm

theorem swapRemove_perm {xs : List α} {i : Nat} (h : i < xs.length) :
    (xs[i] :: swapRemove xs i).Perm xs := by
  have split : xs = xs.take i ++ xs[i] :: xs.drop (i + 1) := by simp
  have filled : (xs[i] :: swapRemove xs i).Perm (xs[i] :: (xs.take i ++ xs.drop (i + 1))) :=
    .cons _ (.append_left _ (fillFirst_perm _))
  have middle : (xs[i] :: (xs.take i ++ xs.drop (i + 1))).Perm xs := by
    conv_rhs => rw [split]
    exact List.perm_middle.symm
  exact filled.trans middle

/-! ## Searching -/

/-- A session that leaves the gap to another one. -/
theorem gap_perm (available : List Nat) (kept more : List Lease) (l : Lease) :
    (available ++ (kept ++ l :: more).map Lease.session).Perm
      (available ++ l.session :: (kept ++ fillFirst more).map Lease.session) := by
  refine .append_left _ ?_
  have middle : (kept ++ l :: more).Perm (l :: (kept ++ more)) := List.perm_middle
  exact (middle.trans (.cons _ (.append_left _ (fillFirst_perm more).symm))).map Lease.session

/-- Looking over the leased sessions drops none but dead ones. -/
theorem sweep_members (look : Looks) (late : Nat → Bool) (n : Nat) (available : List Nat)
    (kept rest : List Lease) :
    ∃ gone, (available ++ (kept ++ rest).map Lease.session).Perm
        ((sweep look late n available kept rest).pool.members ++ gone) ∧
      ∀ id ∈ gone, ∃ m, (look m id).dead = true := by
  fun_induction sweep look late n available kept rest with
  | case1 n available kept => exact ⟨[], by simp [members], by simp⟩
  | case2 n available kept l more dead ih =>
    obtain ⟨gone, perm, seen⟩ := ih
    have dropped := (gap_perm available kept more l).trans (List.perm_middle.trans (perm.cons _))
    refine ⟨l.session :: gone, dropped.trans List.perm_middle.symm, ?_⟩
    rintro id (_ | ⟨_, hid⟩)
    · exact ⟨n, dead⟩
    · exact seen id hid
  | case3 n available kept l more dead released ih =>
    obtain ⟨gone, perm, seen⟩ := ih
    rw [List.append_assoc] at perm
    exact ⟨gone, (gap_perm available kept more l).trans perm, seen⟩
  | case4 n available kept l more dead released late => exact ⟨[], by simp [members], by simp⟩
  | case5 n available kept l more dead released late ih =>
    rw [List.append_assoc] at ih
    exact ih

/-- The search among available sessions takes them in their order. -/
theorem choose_eq (look : Looks) (limits : PoolLimits) (late : Nat → Bool) (n readings : Nat)
    (available : List Nat) :
    available = (choose look limits late n readings available).closed ++
      ((choose look limits late n readings available).found.toList ++
        (choose look limits late n readings available).rest) := by
  fun_induction choose look limits late n readings available with
  | case1 => rfl
  | case2 => rfl
  | case3 => rfl
  | case4 n readings id more admitted late c ih => exact congrArg (id :: ·) ih

/-- A search that is late has found nothing. -/
theorem choose_found (look : Looks) (limits : PoolLimits) (late : Nat → Bool) (n readings : Nat)
    (available : List Nat) (h : (choose look limits late n readings available).inTime = false) :
    (choose look limits late n readings available).found = none := by
  fun_induction choose look limits late n readings available with
  | case1 => cases h
  | case2 => cases h
  | case3 => rfl
  | case4 n readings id more admitted late c ih => exact ih h

/-- What is taken from the front of a pool. -/
theorem members_of_available_eq {p : Pool} {closed found rest : List Nat}
    (h : p.available = closed ++ (found ++ rest)) :
    p.members.Perm ({ p with available := rest }.members ++ found ++ closed) := by
  simp only [members, h, List.append_assoc]
  have front : (closed ++ (found ++ (rest ++ p.leased.map Lease.session))).Perm
      ((rest ++ p.leased.map Lease.session) ++ found ++ closed) :=
    List.perm_append_comm.trans (.append_right _ List.perm_append_comm)
  simpa only [List.append_assoc] using front

/-- A session that is handed out is one of the pool. -/
theorem members_lend (p : Pool) (session commands : Nat) :
    (p.lend session commands).members = p.members ++ [session] := by
  simp [members, lend]

theorem size_eq (p : Pool) : p.size = p.members.length := by simp [size, members]

/-- **A search keeps the sessions of the pool**, but for dead ones and those to close. -/
theorem seek_members (p : Pool) (look : Looks) (limits : PoolLimits) (late : Nat → Bool) : ∃ gone,
    p.members.Perm ((p.seek look limits late).pool.members ++ gone) ∧
      ∀ id ∈ gone, (∃ m, (look m id).dead = true) ∨ id ∈ (p.seek look limits late).closed := by
  obtain ⟨gone, perm, seen⟩ := sweep_members look late 0 p.available [] p.leased
  rw [List.nil_append] at perm
  simp only [seek]
  generalize sweep look late 0 p.available [] p.leased = swept at perm ⊢
  have eq := choose_eq look limits late swept.looks swept.pool.leased.length swept.pool.available
  have none_of_late := choose_found look limits late swept.looks swept.pool.leased.length
    swept.pool.available
  generalize choose look limits late swept.looks swept.pool.leased.length swept.pool.available = c
    at eq none_of_late ⊢
  -- an available session is left, found or closed
  have taken : p.members.Perm ({ swept.pool with available := c.rest }.members ++
      c.found.toList ++ (c.closed ++ gone)) := by
    rw [← List.append_assoc]
    exact perm.trans (.append_right gone (members_of_available_eq eq))
  have left : ∀ id ∈ c.closed ++ gone, (∃ m, (look m id).dead = true) ∨ id ∈ c.closed := by
    intro id hid
    rcases List.mem_append.mp hid with hid | hid
    · exact .inr hid
    · exact .inl (seen id hid)
  split
  · exact ⟨gone, perm, fun id hid => .inl (seen id hid)⟩
  split
  next late =>
    rw [none_of_late (by simpa using late), Option.toList_none, List.append_nil] at taken
    exact ⟨_, taken, left⟩
  split
  next id found =>
    rw [found, Option.toList_some] at taken
    exact ⟨_, (members_lend ..).symm ▸ taken, left⟩
  next found =>
    rw [found, Option.toList_none, List.append_nil] at taken
    split <;> exact ⟨_, taken, left⟩

/-- A new session is asked for only if there is room for it. -/
theorem seek_size_lt {p : Pool} {look : Looks} {limits : PoolLimits} {late : Nat → Bool}
    (h : (p.seek look limits late).found = .ok none) (limited : 0 < limits.sessions) :
    (p.seek look limits late).pool.size < limits.sessions := by
  revert h
  simp only [seek]
  split
  · rintro ⟨⟩
  split
  · rintro ⟨⟩
  split
  · rintro ⟨⟩
  split
  · rintro ⟨⟩
  next full =>
    intro _
    dsimp only
    omega

/-! ## Giving back -/

/-- **A session that is given back stays a session of the pool.** -/
theorem giveBack_members (p : Pool) (session : Nat) (idle : Bool) :
    (p.giveBack session idle).members.Perm p.members := by
  simp only [giveBack]
  split
  next i found =>
    obtain ⟨hi, same, -⟩ := List.findIdx?_eq_some_iff_getElem.mp found
    have same : p.leased[i].session = session ∧ idle = true := by simpa using same
    have moved := (swapRemove_perm hi).map Lease.session
    rw [List.map_cons, same.1] at moved
    exact List.perm_middle.symm.trans (.append_left _ moved)
  next => exact .refl _

end Icap.Pool
