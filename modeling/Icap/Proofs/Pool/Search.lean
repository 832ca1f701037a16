import Icap.Proofs.Pool.Members

/-!
# What a search for a session comes to

A search looks over the leased sessions, then takes the first available one that can be used. What
it finds has been available or has been found released, and has been seen alive; what it closes is
gone.

* `tests` — the tests for release that a search makes, of which each looks twice.
* `Released` — a leased session is found released.
* `Seeks`, `seeks_seek` — how a search may end.
* `mem_available_of_seek`, `mem_leased_of_seek` — where the sessions of the pool come from.
* `alive_of_seek`, `closed_of_seek`, `fault_of_seek` — what is found, closed and refused.
-/

namespace Icap.Pool

variable {p : Pool} {look : Looks} {limits : PoolLimits} {late : Nat → Bool} {id n : Nat}
  {l : Lease} {s : Search} {available : List Nat} {kept rest : List Lease} {fault : ScanFault}

/-! ## Sweeping -/

/-- The tests for release while the leased sessions `rest` are looked over, beginning with the look
number `n`: the session that is tested, and the number of the first of the two looks at it. So many
sessions as `kept` says have been found to stay leased before. -/
def tests (look : Looks) (late : Nat → Bool) (n kept : Nat) (rest : List Lease) :
    List (Nat × Nat) :=
  match rest with
  | [] => []
  | l :: more =>
    if (look n l.session).dead then tests look late (n + 1) kept (fillFirst more)
    else
      (l.session, n + 1) ::
        if l.isReleased (look (n + 1) l.session).idle (look (n + 2) l.session).commands then
          tests look late (n + 3) kept (fillFirst more)
        else if late kept then []
        else tests look late (n + 3) (kept + 1) more
termination_by rest.length

/-- A leased session is tested, and found idle with other commands than those on record. -/
def Released (look : Looks) (tested : List (Nat × Nat)) (leased : List Lease) (id : Nat) : Prop :=
  ∃ l ∈ leased, l.session = id ∧
    ∃ m, (id, m) ∈ tested ∧ (look m id).idle = true ∧ (look (m + 1) id).commands ≠ l.commands

theorem Released.mono {tested tested' : List (Nat × Nat)} {leased leased' : List Lease}
    (h : Released look tested leased id) (more : tested ⊆ tested') (sub : leased ⊆ leased') :
    Released look tested' leased' id := by
  obtain ⟨l, hl, same, m, there, released⟩ := h
  exact ⟨l, sub hl, same, m, more there, released⟩

theorem fillFirst_subset (l : Lease) (more : List Lease) : fillFirst more ⊆ l :: more :=
  fun _ h => List.mem_cons_of_mem _ ((fillFirst_perm more).mem_iff.mp h)

/-- A sweep makes a session available when it is found released. -/
theorem mem_available_of_sweep
    (h : id ∈ (sweep look late n available kept rest).pool.available) :
    id ∈ available ∨ Released look (tests look late n kept.length rest) rest id := by
  fun_induction sweep look late n available kept rest with
  | case1 => exact .inl h
  | case4 => exact .inl h
  | case2 n available kept l more dead ih =>
    rw [tests, if_pos dead]
    exact (ih h).imp_right fun released =>
      released.mono (List.Subset.refl _) (fillFirst_subset l more)
  | case3 n available kept l more dead released ih =>
    rw [tests, if_neg dead, if_pos released]
    rcases ih h with there | released'
    · rcases List.mem_append.mp there with there | now
      · exact .inl there
      · obtain rfl := List.mem_singleton.mp now
        obtain ⟨idle, commands⟩ : _ ∧ _ := by simpa [Lease.isReleased] using released
        exact .inr ⟨l, List.mem_cons_self, rfl, n + 1, List.mem_cons_self, idle, commands⟩
    · exact .inr (released'.mono (List.subset_cons_self _ _) (fillFirst_subset l more))
  | case5 n available kept l more dead released late ih =>
    rw [tests, if_neg dead, if_neg released, if_neg late]
    rw [List.length_append, List.length_singleton] at ih
    exact (ih h).imp_right fun released =>
      released.mono (List.subset_cons_self _ _) (List.subset_cons_self l more)

/-- A sweep leases nothing. -/
theorem mem_leased_of_sweep (h : l ∈ (sweep look late n available kept rest).pool.leased) :
    l ∈ kept ++ rest := by
  fun_induction sweep look late n available kept rest with
  | case1 => simpa using h
  | case4 => exact h
  | case2 n available kept l' more dead ih | case3 n available kept l' more dead released ih =>
    rcases List.mem_append.mp (ih h) with there | there
    · exact List.mem_append_left _ there
    · exact List.mem_append_right _ (fillFirst_subset l' more there)
  | case5 n available kept l' more dead released late ih => simpa using ih h

/-- A sweep that is not in time was late. -/
theorem late_of_sweep (h : (sweep look late n available kept rest).inTime = false) :
    ∃ m, late m = true := by
  fun_induction sweep look late n available kept rest with
  | case1 => cases h
  | case4 n available kept l more dead released late => exact ⟨_, late⟩
  | case2 _ _ _ _ _ _ ih | case3 _ _ _ _ _ _ _ ih | case5 _ _ _ _ _ _ _ _ ih => exact ih h

/-! ## Choosing -/

/-- What a search finds has been seen alive. -/
theorem alive_of_choose {readings : Nat}
    (found : (choose look limits late n readings available).found = some id) :
    ∃ m, (look m id).dead = false := by
  fun_induction choose look limits late n readings available with
  | case1 => cases found
  | case2 n readings id' more admitted =>
    cases found
    exact ⟨n, by simp_all [ PoolLimits.admit]⟩
  | case3 => cases found
  | case4 n readings id' more admitted late c ih => exact ih found

/-- A choice that is not in time was late. -/
theorem late_of_choose {readings : Nat}
    (h : (choose look limits late n readings available).inTime = false) : ∃ m, late m = true := by
  fun_induction choose look limits late n readings available with
  | case1 => cases h
  | case2 => cases h
  | case3 n readings id more admitted late => exact ⟨_, late⟩
  | case4 n readings id more admitted late c ih => exact ih h

/-! ## Searching -/

/-- How a pool is left by the first part of a search. -/
def swept (p : Pool) (look : Looks) (late : Nat → Bool) : Sweep :=
  sweep look late 0 p.available [] p.leased

/-- The tests for release that a search makes. -/
def tested (p : Pool) (look : Looks) (late : Nat → Bool) : List (Nat × Nat) :=
  tests look late 0 0 p.leased

/-- How the second part of a search ends. -/
def choice (p : Pool) (look : Looks) (limits : PoolLimits) (late : Nat → Bool) : Choice :=
  choose look limits late (p.swept look late).looks (p.swept look late).pool.leased.length
    (p.swept look late).pool.available

/-- The pool between the two parts of a search and what follows. -/
def chosen (p : Pool) (look : Looks) (limits : PoolLimits) (late : Nat → Bool) : Pool :=
  { (p.swept look late).pool with available := (p.choice look limits late).rest }

/-- How a search may end. -/
inductive Seeks (p : Pool) (look : Looks) (limits : PoolLimits) (late : Nat → Bool) : Search → Prop
  /-- The leased sessions have taken too long. -/
  | lateSweep (inTime : (p.swept look late).inTime = false) :
      Seeks p look limits late
        { pool := (p.swept look late).pool, found := .error .timeout
          looks := (p.swept look late).looks }
  /-- The available sessions have taken too long. -/
  | lateChoice (inTime : (p.choice look limits late).inTime = false) :
      Seeks p look limits late
        { pool := p.chosen look limits late, closed := (p.choice look limits late).closed
          found := .error .timeout, looks := (p.choice look limits late).looks }
  /-- One of them is handed out. -/
  | found {id : Nat} (found : (p.choice look limits late).found = some id) :
      Seeks p look limits late
        { pool := (p.chosen look limits late).lend id
            (look (p.choice look limits late).looks id).commands
          closed := (p.choice look limits late).closed
          found := .ok (some id), looks := (p.choice look limits late).looks + 1 }
  /-- There is none, and no room for a new one. -/
  | full (found : (p.choice look limits late).found = none) :
      Seeks p look limits late
        { pool := p.chosen look limits late, closed := (p.choice look limits late).closed
          found := .error .noFreeSession, looks := (p.choice look limits late).looks }
  /-- There is none, and a new one is to be opened. -/
  | room (found : (p.choice look limits late).found = none) :
      Seeks p look limits late
        { pool := p.chosen look limits late, closed := (p.choice look limits late).closed
          found := .ok none, looks := (p.choice look limits late).looks }

theorem seeks_seek (p : Pool) (look : Looks) (limits : PoolLimits) (late : Nat → Bool) :
    Seeks p look limits late (p.seek look limits late) := by
  simp only [seek]
  split
  next inTime => exact .lateSweep (by simpa [swept] using inTime)
  split
  next inTime => exact .lateChoice (by simpa [choice, swept] using inTime)
  split
  next id found => exact .found found
  next found =>
    split
    · exact .full found
    · exact .room found

theorem available_swept (p : Pool) (look : Looks) (limits : PoolLimits) (late : Nat → Bool) :
    (p.swept look late).pool.available = (p.choice look limits late).closed ++
      ((p.choice look limits late).found.toList ++ (p.choice look limits late).rest) :=
  choose_eq ..

/-- What the second part of a search finds and leaves was available or has been found released. -/
theorem mem_available_of_choice (h : id ∈ (p.choice look limits late).rest ∨
    (p.choice look limits late).found = some id) :
    id ∈ p.available ∨ Released look (p.tested look late) p.leased id := by
  have there : id ∈ (p.swept look late).pool.available := by
    rw [p.available_swept look limits late, List.mem_append, List.mem_append, Option.mem_toList]
    exact .inr h.symm
  exact mem_available_of_sweep there

/-- What a search leaves available, and what it finds, was available or has been found released. -/
theorem mem_available_of_seek (h : id ∈ (p.seek look limits late).pool.available ∨
    (p.seek look limits late).found = .ok (some id)) :
    id ∈ p.available ∨ Released look (p.tested look late) p.leased id := by
  have seeks := seeks_seek p look limits late
  generalize p.seek look limits late = s at h seeks
  cases seeks with
  | lateSweep => exact mem_available_of_sweep (h.resolve_right (by simp))
  | lateChoice | full | room =>
    exact mem_available_of_choice (.inl (h.resolve_right (by simp)))
  | found found =>
    refine mem_available_of_choice (h.imp_right fun h => ?_)
    rw [found, ← Option.some.inj (Except.ok.inj h)]

/-- What a search leaves leased was leased, or is what it has found. -/
theorem mem_leased_of_seek (h : l ∈ (p.seek look limits late).pool.leased) :
    l ∈ p.leased ∨ (p.seek look limits late).found = .ok (some l.session) := by
  have leased_of_swept (h : l ∈ (p.swept look late).pool.leased) : l ∈ p.leased := by
    simpa using mem_leased_of_sweep h
  have seeks := seeks_seek p look limits late
  generalize p.seek look limits late = s at h seeks
  cases seeks with
  | lateSweep | lateChoice | full | room => exact .inl (leased_of_swept h)
  | found found =>
    rcases List.mem_append.mp h with there | now
    · exact .inl (leased_of_swept there)
    · rw [List.mem_singleton.mp now]
      exact .inr rfl

/-- What a search finds is leased, with the commands that it has seen of it. -/
theorem leased_of_seek (found : (p.seek look limits late).found = .ok (some id)) :
    ⟨id, (look ((p.seek look limits late).looks - 1) id).commands⟩ ∈
      (p.seek look limits late).pool.leased := by
  have seeks := seeks_seek p look limits late
  generalize p.seek look limits late = s at found seeks
  cases seeks with
  | lateSweep | lateChoice | full | room => cases found
  | found =>
    cases found
    exact List.mem_append_right _ List.mem_cons_self

/-- What a search finds has been seen alive. -/
theorem alive_of_seek (found : (p.seek look limits late).found = .ok (some id)) :
    ∃ m, (look m id).dead = false := by
  have seeks := seeks_seek p look limits late
  generalize p.seek look limits late = s at found seeks
  cases seeks with
  | lateSweep | lateChoice | full | room => cases found
  | found chosen =>
    cases found
    exact alive_of_choose chosen

/-- What a search closes has been a session of the pool, and is none any more. -/
theorem closed_of_seek (nodup : p.members.Nodup) (closed : id ∈ (p.seek look limits late).closed) :
    id ∈ p.members ∧ id ∉ (p.seek look limits late).pool.members := by
  obtain ⟨gone, perm, -⟩ := sweep_members look late 0 p.available [] p.leased
  have taken : p.members.Perm (((p.chosen look limits late).members ++
      (p.choice look limits late).found.toList) ++
        ((p.choice look limits late).closed ++ gone)) := by
    rw [← List.append_assoc]
    have taken := members_of_available_eq (p.available_swept look limits late)
    exact perm.trans (.append_right gone taken)
  obtain ⟨-, -, apart⟩ := List.nodup_append.mp (taken.nodup_iff.mp nodup)
  have away (there : id ∈ (p.choice look limits late).closed) : id ∈ p.members ∧
      id ∉ (p.chosen look limits late).members ++ (p.choice look limits late).found.toList := by
    have there := List.mem_append_left gone there
    exact ⟨taken.mem_iff.mpr (List.mem_append_right _ there), fun h => apart id h id there rfl⟩
  have seeks := seeks_seek p look limits late
  generalize p.seek look limits late = s at closed seeks ⊢
  cases seeks with
  | lateSweep => cases closed
  | lateChoice | full | room =>
    exact (away closed).imp_right fun h h' => h (List.mem_append_left _ h')
  | found found =>
    rw [found] at away
    exact (away closed).imp_right fun h h' => h (members_lend .. ▸ h')

/-- A search fails if it is late, or if there is no room for one more session. -/
theorem fault_of_seek (found : (p.seek look limits late).found = .error fault) :
    fault = .noFreeSession ∨ fault = .timeout ∧ ∃ m, late m = true := by
  have seeks := seeks_seek p look limits late
  generalize p.seek look limits late = s at found seeks
  cases seeks with
  | lateSweep inTime =>
    cases found
    exact .inr ⟨rfl, late_of_sweep inTime⟩
  | lateChoice inTime =>
    cases found
    exact .inr ⟨rfl, late_of_choose inTime⟩
  | full =>
    cases found
    exact .inl rfl
  | found | room => cases found

end Icap.Pool
