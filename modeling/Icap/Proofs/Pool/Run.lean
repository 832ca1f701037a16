import Icap.Pool.Desk
import Icap.Proofs.Pool.Members
import Mathlib.Data.List.Nodup
import Mathlib.Data.List.Perm.Subperm

/-!
# Runs of a pool

Calls come and go at the desk of a pool in any order, sessions are opened or fail to open, and all
the while sessions may become idle, busy or dead. The pool keeps count of its sessions throughout.

* `Run` — the runs of a pool, with the sessions that have been opened for it and the dead ones.
* `members_of_step?` — what becomes of the sessions at one event.
* `accounts_of_run` — what holds at every point of a run.
* `count_eq_one_of_run` — each living session is there exactly once, and they are not too many.
-/

namespace Icap.Desk

open Pool (members_lend giveBack_members)

/-- The session that an event brings. -/
def Event.opened? : Event → Option Nat
  | .opened session => some session
  | _ => none

/-- The runs of a pool. Its sessions are opened with numbers that have not been there, die whenever
they like, for good, and are dead once they have been closed. -/
inductive Run (limits : PoolLimits) : List Nat → (Nat → Bool) → Desk → Prop
  | start (dead : Nat → Bool) : Run limits [] dead {}
  | step {opened dead dead' d d' look e notices} (run : Run limits opened dead d)
      (h : d.step? look limits e = some (d', notices))
      (fresh : ∀ id, e.opened? = some id → id ∉ opened)
      (stays : ∀ id, dead id = true → dead' id = true)
      (seen : ∀ n id, (look n id).dead = true → dead' id = true)
      (closed : ∀ id, .close id ∈ notices → dead' id = true) :
      Run limits (e.opened?.toList ++ opened) dead' d'

variable {d d' : Desk} {look : Looks} {limits : PoolLimits} {e : Event} {notices : List Notice}

/-! ## One event -/

/-- Whether a session is being opened. -/
def IsOpening (d : Desk) : Prop := ∃ call, d.served = some (call, .opening)

/-- What an event may do to the sessions of a pool. -/
structure Books (look : Looks) (limits : PoolLimits) (brought : List Nat) (d d' : Desk)
    (notices : List Notice) : Prop where
  /-- One may be brought, and those that are gone are dead or are closed. -/
  members : ∃ gone, (brought ++ d.pool.members).Perm (d'.pool.members ++ gone) ∧
    ∀ id ∈ gone, (∃ n, (look n id).dead = true) ∨ .close id ∈ notices
  /-- One is brought while it is being opened. -/
  opening : brought ≠ [] → IsOpening d ∧ ¬IsOpening d'
  /-- One is opened only if there is room for it. -/
  room : IsOpening d' → 0 < limits.sessions →
    (IsOpening d ∧ d'.pool = d.pool) ∨ d'.pool.size < limits.sessions

/-- An event that leaves the pool alone. -/
theorem Books.of_pool_eq (pool : d'.pool = d.pool)
    (served : d'.served = d.served ∨ d'.served = none) :
    Books look limits [] d d' notices where
  members := ⟨[], by rw [pool]; simp, by simp⟩
  opening := fun h => absurd rfl h
  room := by
    rintro ⟨call, opening⟩ -
    rcases served with served | served
    · exact .inl ⟨⟨call, served ▸ opening⟩, pool⟩
    · rw [served] at opening
      cases opening

theorem books_of_serve (late : Nat → Bool) (call : Call) (line : List Call)
    (free : d.served = none) :
    Books look limits [] d (serve { d with line } look limits late call).1
      (serve { d with line } look limits late call).2 := by
  obtain ⟨gone, perm, seen⟩ := d.pool.seek_members look limits late
  -- those that the search found unfit are closed, whatever else is told
  have closing : ∀ id ∈ gone, ∀ others, (∃ n, (look n id).dead = true) ∨
      .close id ∈ (d.pool.seek look limits late).closed.map Notice.close ++ others := by
    intro id hid others
    exact (seen id hid).imp_right fun hc => List.mem_append_left _ (List.mem_map_of_mem hc)
  simp only [serve]
  split
  next fault found =>
    refine ⟨⟨gone, perm, fun id hid => closing id hid _⟩, fun h => absurd rfl h, ?_⟩
    rintro ⟨call, opening⟩
    cases free.symm.trans opening
  next id found =>
    refine ⟨⟨gone, perm, fun id hid => closing id hid _⟩, fun h => absurd rfl h, ?_⟩
    rintro ⟨call', opening⟩
    simp only [hand] at opening
    split at opening <;> cases opening
  next found =>
    refine ⟨⟨gone, perm, fun id hid => closing id hid _⟩, fun h => absurd rfl h, ?_⟩
    exact fun _ limited => .inr (Pool.seek_size_lt found limited)

/-- **What an event does to the sessions of a pool.** -/
theorem books_of_step? (h : d.step? look limits e = some (d', notices)) :
    Books look limits e.opened?.toList d d' notices := by
  cases e with
  | arrive call =>
    simp only [step?] at h
    split at h <;> cases h
    exact .of_pool_eq rfl (.inl rfl)
  | serve late =>
    simp only [step?] at h
    split at h
    next call line free _ =>
      have books : Books look limits [] d _ _ := books_of_serve late call line free
      rwa [Option.some.inj h] at books
    · cases h
  | opened session =>
    simp only [step?] at h
    split at h <;> cases h
    next call served =>
      refine ⟨⟨[], ?_, by simp⟩, fun _ => ⟨⟨call, served⟩, ?_⟩, ?_⟩
      · rw [List.append_nil]
        exact (members_lend .. ▸ List.perm_append_comm)
      all_goals
        rintro ⟨call', opening⟩
        dsimp only at opening
        split at opening <;> cases opening
  | notOpened fault =>
    simp only [step?] at h
    split at h <;> cases h
    exact .of_pool_eq rfl (.inr rfl)
  | used =>
    simp only [step?] at h
    split at h <;> cases h
    refine ⟨⟨[], ?_, by simp⟩, fun h => absurd rfl h, ?_⟩
    · rw [List.append_nil]
      dsimp only
      split
      · exact (giveBack_members ..).symm
      · exact .refl _
    · rintro ⟨call, ⟨⟩⟩
  | expire number =>
    simp only [step?] at h
    split at h <;> cases h
    exact .of_pool_eq rfl (.inl rfl)
  | leave number =>
    simp only [step?] at h
    split at h
    · split at h <;> cases h
      · exact .of_pool_eq rfl (.inr rfl)
      · exact .of_pool_eq rfl (.inl rfl)
    · cases h
      exact .of_pool_eq rfl (.inl rfl)

/-- A pool keeps to its limit, and there is room in it for the session that is being opened. -/
def Fits (limits : PoolLimits) (d : Desk) : Prop :=
  0 < limits.sessions →
    d.pool.size ≤ limits.sessions ∧ (IsOpening d → d.pool.size < limits.sessions)

/-- **A pool goes on to keep to its limit.** -/
theorem Books.fits {brought : List Nat} (books : Books look limits brought d d' notices)
    (one : brought.length ≤ 1) (fits : Fits limits d) : Fits limits d' := by
  intro limited
  obtain ⟨gone, perm, -⟩ := books.members
  have size : d'.pool.size ≤ brought.length + d.pool.size := by
    have := perm.length_eq
    simp only [Pool.size_eq, List.length_append] at this ⊢
    omega
  refine ⟨?_, fun opening => ?_⟩
  · -- if one is brought, it was being opened, and for that there was room
    rcases brought with _ | ⟨id, more⟩
    · have := (fits limited).1
      simp at size
      omega
    · have := (fits limited).2 (books.opening (List.cons_ne_nil id more)).1
      omega
  · rcases books.room opening limited with ⟨opening', same⟩ | room
    · rw [same]
      exact (fits limited).2 opening'
    · exact room

/-! ## Runs -/

/-- What holds at every point of a run. -/
structure Accounts (limits : PoolLimits) (opened : List Nat) (dead : Nat → Bool) (d : Desk) :
    Prop where
  nodup : opened.Nodup
  members_nodup : d.pool.members.Nodup
  opened_of_member : ∀ id ∈ d.pool.members, id ∈ opened
  member_of_alive : ∀ id ∈ opened, dead id = false → id ∈ d.pool.members
  size_le : 0 < limits.sessions → d.pool.size ≤ limits.sessions
  room : IsOpening d → 0 < limits.sessions → d.pool.size < limits.sessions

/-- An event keeps the accounts in order, if it brings what has not been there. -/
theorem Accounts.step {opened brought : List Nat} {dead dead' : Nat → Bool}
    (h : Accounts limits opened dead d) (books : Books look limits brought d d' notices)
    (one : brought.length ≤ 1) (fresh : ∀ id ∈ brought, id ∉ opened)
    (stays : ∀ id, dead id = true → dead' id = true)
    (seen : ∀ n id, (look n id).dead = true → dead' id = true)
    (closed : ∀ id, .close id ∈ notices → dead' id = true) :
    Accounts limits (brought ++ opened) dead' d' := by
  obtain ⟨gone, perm, left⟩ := books.members
  have brought_nodup : brought.Nodup := by
    rcases brought with _ | ⟨id, _ | _⟩
    · exact List.nodup_nil
    · exact List.nodup_singleton id
    · simp at one
  -- what is brought has never been there, so it is none of the members
  have all_nodup : (brought ++ d.pool.members).Nodup :=
    List.nodup_append.mpr ⟨brought_nodup, h.members_nodup, fun id hid id' hid' heq =>
      fresh id hid (heq ▸ h.opened_of_member id' hid')⟩
  have fits := books.fits one fun limited =>
    ⟨h.size_le limited, fun opening => h.room opening limited⟩
  constructor
  case nodup =>
    exact List.nodup_append.mpr ⟨brought_nodup, h.nodup, fun id hid id' hid' heq =>
      fresh id hid (heq ▸ hid')⟩
  case members_nodup =>
    exact (List.nodup_append.mp (perm.nodup_iff.mp all_nodup)).1
  case opened_of_member =>
    intro id hid
    rcases List.mem_append.mp (perm.mem_iff.mpr (List.mem_append_left gone hid)) with hid | hid
    · exact List.mem_append_left _ hid
    · exact List.mem_append_right _ (h.opened_of_member id hid)
  case member_of_alive =>
    intro id hid alive
    have was : id ∈ brought ++ d.pool.members := by
      rcases List.mem_append.mp hid with hid | hid
      · exact List.mem_append_left _ hid
      · refine List.mem_append_right _ (h.member_of_alive id hid ?_)
        exact Bool.eq_false_iff.mpr fun hd => Bool.eq_false_iff.mp alive (stays id hd)
    rcases List.mem_append.mp (perm.mem_iff.mp was) with hid | hid
    · exact hid
    · rcases left id hid with ⟨n, hn⟩ | hc
      · exact absurd (seen n id hn) (by simp [alive])
      · exact absurd (closed id hc) (by simp [alive])
  case size_le => exact fun limited => (fits limited).1
  case room => exact fun opening limited => (fits limited).2 opening

/-- **The accounts are in order at every point of a run.** -/
theorem accounts_of_run {opened : List Nat} {dead : Nat → Bool} (run : Run limits opened dead d) :
    Accounts limits opened dead d := by
  induction run with
  | start =>
    refine ⟨List.nodup_nil, List.nodup_nil, by simp [Pool.members], by simp,
      fun _ => Nat.zero_le _, ?_⟩
    rintro ⟨call, ⟨⟩⟩
  | step run h fresh stays seen closed ih =>
    refine ih.step (books_of_step? h) ?_ ?_ stays seen closed
    · exact Option.length_toList_le
    · intro id hid
      exact fresh id (Option.mem_toList.mp hid)

/-- **Each living session of a pool is there exactly once**, available or leased, and the sessions
of a pool are never more than its limit; nor are the living ones. -/
theorem count_eq_one_of_run {opened : List Nat} {dead : Nat → Bool}
    (run : Run limits opened dead d) :
    (∀ id ∈ opened, dead id = false →
      d.pool.available.count id + (d.pool.leased.map Lease.session).count id = 1) ∧
      (0 < limits.sessions → d.pool.available.length + d.pool.leased.length ≤ limits.sessions ∧
        (opened.filter fun id => !dead id).length ≤ limits.sessions) := by
  have accounts := accounts_of_run run
  refine ⟨fun id hid alive => ?_, fun limited => ⟨accounts.size_le limited, ?_⟩⟩
  · rw [← List.count_append]
    exact List.count_eq_one_of_mem accounts.members_nodup (accounts.member_of_alive id hid alive)
  · have alive : (opened.filter fun id => !dead id) ⊆ d.pool.members := by
      intro id hid
      obtain ⟨hid, alive⟩ := List.mem_filter.mp hid
      exact accounts.member_of_alive id hid (by simpa using alive)
    calc (opened.filter fun id => !dead id).length
      _ ≤ d.pool.members.length := ((accounts.nodup.filter _).subperm alive).length_le
      _ ≤ limits.sessions := by
        rw [← Pool.size_eq]
        exact accounts.size_le limited

/-! ### Three sessions -/

/-- A pool of at most two sessions. -/
def two : PoolLimits := ⟨2, 10, 10⟩

/-- Sessions that live and are busy. -/
def busy : Looks := fun _ _ => ⟨false, false, 0, 0⟩

/-- Sessions of which 8 is dead, and 7 dies after the third look. -/
def dying : Looks := fun n id => ⟨id == 8 || (id == 7 && 3 ≤ n), false, 0, 0⟩

/-- A call that waits for as long as it takes. -/
def patient (number : Nat) : Call := ⟨number, false, none⟩

/-- An event at which no session dies. -/
theorem Run.step_busy {opened : List Nat} (run : Run limits opened (fun _ => false) d) (e : Event)
    (d' : Desk) (notices : List Notice) (h : d.step? busy limits e = some (d', notices))
    (fresh : ∀ id ∈ e.opened?, id ∉ opened) (closed : ∀ id, .close id ∉ notices) :
    Run limits (e.opened?.toList ++ opened) (fun _ => false) d' :=
  run.step h fresh (fun _ h => h) (fun _ _ h => h) fun id h => absurd h (closed id)

/-- A call for which a session is opened, because none is available. -/
theorem Run.open_busy {opened : List Nat} {leased : List Lease} (n id : Nat)
    (run : Run limits opened (fun _ => false) { pool := ⟨[], leased⟩ })
    (serve : step? { pool := ⟨[], leased⟩, line := [patient n] } busy limits
        (.serve fun _ => false) =
      some ({ pool := ⟨[], leased⟩, served := some (patient n, .opening) }, [.open n]))
    (fresh : id ∉ opened) :
    Run limits (id :: opened) (fun _ => false) { pool := ⟨[], leased ++ [⟨id, 0⟩]⟩ } := by
  have arrive := run.step_busy (.arrive (patient n))
    { pool := ⟨[], leased⟩, line := [patient n] } [] rfl (by simp [Event.opened?]) (by simp)
  have served := arrive.step_busy (.serve fun _ => false) _ _ serve (by simp [Event.opened?])
    (by simp)
  exact served.step_busy (.opened id) _ [.handed n id] rfl (by simpa [Event.opened?] using fresh)
    (by simp)

/-- Two sessions are opened. A third call finds one of them dead, and the other one dies just after
the call has looked at it; a third session is opened. -/
theorem run_two : Run two [9, 8, 7] (fun id => id == 7 || id == 8)
    { pool := ⟨[], [⟨7, 0⟩, ⟨9, 0⟩]⟩ } := by
  have opened : Run two [8, 7] (fun _ => false) { pool := ⟨[], [⟨7, 0⟩, ⟨8, 0⟩]⟩ } :=
    ((Run.start _).open_busy 1 7 (by decide +kernel) (by decide)).open_busy 2 8
      (by decide +kernel) (by decide)
  have arrive := opened.step_busy (.arrive (patient 3))
    { pool := ⟨[], [⟨7, 0⟩, ⟨8, 0⟩]⟩, line := [patient 3] } [] rfl (by simp [Event.opened?])
    (by simp)
  have dies : ∀ n id, (dying n id).dead = true → (id == 7 || id == 8) = true := by
    intro n id h
    simp only [dying, Bool.or_eq_true, Bool.and_eq_true] at h
    rcases h with h | h <;> simp [h]
  have serve : step? { pool := ⟨[], [⟨7, 0⟩, ⟨8, 0⟩]⟩, line := [patient 3] } dying two
      (.serve fun _ => false) =
        some ({ pool := ⟨[], [⟨7, 0⟩]⟩, served := some (patient 3, .opening) }, [.open 3]) := by
    decide +kernel
  have served : Run two [8, 7] (fun id => id == 7 || id == 8)
      { pool := ⟨[], [⟨7, 0⟩]⟩, served := some (patient 3, .opening) } :=
    arrive.step serve (by simp [Event.opened?]) (by simp) dies (by simp)
  have opens : step? { pool := ⟨[], [⟨7, 0⟩]⟩, served := some (patient 3, .opening) } dying two
      (.opened 9) = some ({ pool := ⟨[], [⟨7, 0⟩, ⟨9, 0⟩]⟩ }, [.handed 3 9]) := rfl
  exact served.step opens (by simp [Event.opened?]) (fun _ h => h) dies (by simp)

theorem count_eq_one_of_run_two :
    ∃ opened dead d, Run two opened dead d ∧
      (∀ id ∈ opened, dead id = false →
        d.pool.available.count id + (d.pool.leased.map Lease.session).count id = 1) ∧
      (0 < two.sessions → d.pool.available.length + d.pool.leased.length ≤ two.sessions ∧
        (opened.filter fun id => !dead id).length ≤ two.sessions) :=
  ⟨_, _, _, run_two, count_eq_one_of_run run_two⟩

end Icap.Desk
