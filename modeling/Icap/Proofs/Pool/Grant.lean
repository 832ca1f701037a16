import Icap.Proofs.Pool.Round
import Icap.Proofs.Pool.Service

/-!
# When a call is handed a session

A call that is served in time is handed the first available session that lives, is young enough and
has two commands or more left to the limit; the sessions in front of it are closed. Only if there is
no such session, and as many are in use as there may be, is the call refused.

* `handed_of_fitsAt` — a session that can be handed out is, and no new one is opened.
* `fits_of_course` — a pool keeps to its limit, whatever happens at its desk.
* `refused_iff_of_course` — the calls that are refused for want of a session.
-/

namespace Icap.Desk

open Pool (FitsAt exists_first_of_fitsAt findings seek_of_fitsAt seek_of_none)

variable {look : Looks} {limits : PoolLimits} {late : Nat → Bool} {d d' : Desk} {call : Call}
  {line : List Call} {i : Nat} {es : List Entry}

/-- A call in line can be served while nobody else is. -/
theorem step?_serve (free : d.served = none) (head : d.line = call :: line) (look : Looks)
    (limits : PoolLimits) (late : Nat → Bool) :
    d.step? look limits (.serve late) = some (serve { d with line } look limits late call) := by
  simp only [step?, free, head]

/-! ## Handing out -/

/-- A call that is served in time is handed the first session that it can. -/
theorem exists_step_of_first (free : d.served = none) (head : d.line = call :: line)
    (onTime : ∀ n, late n = false)
    (fits : FitsAt look limits (d.pool.tidyLooks look) (d.pool.tidied look).available i)
    (first : ∀ k < i,
      ¬FitsAt look limits (d.pool.tidyLooks look) (d.pool.tidied look).available k) :
    ∃ id d', (d.pool.tidied look).available[i]? = some id ∧
      d.step? look limits (.serve late) =
        some (d', ((d.pool.tidied look).available.take i).map .close ++
          [.handed call.number id]) ∧
      d'.pool.available = (d.pool.tidied look).available.drop (i + 1) ∧
      ∃ commands, d'.pool.leased = (d.pool.tidied look).leased ++ [⟨id, commands⟩] := by
  have ⟨id, there, _⟩ := fits
  refine ⟨id, (serve { d with line } look limits late call).1, there, ?_⟩
  rw [step?_serve free head]
  simp only [serve, hand, seek_of_fitsAt onTime fits first there, Pool.lend]
  exact ⟨trivial, trivial, _, rfl⟩

/-- **A session that can be handed out is handed out.** If there is one among those that are
available once the leased ones have been looked over, a call that is served in time gets the first
such session; no new one is opened, and exactly the sessions in front of it are closed. -/
theorem handed_of_fitsAt (free : d.served = none) (head : d.line = call :: line)
    (onTime : ∀ n, late n = false)
    (fits : FitsAt look limits (d.pool.tidyLooks look) (d.pool.tidied look).available i) :
    ∃ j ≤ i, ∃ id d',
      (FitsAt look limits (d.pool.tidyLooks look) (d.pool.tidied look).available j ∧
        ∀ k < j, ¬FitsAt look limits (d.pool.tidyLooks look) (d.pool.tidied look).available k) ∧
      (d.pool.tidied look).available[j]? = some id ∧
      d.step? look limits (.serve late) =
        some (d', ((d.pool.tidied look).available.take j).map .close ++
          [.handed call.number id]) ∧
      d'.pool.available = (d.pool.tidied look).available.drop (j + 1) ∧
      ∃ commands, d'.pool.leased = (d.pool.tidied look).leased ++ [⟨id, commands⟩] := by
  obtain ⟨j, le, fits, first⟩ := exists_first_of_fitsAt fits
  obtain ⟨id, d', there, step, left⟩ := exists_step_of_first free head onTime fits first
  exact ⟨j, le, id, d', ⟨fits, first⟩, there, step, left⟩

/-- A session that is dead, one that is fit for use, and one that has been released. -/
def mixed : Desk := { pool := ⟨[7, 8], [⟨9, 0⟩]⟩, line := [patient 1] }

/-- Idle sessions with one command, of which 7 is dead. -/
def firstDead : Looks := fun _ id => ⟨id == 7, id != 7, 1, 0⟩

theorem handed_of_fitsAt_mixed :
    FitsAt firstDead two (mixed.pool.tidyLooks firstDead)
      (mixed.pool.tidied firstDead).available 1 ∧
    ∃ j ≤ 1, ∃ id d',
      (FitsAt firstDead two (mixed.pool.tidyLooks firstDead)
          (mixed.pool.tidied firstDead).available j ∧
        ∀ k < j, ¬FitsAt firstDead two (mixed.pool.tidyLooks firstDead)
          (mixed.pool.tidied firstDead).available k) ∧
      (mixed.pool.tidied firstDead).available[j]? = some id ∧
      mixed.step? firstDead two (.serve fun _ => false) =
        some (d', ((mixed.pool.tidied firstDead).available.take j).map .close ++
          [.handed 1 id]) ∧
      d'.pool.available = (mixed.pool.tidied firstDead).available.drop (j + 1) ∧
      ∃ commands, d'.pool.leased = (mixed.pool.tidied firstDead).leased ++ [⟨id, commands⟩] := by
  have fits : FitsAt firstDead two (mixed.pool.tidyLooks firstDead)
      (mixed.pool.tidied firstDead).available 1 :=
    ⟨8, by decide +kernel, by decide +kernel⟩
  exact ⟨fits, handed_of_fitsAt rfl rfl (fun _ => rfl) fits⟩

/-- **A session with one command left to the limit is not handed out.** It is closed, and a new one
is opened. -/
theorem exists_closed_below_limit :
    ∃ es d, Course ⟨5, 10, 2⟩ {} es d ∧ (d.served = none ∧ d.line = [patient 2]) ∧
      (d.pool.tidied (still true 1)).available = [7] ∧
      (∀ n, (still true 1 n 7).dead = false ∧ (still true 1 n 7).age < 10 ∧
        (still true 1 n 7).commands < 2) ∧
      ∃ d', d.step? (still true 1) ⟨5, 10, 2⟩ (.serve fun _ => false) =
        some (d', [.close 7, .open 2]) := by
  obtain ⟨es, d, course, there⟩ := exists_course_of_play? ⟨5, 10, 2⟩
    [(still true 0, .arrive (patient 1)), (still true 0, .serve fun _ => false),
      (still true 0, .opened 7), (still true 1, .arrive (patient 2))]
    (· == { pool := ⟨[], [⟨7, 0⟩]⟩, line := [patient 2] }) (by decide +kernel)
  obtain rfl := eq_of_beq there
  refine ⟨es, _, course, ⟨rfl, rfl⟩, by decide +kernel,
    fun _ => ⟨rfl, Nat.succ_pos 9, Nat.one_lt_two⟩, ?_⟩
  exact ⟨{ served := some (patient 2, .opening) }, by decide +kernel⟩

/-! ## Refusing -/

/-- **A pool keeps to its limit**, whatever happens at its desk. -/
theorem fits_of_course {d₀ : Desk} (course : Course limits d₀ es d) (fits : Fits limits d₀) :
    Fits limits d := by
  induction course with
  | stop => exact fits
  | step h more ih => exact ih ((books_of_step? h).fits Option.length_toList_le fits)

/-- There is room at first. -/
theorem fits_start (limits : PoolLimits) : Fits limits {} := by
  refine fun _ => ⟨Nat.zero_le _, ?_⟩
  rintro ⟨call, ⟨⟩⟩

/-- No available session can be handed out, once the leased ones have been looked over. -/
def NoneFits (p : Pool) (look : Looks) (limits : PoolLimits) : Prop :=
  ∀ i, ¬FitsAt look limits (p.tidyLooks look) (p.tidied look).available i

/-- A call that is served in time is refused if no session can be handed out and those that stay
leased are as many as there may be. -/
theorem step?_of_full (free : d.served = none) (head : d.line = call :: line)
    (onTime : ∀ n, late n = false) (none : NoneFits d.pool look limits)
    (limited : 0 < limits.sessions) (full : limits.sessions ≤ (d.pool.tidied look).leased.length) :
    d.step? look limits (.serve late) =
      some ({ pool := ⟨[], (d.pool.tidied look).leased⟩, line },
        (d.pool.tidied look).available.map .close ++ [.refused call.number .noFreeSession]) := by
  rw [step?_serve free head]
  simp only [serve, seek_of_none onTime none, if_pos (And.intro limited full), free]

/-- A session is opened for a call that is served in time if none can be handed out and those that
stay leased are not as many as there may be. -/
theorem step?_of_room (free : d.served = none) (head : d.line = call :: line)
    (onTime : ∀ n, late n = false) (none : NoneFits d.pool look limits)
    (room : (d.pool.tidied look).leased.length < limits.sessions) :
    d.step? look limits (.serve late) =
      some ({ pool := ⟨[], (d.pool.tidied look).leased⟩, served := some (call, .opening), line },
        (d.pool.tidied look).available.map .close ++ [.open call.number]) := by
  have room : ¬(0 < limits.sessions ∧ limits.sessions ≤ (d.pool.tidied look).leased.length) :=
    fun h => absurd h.2 (Nat.not_le.mpr room)
  rw [step?_serve free head]
  simp only [serve, seek_of_none onTime none, if_neg room]

/-- **A call is refused for want of a session only if all sessions are in use.** In a pool with a
limit, whatever has happened at its desk, a call that is served in time is refused if and only if,
of the leased sessions, which it looks at one by one, as many as there may be are neither dead nor
released, and no available one can be handed out. Then no session is opened, none is available any
more, and those that are left have been found in use. Apart from this, a call is refused in this way
only if the opening of a session has failed in this way. -/
theorem refused_iff_of_course (course : Course limits {} es d) (limited : 0 < limits.sessions)
    (free : d.served = none) (head : d.line = call :: line) (onTime : ∀ n, late n = false)
    (look : Looks) :
    (∃ d' notices, d.step? look limits (.serve late) = some (d', notices) ∧
      ((findings look 0 d.pool.leased).map Prod.fst).Perm d.pool.leased ∧
      (.refused call.number .noFreeSession ∈ notices ↔
        (d.pool.tidied look).leased.length = limits.sessions ∧ NoneFits d.pool look limits) ∧
      (.refused call.number .noFreeSession ∈ notices →
        (∀ n, .open n ∉ notices) ∧ d'.served = none ∧ d'.pool.available = [] ∧
          d'.pool.leased = (d.pool.tidied look).leased ∧
          ∀ l ∈ d'.pool.leased, ∃ n, l.finding look n = .leased)) ∧
      ∀ e d' notices n, d.step? look limits e = some (d', notices) →
        .refused n .noFreeSession ∈ notices →
          (∃ late, e = .serve late) ∨ e = .notOpened .noFreeSession := by
  constructor
  · have examined := Pool.findings_perm look 0 d.pool.leased
    have few : (d.pool.tidied look).leased.length ≤ limits.sessions := by
      have := d.pool.length_leased_tidied_le look
      have size := ((fits_of_course course (fits_start limits)) limited).1
      rw [Pool.size] at size
      omega
    -- if one can be handed out, it is; if none can, it is up to how many stay leased
    by_cases none : NoneFits d.pool look limits
    · rcases Nat.lt_or_eq_of_le few with room | full
      · have step := step?_of_room free head onTime none room
        refine ⟨_, _, step, examined, ?_⟩
        simp [Nat.ne_of_lt room]
      · have step := step?_of_full free head onTime none limited (Nat.le_of_eq full.symm)
        refine ⟨_, _, step, examined, ?_⟩
        refine ⟨by simp [full, none], fun _ => ⟨by simp, rfl, rfl, rfl, ?_⟩⟩
        intro l hl
        exact Pool.exists_of_mem_findings (Pool.mem_found.mp hl)
    · obtain ⟨i, fits⟩ : ∃ i, FitsAt look limits (d.pool.tidyLooks look)
          (d.pool.tidied look).available i := by simpa [NoneFits] using none
      obtain ⟨j, -, fits, first⟩ := exists_first_of_fitsAt fits
      obtain ⟨id, d', -, step, -⟩ := exists_step_of_first free head onTime fits first
      have handed : .refused call.number .noFreeSession ∉
          ((d.pool.tidied look).available.take j).map Notice.close ++
            [.handed call.number id] := by
        simp only [List.mem_append, List.mem_map, not_or]
        exact ⟨by simp, by simp⟩
      exact ⟨d', _, step, examined, by simp only [handed, none, and_false],
        fun refused => absurd refused handed⟩
  · intro e d' notices n step refused
    rcases (step_of_step? step).refusal refused with event | _ | event | _
    · exact .inl ⟨_, event⟩
    · exact .inr event

/-- Two sessions that are busy, and a third call. -/
def crowded : Desk := { pool := ⟨[], [⟨7, 0⟩, ⟨8, 0⟩]⟩, line := [patient 3] }

theorem refused_iff_of_course_crowded :
    ∃ es, Course two {} es crowded ∧
      (∃ d' notices, crowded.step? busy two (.serve fun _ => false) = some (d', notices) ∧
        ((findings busy 0 crowded.pool.leased).map Prod.fst).Perm crowded.pool.leased ∧
        (.refused 3 .noFreeSession ∈ notices ↔
          (crowded.pool.tidied busy).leased.length = two.sessions ∧
            NoneFits crowded.pool busy two) ∧
        (.refused 3 .noFreeSession ∈ notices →
          (∀ n, .open n ∉ notices) ∧ d'.served = none ∧ d'.pool.available = [] ∧
            d'.pool.leased = (crowded.pool.tidied busy).leased ∧
            ∀ l ∈ d'.pool.leased, ∃ n, l.finding busy n = .leased)) ∧
        ∀ e d' notices n, crowded.step? busy two e = some (d', notices) →
          .refused n .noFreeSession ∈ notices →
            (∃ late, e = .serve late) ∨ e = .notOpened .noFreeSession := by
  obtain ⟨es, d, course, there⟩ := exists_course_of_play? two
    [(busy, .arrive (patient 1)), (busy, .serve fun _ => false), (busy, .opened 7),
      (busy, .arrive (patient 2)), (busy, .serve fun _ => false), (busy, .opened 8),
      (busy, .arrive (patient 3))]
    (· == crowded) (by decide +kernel)
  obtain rfl := eq_of_beq there
  exact ⟨es, course, refused_iff_of_course course Nat.two_pos rfl rfl (fun _ => rfl) busy⟩

end Icap.Desk
