import Icap.Proofs.Response.Head
import Icap.Proofs.Session.Isolation
import Icap.Proofs.Session.Provenance
import Icap.Proofs.Session.Settlement

/-!
# The end of the first response

The response to an OPTIONS request counts as complete without the end of its body, and the session
goes on to write the RESPMOD request. It does not remember that it is owed the end of the body, as
it does after the second response. If the end has been read by then, the scan comes to what the
second response says, however that is cut. If any of it comes later, it is taken for the beginning
of the second response, and the scan fails, whatever the server has found.

* `Asking` — a session that writes a request.
* `Waiting`, `Told`, `BrokenOff` — a scan whose second response is being read, and one that is over.
* `outcome_of_tail` — what a scan comes to, with and without a rest of the first response.
* `Opening` — a scan whose first response is being read.
* `exists_tail` — what may be left of the first response when the RESPMOD request is written.
* `outcome_of_cut` — what a scan comes to, by where the first response is cut.
* `exists_cut_twice` — the same bytes cut in two ways, with two outcomes.
-/

namespace Icap.Session

open Response (fresh feedAll IsWhole)
open Terminator (rest)

variable {settings : Settings} {s₀ s s' : Session} {es part : List Entry} {now : Instant}
  {e : Event} {fx : List Effect} {r : ScanRequest} {half : Half}

/-! ## Writing a request -/

/-- A session that writes the request of a half of a scan. -/
structure Asking (half : Half) (r : ScanRequest) (s : Session) : Prop where
  state : s.state = half.state
  pending : s.pending = some r
  writes : ∃ left patience, s.activity = .writing left patience

/-- Nothing has been read of the response to a request that is being written. -/
theorem Asking.begins (asking : Asking half r s) (phase : Phase settings s₀ es s) :
    s.queue = [] ∧ s.response = fresh s₀.response.limit ∧ (half = .respmod → s.owed = 0) := by
  obtain ⟨state, pending, left, patience, activity⟩ := asking
  cases phase with
  | gone ended => rcases ended with ended | ended <;> cases half <;> simp_all [Half.state]
  | idle _ activity' => simp [activity] at activity'
  | claimed _ activity' => simp [activity] at activity'
  | reading _ _ activity' => simp [activity] at activity'
  | writing half' state' _ _ queue response owed =>
    obtain rfl : half = half' := by cases half <;> cases half' <;> simp_all [Half.state]
    exact ⟨queue, response, owed⟩

/-! ## Reading the second response -/

/-- A session that waits for the response to the RESPMOD request of a scan, all of whose reads since
have gone to that response. -/
structure Waiting (settings : Settings) (limit : Nat) (r : ScanRequest) (part : List Entry)
    (s : Session) : Prop where
  state : s.state = .awaitingScan
  pending : s.pending = some r
  queue : s.queue = []
  owed : s.owed = 0
  response : s.response = feedAll settings.vendor (fresh limit) (reads part)
  notDone : s.response.isDone = false

/-- A scan has been told what a response comes to that is fed with the first of the reads. -/
def Told (settings : Settings) (limit : Nat) (n : Nat) (part : List Entry) : Prop :=
  ∃ ps, ps <+: reads part ∧ (feedAll settings.vendor (fresh limit) ps).isDone = true ∧
    .answered n (feedAll settings.vendor (fresh limit) ps).takeOutcome.1 ∈ effects part

/-- A scan has been broken off before its second response was complete. -/
structure BrokenOff (settings : Settings) (limit : Nat) (n : Nat) (part : List Entry)
    (s : Session) : Prop where
  ended : s.activity = .ended
  notDone : (feedAll settings.vendor (fresh limit) (reads part)).isDone = false
  dropped : .dropped n ∈ effects part

variable {limit : Nat}

theorem Told.append {n : Nat} (h : Told settings limit n part) (es : List Entry) :
    Told settings limit n (part ++ es) := by
  obtain ⟨ps, hps, done, told⟩ := h
  refine ⟨ps, ?_, done, ?_⟩
  · rw [reads_append]
    exact hps.trans (List.prefix_append _ _)
  · rw [effects_append]
    exact List.mem_append_left _ told

/-- A session that writes a RESPMOD request is about to wait for the response. -/
theorem Asking.waiting (asking : Asking .respmod r s) (phase : Phase settings s₀ es s) :
    Waiting settings s₀.response.limit r [] s := by
  obtain ⟨queue, response, owed⟩ := asking.begins phase
  refine ⟨asking.state, asking.pending, queue, owed rfl, response, ?_⟩
  rw [response]
  rfl

/-- The response of a session that reads on. -/
theorem Waiting.response_gathered (h : Waiting settings limit r part s) {bytes : Bytes} :
    (s.gathered settings bytes).response =
      feedAll settings.vendor (fresh limit) (reads (part ++ [⟨now, .read bytes, fx⟩])) := by
  rw [reads_append, feedAll, List.foldl_append]
  simp only [gathered, h.owed, Terminator.skip_zero, h.response]
  rfl

theorem Waiting.rule (h : Waiting settings limit r part s) (rule : Rule settings now s e s' fx)
    (orderly : e.IsOrderly) :
    Waiting settings limit r (part ++ [⟨now, e, fx⟩]) s' ∨
      Told settings limit r.number (part ++ [⟨now, e, fx⟩]) := by
  have ⟨state, pending, queue, owed, response, notDone⟩ := h
  cases rule
  case refuse | accept | flush =>
    refine .inl ⟨state, pending, queue, owed, ?_, notDone⟩
    rw [reads_concat rfl]
    exact response
  case skip bytes _ _ bytes_ne _ left =>
    rw [owed, Terminator.skip_zero] at left
    exact absurd left bytes_ne
  case gather bytes _ _ _ _ _ isDone =>
    refine .inl ⟨state, pending, queue, ?_, h.response_gathered, isDone⟩
    simp [listening, gathered, owed]
  case answer bytes r' verdict _ _ pending' _ isDone _ outcome _ _ =>
    obtain rfl : r = r' := by simpa [pending] using pending'
    refine .inr ⟨_, List.prefix_refl _, ?_, ?_⟩
    · rw [← h.response_gathered]
      exact isDone
    · rw [← h.response_gathered, outcome]
      simp
  case answerLast bytes r' _ _ pending' _ isDone _ _ =>
    refine .inr ⟨_, List.prefix_refl _, ?_, ?_⟩
    · rw [← h.response_gathered]
      exact isDone
    · rw [← h.response_gathered]
      simp [answered, gathered, pending]
  case hangUp event => rcases event with rfl | rfl <;> cases orderly
  all_goals first | exact False.elim orderly | simp_all

theorem Waiting.step (h : Waiting settings limit r part s) (step : Step settings now s e s' fx)
    (orderly : e.IsOrderly) :
    Waiting settings limit r (part ++ [⟨now, e, fx⟩]) s' ∨
      Told settings limit r.number (part ++ [⟨now, e, fx⟩]) ∨
      BrokenOff settings limit r.number (part ++ [⟨now, e, fx⟩]) s' := by
  cases step with
  | whole rule => exact (h.rule rule orderly).imp_right .inl
  | @breakOff t told rule =>
    have same : reads (part ++ [⟨now, e, told ++ t.finish.2⟩]) =
        reads (part ++ [⟨now, e, told⟩]) := by
      rw [reads_append, reads_append]
      rfl
    rcases h.rule rule orderly with waiting | ⟨ps, hps, done, answered⟩
    · refine .inr (.inr ⟨rfl, ?_, by simp [dropPending, waiting.pending]⟩)
      rw [same, ← waiting.response]
      exact waiting.notDone
    · refine .inr (.inl ⟨ps, same ▸ hps, done, ?_⟩)
      simp only [effects_append, effects_singleton, List.mem_append] at answered ⊢
      exact answered.imp_right .inl

/-- After that nothing is read any more. -/
theorem BrokenOff.step {n : Nat} (h : BrokenOff settings limit n part s)
    (step : Step settings now s e s' fx) :
    BrokenOff settings limit n (part ++ [⟨now, e, fx⟩]) s' := by
  obtain ⟨ended, unread⟩ := ended_of_step step h.ended
  refine ⟨ended, ?_, ?_⟩
  · rw [reads_concat unread]
    exact h.notDone
  · rw [effects_append]
    exact List.mem_append_left _ h.dropped

/-- A scan waits for its second response, has been told what the reads come to, or has been broken
off. -/
theorem told_of_run (start : Waiting settings limit r [] s) (run : Run settings s part s')
    (orderly : ∀ x ∈ part, x.event.IsOrderly) :
    Waiting settings limit r part s' ∨ Told settings limit r.number part ∨
      BrokenOff settings limit r.number part s' := by
  induction run with
  | start => exact .inl start
  | step run h ih =>
    rw [List.forall_mem_append] at orderly
    have last := orderly.2 _ List.mem_cons_self
    rcases ih orderly.1 with waiting | told | broken
    · exact waiting.step (step_of_step? h) last
    · exact .inr (.inl (told.append _))
    · exact .inr (.inr (broken.step (step_of_step? h)))

/-! ## With and without a rest -/

variable {v : Vendor} {ps : List Bytes} {tail bytes : Bytes}

/-- Pieces of a response that is done come to the outcome of the response. -/
theorem takeOutcome_of_pieces (hps : ps.flatten <+: bytes)
    (fits : ∀ p, p <+: bytes → ((fresh limit).feed v p).1.hitLimit = false)
    (done : (feedAll v (fresh limit) ps).isDone = true) :
    (feedAll v (fresh limit) ps).takeOutcome.1 = ((fresh limit).feed v bytes).1.takeOutcome.1 := by
  rw [Response.feedAll_of_fits fun p hp => fits p (hp.trans hps)] at done ⊢
  exact (Response.takeOutcome_of_prefix hps done (fits _ hps)).2.symm

/-- The bytes of the terminator are small, and none of them begins a status line. -/
theorem exists_first_of_tail (suffix : tail <:+ Terminator.bytes) (hne : tail ≠ [])
    (bytes : Bytes) :
    ∃ b more, tail ++ bytes = b :: more ∧ b.toNat < 0x80 ∧ b ≠ Response.firstByte := by
  cases tail with
  | nil => exact absurd rfl hne
  | cons b tail =>
    have small : ∀ b ∈ Terminator.bytes, b.toNat < 0x80 ∧ b ≠ Response.firstByte := by
      simp [Terminator.bytes, Response.firstByte]
    exact ⟨b, _, rfl, small b (suffix.mem List.mem_cons_self)⟩

/-- Pieces that begin with a rest of the terminator come to no verdict. -/
theorem exists_fault_of_pieces (suffix : tail <:+ Terminator.bytes) (hne : tail ≠ [])
    (hps : ps.flatten <+: tail ++ bytes) (done : (feedAll v (fresh limit) ps).isDone = true) :
    ∃ fault, (feedAll v (fresh limit) ps).takeOutcome.1 = .error fault := by
  cases hcause : (feedAll v (fresh limit) ps).cause with
  | some fault => exact ⟨fault, by simp [Response.takeOutcome, hcause]⟩
  | none =>
    have whole : feedAll v (fresh limit) ps = ((fresh limit).feed v ps.flatten).1 :=
      Response.feedAll_fresh (by simp [Response.hitLimit, hcause])
    obtain ⟨b, more, hmore, small, other⟩ := exists_first_of_tail suffix hne bytes
    rw [whole] at done hcause
    cases hflat : ps.flatten with
    | nil =>
      rw [hflat, Response.feed_fresh_nil] at done
      cases done
    | cons b' p =>
      rw [hflat, hmore] at hps
      obtain ⟨rfl, -⟩ := List.cons_prefix_cons.mp hps
      rw [hflat] at done hcause
      exact absurd hcause ((Response.failed_of_ne_firstByte small other).1 done)

/-- Pieces that make up a rest of the terminator and a whole response are done. -/
theorem isDone_of_pieces (suffix : tail <:+ Terminator.bytes) (hne : tail ≠ [])
    (hps : ps.flatten = tail ++ bytes) (done : ((fresh limit).feed v bytes).1.isDone = true)
    (fits : ((fresh limit).feed v bytes).1.hitLimit = false) :
    (feedAll v (fresh limit) ps).isDone = true := by
  cases hit : (feedAll v (fresh limit) ps).hitLimit with
  | true =>
    have settled : Response.Settled (feedAll v (fresh limit) ps) :=
      (Response.settled_fresh limit).feedAll ps
    exact Response.isDone_iff.mpr ⟨0, settled.stage_of_hitLimit hit⟩
  | false =>
    obtain ⟨b, more, hmore, small, other⟩ := exists_first_of_tail suffix hne bytes
    obtain ⟨p, hp, blank⟩ := Response.exists_blankLine_of_feed done fits
    rw [Response.feedAll_fresh hit, hps, hmore]
    refine (Response.failed_of_ne_firstByte small other).2 (tail ++ p) ?_ ?_
    · rw [← hmore]
      exact (List.prefix_append_right_inj tail).mpr hp
    · exact blank.trans (List.suffix_append tail p)

variable {number : Nat} {route : Route} {reuse : Bool} {t : Instant} {s₁ : Session}

/-- What a scan comes to after its RESPMOD request, if the server sends no more than what is left of
the first response and then a second one, no part of which passes the limit. -/
theorem outcome_of_tail (run : Run settings (start settings number route reuse t) es s₁)
    (asking : Asking .respmod r s₁) (later : Run settings s₁ part s)
    (orderly : ∀ x ∈ part, x.event.IsOrderly) (suffix : tail <:+ Terminator.bytes)
    (served : (reads part).flatten <+: tail ++ bytes)
    (fits : ∀ p, p <+: bytes →
      ((fresh settings.maxHeader).feed settings.vendor p).1.hitLimit = false) :
    let alone := ((fresh settings.maxHeader).feed settings.vendor bytes).1
    (∀ outcome, .answered r.number outcome ∈ effects part →
      (tail = [] → outcome = alone.takeOutcome.1) ∧
        (tail ≠ [] → ∃ fault, outcome = .error fault)) ∧
      ((reads part).flatten = tail ++ bytes → alone.isDone = true →
        ∃ outcome, .answered r.number outcome ∈ effects part) := by
  intro alone
  have whole := run.append later
  have ledger := ledger_of_run whole
  have start : Waiting settings settings.maxHeader r [] s₁ := asking.waiting (phase_of_run run)
  have told := told_of_run start later orderly
  constructor
  · intro outcome answered
    have settled : r.number ∈ settled (effects (es ++ part)) := by
      rw [effects_append, settled_append]
      exact List.mem_append_right _ (List.mem_filterMap.mpr ⟨_, answered, rfl⟩)
    have one {x : Effect} (hx : x ∈ effects part) (settles : x.settled? = some r.number) :
        .answered r.number outcome = x :=
      eq_of_settled? (List.nodup_append.mp ledger.nodup_settled).1
        (effects_append es part ▸ List.mem_append_right _ answered)
        (effects_append es part ▸ List.mem_append_right _ hx) rfl settles
    rcases told with waiting | ⟨ps, hps, done, told⟩ | broken
    · exact absurd settled (ledger.not_mem_settled waiting.pending)
    · obtain ⟨-, rfl⟩ := Effect.answered.inj (one told rfl)
      have first : ps.flatten <+: tail ++ bytes := by
        obtain ⟨more, hmore⟩ := hps
        rw [← hmore, List.flatten_append] at served
        exact (List.prefix_append _ _).trans served
      constructor
      · rintro rfl
        exact takeOutcome_of_pieces first fits done
      · exact fun hne => exists_fault_of_pieces suffix hne first done
    · cases one broken.dropped rfl
  · intro arrived done
    -- what has arrived is a response that is done
    have done :
        (feedAll settings.vendor (fresh settings.maxHeader) (reads part)).isDone = true := by
      by_cases hne : tail = []
      · subst hne
        rw [Response.feedAll_of_fits fun p hp => fits p (hp.trans served), arrived]
        exact done
      · exact isDone_of_pieces suffix hne arrived done (fits _ (List.prefix_refl _))
    rcases told with waiting | ⟨ps, hps, -, told⟩ | broken
    · have notDone := waiting.notDone
      rw [waiting.response, done] at notDone
      cases notDone
    · exact ⟨_, told⟩
    · cases done.symm.trans broken.notDone

/-! ## Reading the first response -/

/-- A session that waits for the response to the OPTIONS request of a scan, of which only a part has
arrived, behind what was owed before. -/
structure Opening (settings : Settings) (w : Layout) (before : Bytes) (r : ScanRequest)
    (part : List Entry) (s : Session) : Prop where
  state : s.state = .awaitingOptions
  pending : s.pending = some r
  queue : s.queue = []
  arrived : ∃ p, (reads part).flatten ++ rest s.owed = before ++ p ∧ p <+: w.core ∧ p ≠ w.core ∧
    s.response = ((fresh settings.maxHeader).feed settings.vendor p).1

variable {w : Layout} {before : Bytes}

theorem Asking.opening (asking : Asking .options r s) (phase : Phase settings s₀ es s)
    (limit : s₀.response.limit = settings.maxHeader) (core_ne : w.core ≠ []) :
    Opening settings w (rest s.owed) r [] s := by
  obtain ⟨queue, response, -⟩ := asking.begins phase
  refine ⟨asking.state, asking.pending, queue, [], by simp [reads], List.nil_prefix,
    core_ne.symm, ?_⟩
  rw [Response.feed_fresh_nil, response, limit]

theorem Opening.rule (h : Opening settings w before r part s)
    (sound : w.IsSound settings.vendor settings.maxHeader) (rule : Rule settings now s e s' fx)
    (orderly : e.IsOrderly)
    (served : (reads (part ++ [⟨now, e, fx⟩])).flatten <+: before ++ w.bytes) :
    Opening settings w before r (part ++ [⟨now, e, fx⟩]) s' ∨
      before ++ w.core <+: (reads (part ++ [⟨now, e, fx⟩])).flatten := by
  obtain ⟨state, pending, queue, p, bytes_eq, p_within, p_ne, response⟩ := h
  obtain ⟨verdict, -, whole⟩ := sound.isWhole
  have arrives : ∀ bytes, e = .read bytes →
      Arrives settings w.core w.ending verdict s before (reads part).flatten p bytes := by
    rintro bytes rfl
    rw [flatten_reads_concat rfl] at served
    exact arrives_of_read whole bytes_eq p_within p_ne response served
  cases rule
  case refuse | accept | flush =>
    refine .inl ⟨state, pending, queue, p, ?_, p_within, p_ne, response⟩
    rw [reads_concat rfl]
    exact bytes_eq
  case skip bytes _ _ _ _ left =>
    cases arrives bytes rfl with
    | goesOn ne => exact absurd left ne
    | concludes ne => exact absurd left ne
    | skipped _ bytes_eq =>
      refine .inl ⟨state, pending, queue, p, ?_, p_within, p_ne, response⟩
      rw [flatten_reads_concat rfl]
      exact bytes_eq
  case gather bytes _ _ _ _ left isDone =>
    cases arrives bytes rfl with
    | skipped eq => exact absurd eq left
    | concludes _ h =>
      rw [h.isDone] at isDone
      cases isDone
    | goesOn _ owed bytes_eq next_within next_ne response =>
      refine .inl ⟨state, pending, queue, _, ?_, next_within, next_ne, response⟩
      rw [flatten_reads_concat rfl, bytes_eq]
      simp [listening, gathered, owed]
  case refuseOptions bytes _ _ _ _ _ left isDone _ outcome =>
    rw [((arrives bytes rfl).concluded left isDone).outcome] at outcome
    cases outcome
  case ask bytes _ _ _ _ _ left isDone _ _ =>
    refine .inr ?_
    rw [flatten_reads_concat rfl]
    exact ((arrives bytes rfl).concluded left isDone).due
  case hangUp event => rcases event with rfl | rfl <;> cases orderly
  all_goals first | exact False.elim orderly | simp_all

/-- The first response is being read, or all of it has arrived but for the end of its body, unless
the task has ended. -/
theorem opening_of_run (start : Opening settings w before r [] s)
    (sound : w.IsSound settings.vendor settings.maxHeader) (run : Run settings s part s')
    (orderly : ∀ x ∈ part, x.event.IsOrderly)
    (served : (reads part).flatten <+: before ++ w.bytes) :
    Opening settings w before r part s' ∨ before ++ w.core <+: (reads part).flatten ∨
      s'.activity = .ended := by
  induction run with
  | start => exact .inl start
  | @step part _ now e _ fx run h ih =>
    have grows : (reads part).flatten <+: (reads (part ++ [⟨now, e, fx⟩])).flatten := by
      rw [reads_append, List.flatten_append]
      exact List.prefix_append _ _
    have step := step_of_step? h
    rcases ih (fun x hx => orderly x (List.mem_append_left _ hx)) (grows.trans served) with
      opening | arrived | ended
    · rcases step.rule_or_ended with rule | ended
      · exact (opening.rule sound rule
          (orderly _ (List.mem_append_right _ List.mem_cons_self)) served).imp_right .inl
      · exact .inr (.inr ended)
    · exact .inr (.inl (arrived.trans grows))
    · exact .inr (.inr (ended_of_step step ended).1)

theorem ending_suffix (w : Layout) : w.ending <:+ Terminator.bytes := by
  cases hw : w.chunk <;> simp [Layout.ending, hw]

/-- When the RESPMOD request is written, nothing can be left of the first response but the end of
its body, or some of it. -/
theorem exists_tail {es₁ : List Entry} (phase : Phase settings s₀ es s)
    (limit : s₀.response.limit = settings.maxHeader) (asks : Asking .options r s)
    (sound : w.IsSound settings.vendor settings.maxHeader) (run : Run settings s es₁ s₁)
    (asking : Asking .respmod r s₁) (orderly : ∀ x ∈ es₁, x.event.IsOrderly)
    (early : (reads es₁).flatten <+: rest s.owed ++ w.bytes) :
    ∃ tail, tail <:+ w.ending ∧ (reads es₁).flatten ++ tail = rest s.owed ++ w.bytes := by
  obtain ⟨_, -, whole⟩ := sound.isWhole
  have start := asks.opening phase limit whole.core_ne_nil
  rcases opening_of_run start sound run orderly early with opening | ⟨some, arrived⟩ | ended
  · have state := opening.state
    rw [asking.state] at state
    cases state
  · obtain ⟨tail, tail_eq⟩ := early
    refine ⟨tail, ⟨some, ?_⟩, tail_eq⟩
    rw [← arrived, Layout.bytes, ← List.append_assoc, List.append_assoc _ some tail,
      List.append_cancel_left_eq] at tail_eq
    exact tail_eq
  · obtain ⟨_, _, writing⟩ := asking.writes
    cases writing.symm.trans ended

/-! ## Whole scans -/

variable {es₁ es₂ : List Entry} {s₂ : Session}

/-- **What a scan comes to, by where the first response is cut.** The server answers a scan with a
sound response to the OPTIONS request and then, once it has the RESPMOD request, with a second
response, no part of which passes the limit. If all of the first response has been read when the
session writes the RESPMOD request, as it always has without a body, the scan comes to what the
second response says when it is read alone. If some of it is read later, the scan fails. Once all
has arrived, the scan has been told. -/
theorem outcome_of_cut (sound : w.IsSound settings.vendor settings.maxHeader)
    (fits : ∀ p, p <+: bytes →
      ((fresh settings.maxHeader).feed settings.vendor p).1.hitLimit = false)
    (earlier : Run settings (start settings number route reuse t) es s)
    (asks : Asking .options r s) (first : Run settings s es₁ s₁) (asking : Asking .respmod r s₁)
    (second : Run settings s₁ es₂ s₂) (orderly : ∀ x ∈ es₁ ++ es₂, x.event.IsOrderly)
    (early : (reads es₁).flatten <+: rest s.owed ++ w.bytes)
    (served : (reads (es₁ ++ es₂)).flatten <+: rest s.owed ++ w.bytes ++ bytes) :
    let alone := ((fresh settings.maxHeader).feed settings.vendor bytes).1
    (w.chunk = none → (reads es₁).flatten = rest s.owed ++ w.bytes) ∧
    (∀ outcome, .answered r.number outcome ∈ effects es₂ →
      ((reads es₁).flatten = rest s.owed ++ w.bytes → outcome = alone.takeOutcome.1) ∧
        ((reads es₁).flatten ≠ rest s.owed ++ w.bytes → ∃ fault, outcome = .error fault)) ∧
      ((reads (es₁ ++ es₂)).flatten = rest s.owed ++ w.bytes ++ bytes → alone.isDone = true →
        ∃ outcome, .answered r.number outcome ∈ effects es₂) := by
  intro alone
  obtain ⟨tail, suffix, tail_eq⟩ := exists_tail (phase_of_run earlier) rfl asks sound first asking
    (fun x hx => orderly x (List.mem_append_left _ hx)) early
  have all : (reads es₁).flatten = (reads es₁).flatten ++ tail ↔ tail = [] :=
    List.self_eq_append_right
  rw [reads_append, List.flatten_append, ← tail_eq, List.append_assoc] at served ⊢
  obtain ⟨what, told⟩ := outcome_of_tail (earlier.append first) asking second
    (fun x hx => orderly x (List.mem_append_right _ hx)) (suffix.trans (ending_suffix w))
    ((List.prefix_append_right_inj _).mp served) fits
  refine ⟨fun bodyless => all.mpr ?_, ?_, ?_⟩
  · rwa [Layout.ending, bodyless, Option.elim_none, List.suffix_nil] at suffix
  · intro outcome answered
    exact (what outcome answered).imp (fun h whole => h (all.mp whole))
      fun h cut => h fun none => cut (all.mpr none)
  · exact fun arrived => told (List.append_cancel_left arrived)

/-! ### The same bytes, cut in two ways -/

/-- A scan is started, and its OPTIONS request is about to be written. -/
def opening : List (Instant × Event) := [(1, .scan "a" [65]), (2, .command)]

/-- The first response, with so many bytes of the end of its body. -/
def firstPart (n : Nat) : List (Instant × Event) :=
  [(3, .accepted 82), (4, .flushed), (5, .read (chunked ++ Terminator.bytes.take n))]

/-- The rest of the first response, and the second response. -/
def secondPart (n : Nat) : List (Instant × Event) :=
  [(6, .accepted 176), (7, .flushed), (8, .read (Terminator.bytes.drop n ++ chunked))]

instance : Decidable (Asking half r s) :=
  decidable_of_iff (s.state = half.state ∧ s.pending = some r ∧
      (match s.activity with | .writing _ _ => true | _ => false) = true) <| by
    constructor
    · rintro ⟨state, pending, activity⟩
      refine ⟨state, pending, ?_⟩
      split at activity
      · exact ⟨_, _, ‹_›⟩
      · cases activity
    · rintro ⟨state, pending, left, patience, activity⟩
      exact ⟨state, pending, by rw [activity]⟩

theorem outcome_of_cut_three :
    ∃ es s es₁ s₁ es₂ s₂ r, Run { userAgent := "u" } sample es s ∧
      Run { userAgent := "u" } s es₁ s₁ ∧ Run { userAgent := "u" } s₁ es₂ s₂ ∧
      Asking .options r s ∧ Asking .respmod r s₁ ∧ (∀ x ∈ es₁ ++ es₂, x.event.IsOrderly) ∧
      (reads es₁).flatten ≠ rest s.owed ++ sampleRound.response.bytes ∧
      (reads (es₁ ++ es₂)).flatten = rest s.owed ++ sampleRound.response.bytes ++ chunked ∧
      let alone := ((fresh 65536).feed .violations chunked).1
      (sampleRound.response.chunk = none →
        (reads es₁).flatten = rest s.owed ++ sampleRound.response.bytes) ∧
      (∀ outcome, .answered r.number outcome ∈ effects es₂ →
        ((reads es₁).flatten = rest s.owed ++ sampleRound.response.bytes →
            outcome = alone.takeOutcome.1) ∧
          ((reads es₁).flatten ≠ rest s.owed ++ sampleRound.response.bytes →
            ∃ fault, outcome = .error fault)) ∧
        ((reads (es₁ ++ es₂)).flatten = rest s.owed ++ sampleRound.response.bytes ++ chunked →
          alone.isDone = true → ∃ outcome, .answered r.number outcome ∈ effects es₂) := by
  have h : (play? { userAgent := "u" } sample opening).elim false (fun a =>
      (play? { userAgent := "u" } a.2 (firstPart 3)).elim false fun b =>
      (play? { userAgent := "u" } b.2 (secondPart 3)).elim false fun c =>
        Asking .options ⟨1, "a", [65]⟩ a.2 ∧ Asking .respmod ⟨1, "a", [65]⟩ b.2 ∧
        (∀ x ∈ b.1 ++ c.1, x.event.IsOrderly) ∧
        (reads b.1).flatten <+: rest a.2.owed ++ sampleRound.response.bytes ∧
        (reads b.1).flatten ≠ rest a.2.owed ++ sampleRound.response.bytes ∧
        (reads (b.1 ++ c.1)).flatten =
          rest a.2.owed ++ sampleRound.response.bytes ++ chunked) = true := by
    decide +kernel
  have fits : ∀ p ∈ chunked.inits, ((fresh 65536).feed .violations p).1.hitLimit = false := by
    decide +kernel
  obtain ⟨es, s, earlier, h⟩ := exists_run_of_play? h
  obtain ⟨es₁, s₁, first, h⟩ := exists_run_of_play? h
  obtain ⟨es₂, s₂, second, h⟩ := exists_run_of_play? h
  obtain ⟨asks, asking, orderly, early, cut, arrived⟩ := of_decide_eq_true h
  exact ⟨es, s, es₁, s₁, es₂, s₂, _, earlier, first, second, asks, asking, orderly, cut, arrived,
    outcome_of_cut isSound_sampleRound.response (fun p hp => fits p ((List.mem_inits _ _).mpr hp))
      earlier asks first asking second orderly early (arrived ▸ List.prefix_refl _)⟩

/-- A server answers both requests of a scan with one and the same sound response. The same bytes
come to a verdict if the end of the first body arrives with its beginning, and to a failure if it
arrives with the second response. -/
theorem exists_cut_twice :
    sampleRound.response.IsSound .violations 65536 ∧
    ∃ es s es' s', Run { userAgent := "u" } sample es s ∧ Run { userAgent := "u" } sample es' s' ∧
      (∀ x ∈ es ++ es', x.event.IsOrderly) ∧
      IsServed (fun _ => ⟨sampleRound.response, sampleRound.response⟩) es ∧
      IsServed (fun _ => ⟨sampleRound.response, sampleRound.response⟩) es' ∧
      (reads es).flatten = (reads es').flatten ∧
      answers es = [(1, .ok { disposition := some .clean, bytes := some [65] })] ∧
      answers es' = [(1, .error (.icapStatus ""))] := by
  have h : (play? { userAgent := "u" } sample (opening ++ firstPart 7 ++ secondPart 7)).elim false
      (fun a => (play? { userAgent := "u" } sample (opening ++ firstPart 0 ++ secondPart 0)).elim
        false fun b =>
        (∀ x ∈ a.1 ++ b.1, x.event.IsOrderly) ∧
        IsServed (fun _ => ⟨sampleRound.response, sampleRound.response⟩) a.1 ∧
        IsServed (fun _ => ⟨sampleRound.response, sampleRound.response⟩) b.1 ∧
        (reads a.1).flatten = (reads b.1).flatten ∧
        answers a.1 = [(1, .ok { disposition := some .clean, bytes := some [65] })] ∧
        answers b.1 = [(1, .error (.icapStatus ""))]) = true := by
    decide +kernel
  obtain ⟨es, s, run, h⟩ := exists_run_of_play? h
  obtain ⟨es', s', run', h⟩ := exists_run_of_play? h
  exact ⟨isSound_sampleRound.response, es, s, es', s', run, run', of_decide_eq_true h⟩

end Icap.Session
