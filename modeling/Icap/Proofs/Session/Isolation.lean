import Icap.Proofs.Response.Layout
import Icap.Proofs.Session.Run

/-!
# Scans do not get in each other's way

A server answers the requests of a session, two for each scan, and its bytes arrive in any pieces,
the end of a body as late as it likes. Each scan then comes to what its own response says, as if it
had been read alone, and the session can serve again.

* `Round` — the responses of a scan.
* `IsServed` — at no time has more arrived than responses to the requests so far.
* `Turn` — where a session stands in its rounds.
* `turn_of_run` — every orderly run is at some turn.
* `answers_eq_of_isServed` — what the scans of an orderly run come to.
-/

namespace Icap

/-! ## The server -/

/-- The two responses of a scan. -/
structure Round where
  options : Layout
  response : Layout

namespace Round

/-- Whether both responses are sound, and the first one has no body. -/
structure IsSound (settings : Settings) (r : Round) : Prop where
  options : r.options.IsSound settings.vendor settings.maxHeader
  bodyless : r.options.chunk = none
  response : r.response.IsSound settings.vendor settings.maxHeader

variable {rounds : Nat → Round}

/-- The responses of rounds, one after the other. -/
def reply (rounds : Nat → Round) (i : Nat) : Layout :=
  if i % 2 = 0 then (rounds (i / 2)).options else (rounds (i / 2)).response

/-- The bytes of so many responses. -/
def stream (rounds : Nat → Round) : Nat → Bytes
  | 0 => []
  | n + 1 => stream rounds n ++ (reply rounds n).bytes

/-- What has arrived when the verdict of a round is due. -/
def due (rounds : Nat → Round) (k : Nat) : Bytes :=
  stream rounds (2 * k + 1) ++ (rounds k).response.core

@[simp] theorem reply_options (k : Nat) : reply rounds (2 * k) = (rounds k).options := by
  simp [reply]

@[simp] theorem reply_respmod (k : Nat) : reply rounds (2 * k + 1) = (rounds k).response := by
  simp [reply, Nat.add_mod, show (2 * k + 1) / 2 = k by omega]

theorem IsSound.reply {settings : Settings} (sound : ∀ k, (rounds k).IsSound settings) (i : Nat) :
    (Round.reply rounds i).IsSound settings.vendor settings.maxHeader := by
  unfold Round.reply
  split
  · exact (sound _).options
  · exact (sound _).response

theorem IsSound.core_ne_nil {settings : Settings} (sound : ∀ k, (rounds k).IsSound settings)
    (i : Nat) : (Round.reply rounds i).core ≠ [] := by
  obtain ⟨_, -, whole⟩ := (IsSound.reply sound i).isWhole
  exact whole.core_ne_nil

theorem stream_succ (n : Nat) :
    stream rounds (n + 1) = stream rounds n ++ ((reply rounds n).core ++ (reply rounds n).ending) :=
  rfl

theorem length_stream_le {m n : Nat} (h : m ≤ n) :
    (stream rounds m).length ≤ (stream rounds n).length := by
  induction h with
  | refl => exact Nat.le_refl _
  | step _ ih =>
    rw [stream_succ, List.length_append]
    omega

end Round

namespace Session

open Response (fresh IsWhole)
open Round (reply stream due)
open Terminator (rest)

variable {settings : Settings} {rounds : Nat → Round} {s₀ s s' : Session} {es : List Entry}
  {x : Entry}

/-- The number of requests that have been written whole. -/
def flushes (es : List Entry) : Nat := es.countP fun x => x.event == .flushed

/-- Whether a server has sent nothing but the responses to the requests that it has had, at all
times. -/
def IsServed (rounds : Nat → Round) (es : List Entry) : Prop :=
  ∀ before, before <+: es → (reads before).flatten <+: stream rounds (flushes before)

/-- Whether an event belongs to the course of scans: no user closes the session or lets it go, no
timer expires, and the connection does not fail. -/
def Event.IsOrderly : Event → Prop
  | .scan _ _ | .command | .read _ | .accepted _ | .flushed => True
  | _ => False

/-- The outcome of a scan that an effect tells, and the number of the scan. -/
def Effect.answer? : Effect → Option (Nat × Outcome)
  | .answered number outcome => some (number, outcome)
  | _ => none

/-- The outcomes that a history tells. -/
def answers (es : List Entry) : List (Nat × Outcome) := (effects es).filterMap Effect.answer?

/-! ### Histories -/

theorem IsServed.of_concat (h : IsServed rounds (es ++ [x])) : IsServed rounds es :=
  fun before hb => h before (hb.trans (List.prefix_append es [x]))

@[simp] theorem flushes_concat :
    flushes (es ++ [x]) = flushes es + if x.event = .flushed then 1 else 0 := by
  simp [flushes, List.countP_cons]

@[simp] theorem answers_concat :
    answers (es ++ [x]) = answers es ++ x.effects.filterMap Effect.answer? := by
  simp [answers]

theorem flatten_reads_concat {bytes : Bytes} (h : x.event = .read bytes) :
    (reads (es ++ [x])).flatten = (reads es).flatten ++ bytes := by
  simp [reads, h, Event.read?]

theorem reads_concat (h : x.event.read? = none) : reads (es ++ [x]) = reads es := by
  simp [reads, h]

/-! ## Rounds -/

/-- What has come of the first `k` rounds. -/
structure Progress (settings : Settings) (rounds : Nat → Round) (k : Nat) (es : List Entry)
    (s : Session) : Prop where
  released : s.released = false
  answers_eq : answers es = (List.range k).map fun j =>
    (j + 1, (rounds j).response.outcome settings.vendor settings.maxHeader)
  due_arrived : ∀ j < k, due rounds j <+: (reads es).flatten
  /-- A session that has just told an outcome is connected. -/
  connected : ∀ x, es.getLast? = some x → x.effects.filterMap Effect.answer? ≠ [] →
    s.state = .connected

/-- An event that tells no outcome. -/
theorem Progress.concat {k : Nat} (h : Progress settings rounds k es s)
    (quiet : x.effects.filterMap Effect.answer? = []) (released : s'.released = s.released) :
    Progress settings rounds k (es ++ [x]) s' where
  released := released.trans h.released
  answers_eq := by rw [answers_concat, quiet, List.append_nil, h.answers_eq]
  due_arrived := by
    intro j hj
    rw [reads_append, List.flatten_append]
    exact (h.due_arrived j hj).trans (List.prefix_append _ _)
  connected := by
    intro y hy told
    rw [List.getLast?_concat, Option.some.injEq] at hy
    exact absurd quiet (hy ▸ told)

/-- An event that tells the outcome of the next round. -/
theorem Progress.answer {k : Nat} (h : Progress settings rounds k es s)
    (told : x.effects = [.answered (k + 1)
      ((rounds k).response.outcome settings.vendor settings.maxHeader)])
    (arrived : due rounds k <+: (reads (es ++ [x])).flatten) (released : s'.released = s.released)
    (state : s'.state = .connected) : Progress settings rounds (k + 1) (es ++ [x]) s' where
  released := released.trans h.released
  answers_eq := by
    rw [answers_concat, told, h.answers_eq, List.range_succ, List.map_append]
    rfl
  due_arrived := by
    intro j hj
    rcases Nat.eq_or_lt_of_le (Nat.le_of_lt_succ hj) with rfl | hlt
    · exact arrived
    · rw [reads_append, List.flatten_append]
      exact (h.due_arrived j hlt).trans (List.prefix_append _ _)
  connected := fun _ _ _ => state

/-- The number of a half among the requests of a session. -/
def Half.index (k : Nat) : Half → Nat
  | .options => 2 * k
  | .respmod => 2 * k + 1

/-- A session within the half of a scan that is number `k + 1`. -/
structure Within (k : Nat) (half : Half) (r : ScanRequest) (s : Session) : Prop where
  state : s.state = half.state
  pending : s.pending = some r
  queue : s.queue = []
  number : r.number = k + 1
  commands : s.commands = k + 1

/-- A session between two scans, `k` of which are over: what has arrived, and what is still owed,
are the responses of these. -/
structure Idle (rounds : Nat → Round) (k : Nat) (es : List Entry) (s : Session) : Prop where
  state : s.state = .connected
  listens : ∃ patience, s.activity = .listening patience
  pending : s.pending = none
  queue : s.queue = []
  commands : s.commands = k
  flushed : flushes es = 2 * k
  bytes : (reads es).flatten ++ rest s.owed = stream rounds (2 * k)

/-- A session with a new scan that its task has not taken yet. -/
structure Claimed (rounds : Nat → Round) (k : Nat) (r : ScanRequest) (es : List Entry)
    (s : Session) : Prop where
  state : s.state = .awaitingOptions
  listens : ∃ patience, s.activity = .listening patience
  pending : s.pending = none
  queue : s.queue = [.scan r]
  number : r.number = k + 1
  commands : s.commands = k + 1
  flushed : flushes es = 2 * k
  bytes : (reads es).flatten ++ rest s.owed = stream rounds (2 * k)

/-- A session that writes a request. -/
structure Writing (settings : Settings) (rounds : Nat → Round) (k : Nat) (half : Half)
    (r : ScanRequest) (es : List Entry) (s : Session) : Prop extends Within k half r s where
  writes : ∃ left patience, s.activity = .writing left patience
  flushed : flushes es = half.index k
  bytes : (reads es).flatten ++ rest s.owed = stream rounds (half.index k)
  response : s.response = fresh settings.maxHeader

/-- A session that waits for a response, of which a part has arrived. -/
structure Receiving (settings : Settings) (rounds : Nat → Round) (k : Nat) (half : Half)
    (r : ScanRequest) (part : Bytes) (es : List Entry) (s : Session) : Prop
    extends Within k half r s where
  listens : ∃ patience, s.activity = .listening patience
  flushed : flushes es = half.index k + 1
  bytes : (reads es).flatten ++ rest s.owed = stream rounds (half.index k) ++ part
  part_within : part <+: (reply rounds (half.index k)).core
  part_ne : part ≠ (reply rounds (half.index k)).core
  response : s.response = ((fresh settings.maxHeader).feed settings.vendor part).1

/-- Where a session stands in its rounds, of which `k` are over. -/
inductive Turn (settings : Settings) (rounds : Nat → Round) (k : Nat) (es : List Entry)
    (s : Session) : Prop
  | idle (h : Idle rounds k es s)
  | claimed {r} (h : Claimed rounds k r es s)
  | writing {half r} (h : Writing settings rounds k half r es s)
  | receiving {half r part} (h : Receiving settings rounds k half r part es s)

variable {k : Nat} {now : Instant} {e : Event} {fx : List Effect} {part : Bytes} {r : ScanRequest}
  {half : Half}

/-! ### Between two scans -/

/-- A read that does not go beyond what is owed. -/
theorem bytes_of_skip {arrived owedFor bytes : Bytes} {owed : Nat}
    (h : arrived ++ rest owed = owedFor) (served : arrived ++ bytes <+: owedFor) :
    arrived ++ bytes ++ rest (Terminator.skip owed bytes).1 = owedFor := by
  rw [← h, List.prefix_append_right_inj] at served
  rw [← h, (Terminator.skip_of_part served).2, List.append_assoc]

/-- What has been served when the last event is a read. -/
theorem IsServed.last {bytes : Bytes} (h : IsServed rounds (es ++ [⟨now, .read bytes, fx⟩])) :
    (reads es).flatten ++ bytes <+: stream rounds (flushes es) := by
  have last := h _ (List.prefix_refl _)
  rwa [flatten_reads_concat rfl, flushes_concat, if_neg (by simp), Nat.add_zero] at last

theorem Idle.turn (idle : Idle rounds k es s) (rule : Rule settings now s e s' fx)
    (orderly : e.IsOrderly) (served : IsServed rounds (es ++ [⟨now, e, fx⟩])) :
    Turn settings rounds k (es ++ [⟨now, e, fx⟩]) s' ∧ fx.filterMap Effect.answer? = [] ∧
      s'.released = s.released := by
  obtain ⟨state, ⟨patience, activity⟩, pending, queue, commands, flushed, bytes⟩ := idle
  cases rule
  case claim filename payload _ _ _ _ =>
    refine ⟨.claimed (r := ⟨s.commands + 1, filename, payload⟩) ⟨rfl, ⟨patience, activity⟩, pending,
      by simp [queue], by rw [commands], by rw [commands], by simp [flushed], ?_⟩, rfl, rfl⟩
    rw [reads_concat rfl]
    exact bytes
  case ready =>
    refine ⟨.idle ⟨state, ⟨patience, activity⟩, pending, queue, commands, by simp [flushed], ?_⟩,
      rfl, rfl⟩
    rw [reads_concat rfl]
    exact bytes
  case discard =>
    refine ⟨.idle ⟨state, ⟨_, rfl⟩, pending, queue, commands, by simp [flushed], ?_⟩, rfl, rfl⟩
    rw [flatten_reads_concat rfl]
    exact bytes_of_skip bytes (flushed ▸ served.last)
  case hangUp event => rcases event with rfl | rfl <;> cases orderly
  all_goals first | exact False.elim orderly | simp_all

theorem Claimed.turn (claimed : Claimed rounds k r es s) (kept : Kept s₀ s)
    (limit : s₀.response.limit = settings.maxHeader) (rule : Rule settings now s e s' fx)
    (orderly : e.IsOrderly) (served : IsServed rounds (es ++ [⟨now, e, fx⟩])) :
    Turn settings rounds k (es ++ [⟨now, e, fx⟩]) s' ∧ fx.filterMap Effect.answer? = [] ∧
      s'.released = s.released := by
  obtain ⟨state, ⟨patience, activity⟩, pending, queue, number, commands, flushed, bytes⟩ := claimed
  cases rule
  case start _ r' _ _ head _ _ =>
    obtain ⟨rfl, rfl⟩ : r = r' ∧ _ := by simpa [queue] using head
    have within : Within k .options r (write settings now (settings.agent.options s.route)
        { s with queue := [], response := s.response.reset, pending := some r }) :=
      ⟨state, rfl, rfl, number, commands⟩
    refine ⟨.writing ⟨within, ⟨_, _, rfl⟩, by simp [flushed, Half.index], ?_, ?_⟩, rfl, rfl⟩
    · rw [reads_concat rfl]
      exact bytes
    · simp [write, Response.reset, kept.limit, limit]
  case refuse =>
    refine ⟨.claimed ⟨state, ⟨patience, activity⟩, pending, queue, number, commands,
      by simp [flushed], ?_⟩, rfl, rfl⟩
    rw [reads_concat rfl]
    exact bytes
  case discard =>
    refine ⟨.claimed ⟨state, ⟨_, rfl⟩, pending, queue, number, commands, by simp [flushed], ?_⟩,
      rfl, rfl⟩
    rw [flatten_reads_concat rfl]
    exact bytes_of_skip bytes (flushed ▸ served.last)
  case hangUp event => rcases event with rfl | rfl <;> cases orderly
  all_goals first | exact False.elim orderly | simp_all

/-! ### Within a scan -/

theorem Writing.turn (writing : Writing settings rounds k half r es s)
    (core_ne : ∀ i, (reply rounds i).core ≠ []) (rule : Rule settings now s e s' fx)
    (orderly : e.IsOrderly) :
    Turn settings rounds k (es ++ [⟨now, e, fx⟩]) s' ∧ fx.filterMap Effect.answer? = [] ∧
      s'.released = s.released := by
  obtain ⟨within, ⟨left, patience, activity⟩, flushed, bytes, response⟩ := writing
  obtain ⟨state, pending, queue, number, commands⟩ := within
  obtain ⟨ne_connected, -⟩ := half.state_ne
  cases rule
  case refuse =>
    refine ⟨.writing ⟨⟨state, pending, queue, number, commands⟩, ⟨_, _, activity⟩,
      by simp [flushed], ?_, response⟩, rfl, rfl⟩
    rw [reads_concat rfl]
    exact bytes
  case accept =>
    refine ⟨.writing ⟨⟨state, pending, queue, number, commands⟩, ⟨_, _, rfl⟩, by simp [flushed], ?_,
      response⟩, rfl, rfl⟩
    rw [reads_concat rfl]
    exact bytes
  case flush =>
    refine ⟨.receiving ⟨⟨state, pending, queue, number, commands⟩, ⟨_, rfl⟩, by simp [flushed], ?_,
      List.nil_prefix, (core_ne _).symm, ?_⟩, rfl, rfl⟩
    · rw [reads_concat rfl, List.append_nil]
      exact bytes
    · rw [Response.feed_fresh_nil]
      exact response
  case hangUp event => rcases event with rfl | rfl <;> cases orderly
  all_goals first | exact False.elim orderly | simp_all

/-- A read after which a response is complete, and the session owes the end of its body. -/
structure Concludes (settings : Settings) (core ending : Bytes) (verdict : Verdict) (s : Session)
    (before arrived bytes : Bytes) : Prop where
  owed : (Terminator.skip s.owed bytes).1 = 0
  isDone : (s.gathered settings bytes).response.isDone = true
  outcome : (s.gathered settings bytes).response.takeOutcome.1 = .ok verdict
  due : before ++ core <+: arrived ++ bytes
  bytes_eq : arrived ++ bytes ++ rest (s.gathered settings bytes).response.owed =
    before ++ (core ++ ending)

/-- What a read does to a response of which a part has arrived: it is skipped, or it goes on with
the response, or it completes it. -/
inductive Arrives (settings : Settings) (core ending : Bytes) (verdict : Verdict) (s : Session)
    (before arrived part bytes : Bytes) : Prop
  | skipped (left : (Terminator.skip s.owed bytes).2 = [])
      (bytes_eq : arrived ++ bytes ++ rest (Terminator.skip s.owed bytes).1 = before ++ part)
  | goesOn {next} (left : (Terminator.skip s.owed bytes).2 ≠ [])
      (owed : (Terminator.skip s.owed bytes).1 = 0)
      (bytes_eq : arrived ++ bytes = before ++ next) (next_within : next <+: core)
      (next_ne : next ≠ core)
      (response : (s.gathered settings bytes).response =
        ((fresh settings.maxHeader).feed settings.vendor next).1)
      (isDone : (s.gathered settings bytes).response.isDone = false)
  | concludes (left : (Terminator.skip s.owed bytes).2 ≠ [])
      (h : Concludes settings core ending verdict s before arrived bytes)

theorem arrives_of_read {core ending before arrived part bytes : Bytes} {verdict : Verdict}
    (whole : IsWhole settings.vendor settings.maxHeader core ending verdict)
    (bytes_eq : arrived ++ rest s.owed = before ++ part) (part_within : part <+: core)
    (part_ne : part ≠ core)
    (response : s.response = ((fresh settings.maxHeader).feed settings.vendor part).1)
    (served : arrived ++ bytes <+: before ++ (core ++ ending)) :
    Arrives settings core ending verdict s before arrived part bytes := by
  obtain ⟨tail, rfl⟩ := part_within
  -- what may come next is what is owed and the rest of the response
  have next : bytes <+: rest s.owed ++ (tail ++ ending) := by
    rw [List.append_assoc, ← List.append_assoc before, ← bytes_eq, List.append_assoc,
      List.prefix_append_right_inj] at served
    exact served
  rcases Terminator.skip_of_part_append next with ⟨left, owed⟩ | ⟨q, q_ne, hq, rfl, skip⟩
  · refine .skipped left ?_
    rw [List.append_assoc, ← owed, bytes_eq]
  have left : (Terminator.skip s.owed (rest s.owed ++ q)).2 ≠ [] := by rwa [skip]
  have owed : (Terminator.skip s.owed (rest s.owed ++ q)).1 = 0 := by rw [skip]
  have arrived_eq : arrived ++ (rest s.owed ++ q) = before ++ (part ++ q) := by
    rw [← List.append_assoc, bytes_eq, List.append_assoc]
  have gathered_eq : (s.gathered settings (rest s.owed ++ q)).response =
      ((fresh settings.maxHeader).feed settings.vendor (part ++ q)).1 := by
    rw [← whole.feed_feed (List.prefix_append part tail) part_ne, ← response]
    simp only [gathered, skip]
  by_cases hlt : q <+: tail ∧ q ≠ tail
  · have next_within := (List.prefix_append_right_inj part).mpr hlt.1
    have next_ne : part ++ q ≠ part ++ tail := fun h => hlt.2 (List.append_cancel_left h)
    refine .goesOn left owed arrived_eq next_within next_ne gathered_eq ?_
    rw [gathered_eq]
    exact whole.earlier _ next_within next_ne
  · obtain ⟨x, rfl⟩ : tail <+: q := by
      rcases List.prefix_or_prefix_of_prefix hq (List.prefix_append tail ending) with h | h
      · rw [Decidable.not_not.mp fun hne => hlt ⟨h, hne⟩]
      · exact h
    obtain ⟨isDone, outcome, ending_eq⟩ :=
      whole.feed_core_append ((List.prefix_append_right_inj tail).mp hq)
    rw [List.append_assoc, ← gathered_eq] at isDone outcome ending_eq
    refine .concludes left ⟨owed, isDone, outcome, ?_, ?_⟩
    · rw [arrived_eq]
      exact ⟨x, by simp⟩
    · rw [arrived_eq]
      conv_rhs => rw [ending_eq]
      simp

theorem Arrives.concluded {core ending before arrived bytes : Bytes} {verdict : Verdict}
    (h : Arrives settings core ending verdict s before arrived part bytes)
    (left : (Terminator.skip s.owed bytes).2 ≠ [])
    (isDone : (s.gathered settings bytes).response.isDone = true) :
    Concludes settings core ending verdict s before arrived bytes := by
  cases h with
  | skipped eq => exact absurd eq left
  | goesOn _ _ _ _ _ _ isDone' =>
    rw [isDone'] at isDone
    cases isDone
  | concludes _ h => exact h

/-- What arrives for a session that waits for a response. -/
theorem Receiving.arrives (receiving : Receiving settings rounds k half r part es s)
    (sound : ∀ j, (rounds j).IsSound settings) {bytes : Bytes}
    (served : IsServed rounds (es ++ [⟨now, .read bytes, fx⟩])) :
    ∃ verdict,
      (reply rounds (half.index k)).outcome settings.vendor settings.maxHeader = .ok verdict ∧
      Arrives settings (reply rounds (half.index k)).core (reply rounds (half.index k)).ending
        verdict s (stream rounds (half.index k)) (reads es).flatten part bytes := by
  obtain ⟨verdict, alone, whole⟩ := (Round.IsSound.reply sound (half.index k)).isWhole
  refine ⟨verdict, alone, arrives_of_read whole receiving.bytes receiving.part_within
    receiving.part_ne receiving.response ?_⟩
  rw [← Round.stream_succ, ← receiving.flushed]
  exact served.last

/-- The response to the OPTIONS request is complete. Without a body, it owes nothing. -/
theorem Receiving.ask (receiving : Receiving settings rounds k .options r part es s)
    (bodyless : (rounds k).options.chunk = none) (limit : s.response.limit = settings.maxHeader)
    {bytes request : Bytes} {verdict : Verdict}
    (served : IsServed rounds (es ++ [⟨now, .read bytes, fx⟩]))
    (h : Concludes settings (rounds k).options.core (rounds k).options.ending verdict s
      (stream rounds (2 * k)) (reads es).flatten bytes) :
    Writing settings rounds k .respmod r (es ++ [⟨now, .read bytes, fx⟩])
      (write settings now request
        { s.gathered settings bytes with
          response := (s.gathered settings bytes).response.reset
          state := .awaitingScan }) := by
  have ending : (rounds k).options.ending = [] := by
    rw [Layout.ending, bodyless, Option.elim_none]
  have arrived : (reads es).flatten ++ bytes = stream rounds (2 * k + 1) := by
    have served := served.last
    rw [receiving.flushed, Half.index, Round.stream_succ, Round.reply_options, ending,
      List.append_nil] at served
    rw [served.eq_of_length_le h.due.length_le, Round.stream_succ, Round.reply_options, ending,
      List.append_nil]
  refine ⟨⟨rfl, receiving.pending, receiving.queue, receiving.number, receiving.commands⟩,
    ⟨_, _, rfl⟩, ?_, ?_, ?_⟩
  · rw [flushes_concat, receiving.flushed]
    rfl
  · rw [flatten_reads_concat rfl, arrived]
    simp [write, gathered, h.owed, Half.index]
  · simp [write, gathered, Response.reset, limit]

/-- The response to the RESPMOD request is complete. -/
theorem Receiving.answer (receiving : Receiving settings rounds k .respmod r part es s)
    {bytes : Bytes} {verdict : Verdict}
    (h : Concludes settings (rounds k).response.core (rounds k).response.ending verdict s
      (stream rounds (2 * k + 1)) (reads es).flatten bytes) :
    Idle rounds (k + 1) (es ++ [⟨now, .read bytes, fx⟩])
      (listening settings now
        { (s.gathered settings bytes).answered with state := .connected, pending := none }) := by
  refine ⟨rfl, ⟨_, rfl⟩, rfl, receiving.queue, receiving.commands, ?_, ?_⟩
  · rw [flushes_concat, receiving.flushed]
    rfl
  · rw [flatten_reads_concat rfl, show 2 * (k + 1) = 2 * k + 1 + 1 from rfl, Round.stream_succ,
      Round.reply_respmod]
    exact h.bytes_eq

theorem Receiving.turn (receiving : Receiving settings rounds k half r part es s) (kept : Kept s₀ s)
    (limit : s₀.response.limit = settings.maxHeader) (reuse : s₀.reuse = true)
    (sound : ∀ j, (rounds j).IsSound settings) (progress : Progress settings rounds k es s)
    (rule : Rule settings now s e s' fx) (orderly : e.IsOrderly)
    (served : IsServed rounds (es ++ [⟨now, e, fx⟩])) :
    ∃ k', Progress settings rounds k' (es ++ [⟨now, e, fx⟩]) s' ∧
      Turn settings rounds k' (es ++ [⟨now, e, fx⟩]) s' := by
  obtain ⟨patience, activity⟩ := receiving.listens
  obtain ⟨state, pending, queue, -, -⟩ := receiving.toWithin
  obtain ⟨ne_connected, ne_disconnected⟩ := half.state_ne
  cases rule
  case refuse =>
    have bytes := receiving.bytes
    refine ⟨k, progress.concat rfl rfl, .receiving { receiving with flushed := ?_, bytes := ?_ }⟩
    · simp [receiving.flushed]
    · rw [reads_concat rfl]
      exact bytes
  case skip bytes _ _ _ _ left =>
    obtain ⟨_, -, arrives⟩ := receiving.arrives sound served
    cases arrives with
    | goesOn ne => exact absurd left ne
    | concludes ne => exact absurd left ne
    | skipped _ bytes_eq =>
      refine ⟨k, progress.concat rfl rfl, .receiving { receiving with
        listens := ⟨_, rfl⟩, flushed := ?_, bytes := ?_ }⟩
      · simp [receiving.flushed]
      · rw [flatten_reads_concat rfl]
        exact bytes_eq
  case gather bytes _ _ _ _ left isDone =>
    obtain ⟨_, -, arrives⟩ := receiving.arrives sound served
    cases arrives with
    | skipped eq => exact absurd eq left
    | concludes _ h =>
      rw [h.isDone] at isDone
      cases isDone
    | goesOn _ owed bytes_eq part_within part_ne response =>
      refine ⟨k, progress.concat rfl rfl, .receiving { receiving with
        listens := ⟨_, rfl⟩, flushed := ?_, bytes := ?_, part_within, part_ne, response }⟩
      · simp [receiving.flushed]
      · rw [flatten_reads_concat rfl, bytes_eq]
        simp [listening, gathered, owed]
  case refuseOptions bytes _ _ _ _ _ left isDone _ outcome =>
    obtain ⟨_, -, arrives⟩ := receiving.arrives sound served
    rw [(arrives.concluded left isDone).outcome] at outcome
    cases outcome
  case ask bytes r' verdict' _ _ pending' left isDone state' _ =>
    obtain ⟨_, -, arrives⟩ := receiving.arrives sound served
    obtain rfl : r = r' := by simpa [pending] using pending'
    cases half with
    | respmod => simp [state', Half.state] at state
    | options =>
      have h := arrives.concluded left isDone
      rw [Half.index, Round.reply_options] at h
      exact ⟨k, progress.concat rfl rfl,
        .writing (receiving.ask (sound k).bodyless (kept.limit.trans limit) served h)⟩
  case answer bytes r' verdict' _ _ pending' left isDone state' outcome _ _ =>
    obtain ⟨_, alone, arrives⟩ := receiving.arrives sound served
    obtain rfl : r = r' := by simpa [pending] using pending'
    cases half with
    | options => simp [state', Half.state] at state
    | respmod =>
      have h := arrives.concluded left isDone
      rw [Half.index, Round.reply_respmod] at h alone
      obtain rfl := Except.ok.inj (outcome.symm.trans h.outcome)
      refine ⟨k + 1, progress.answer ?_ ?_ rfl rfl, .idle (receiving.answer h)⟩
      · rw [receiving.number, alone]
      · rw [flatten_reads_concat rfl]
        exact h.due
  case answerLast bytes _ _ _ _ left isDone state' last =>
    obtain ⟨_, -, arrives⟩ := receiving.arrives sound served
    -- with such an outcome, a session that serves any number of scans goes on
    have outcome := (arrives.concluded left isDone).outcome
    exact absurd ⟨kept.reuse.trans reuse, by rw [outcome]; rfl, progress.released⟩ last
  case hangUp event => rcases event with rfl | rfl <;> cases orderly
  all_goals first | exact False.elim orderly | simp_all

/-! ## Whole runs -/

variable {number : Nat} {route : Route} {t : Instant}

/-- **Where a run stands.** An orderly run has brought some rounds to an end, and is at a turn of
the next one. -/
theorem turn_of_run (sound : ∀ j, (rounds j).IsSound settings)
    (run : Run settings (start settings number route true t) es s)
    (orderly : ∀ x ∈ es, x.event.IsOrderly) (inTime : ∀ x ∈ es, InTime settings x.now)
    (served : IsServed rounds es) :
    ∃ k, Progress settings rounds k es s ∧ Turn settings rounds k es s := by
  induction run with
  | start =>
    exact ⟨0, ⟨rfl, rfl, by simp, by simp⟩, .idle ⟨rfl, ⟨_, rfl⟩, rfl, rfl, rfl, rfl, rfl⟩⟩
  | step run h ih =>
    rw [List.forall_mem_append] at orderly inTime
    have rule := (step_of_step? h).rule (inTime.2 _ List.mem_cons_self)
    have kept := run.kept
    have last := orderly.2 _ List.mem_cons_self
    -- what happened before the last event was orderly, and was served
    obtain ⟨k, progress, turn⟩ := ih orderly.1 inTime.1 served.of_concat
    cases turn with
    | idle idle =>
      obtain ⟨turn, quiet, released⟩ := idle.turn rule last served
      exact ⟨k, progress.concat quiet released, turn⟩
    | claimed claimed =>
      obtain ⟨turn, quiet, released⟩ := claimed.turn kept rfl rule last served
      exact ⟨k, progress.concat quiet released, turn⟩
    | writing writing =>
      obtain ⟨turn, quiet, released⟩ :=
        writing.turn (Round.IsSound.core_ne_nil sound) rule last
      exact ⟨k, progress.concat quiet released, turn⟩
    | receiving receiving =>
      exact receiving.turn kept rfl rfl sound progress rule last served

/-- At any turn of a round, not all has arrived that its verdict needs. -/
theorem Turn.length_lt (turn : Turn settings rounds k es s)
    (core_ne : ∀ i, (reply rounds i).core ≠ []) :
    (reads es).flatten.length < (due rounds k).length := by
  have hk := List.length_pos_iff.mpr (core_ne (2 * k + 1))
  rw [Round.reply_respmod] at hk
  have options : (stream rounds (2 * k)).length ≤ (stream rounds (2 * k + 1)).length :=
    Round.length_stream_le (Nat.le_succ _)
  rw [due, List.length_append]
  cases turn with
  | idle idle =>
    have := congrArg List.length idle.bytes
    rw [List.length_append] at this
    omega
  | claimed claimed =>
    have := congrArg List.length claimed.bytes
    rw [List.length_append] at this
    omega
  | @writing half _ writing =>
    have := congrArg List.length writing.bytes
    rw [List.length_append] at this
    cases half <;> simp only [Half.index] at this <;> omega
  | @receiving half _ part receiving =>
    have := congrArg List.length receiving.bytes
    simp only [List.length_append] at this
    have hlt := Nat.lt_of_le_of_ne receiving.part_within.length_le
      fun h => receiving.part_ne (receiving.part_within.eq_of_length h)
    -- while the first response is read, all of the second one is to come
    cases half with
    | options =>
      simp only [Half.index] at this hlt
      rw [Round.stream_succ, List.length_append, List.length_append]
      omega
    | respmod =>
      simp only [Half.index, Round.reply_respmod] at this hlt
      omega

theorem due_length_le {j k : Nat} (h : j ≤ k) :
    (due rounds j).length ≤ (due rounds k).length := by
  rcases Nat.eq_or_lt_of_le h with rfl | hlt
  · exact Nat.le_refl _
  · have later : (stream rounds (2 * j + 1 + 1)).length ≤ (stream rounds (2 * k + 1)).length :=
      Round.length_stream_le (by omega)
    rw [Round.stream_succ, Round.reply_respmod] at later
    simp only [due, List.length_append] at later ⊢
    omega

/-- **Every scan comes to what its own response says.** A session that serves any number of scans
has told, in the order of the scans, the outcomes of exactly those responses that have arrived up to
the ends of their bodies, each as if it had been read alone; and it is connected after each. This
takes a clock that can tell the end of its patience. -/
theorem answers_eq_of_isServed (sound : ∀ j, (rounds j).IsSound settings)
    (run : Run settings (start settings number route true t) es s)
    (orderly : ∀ x ∈ es, x.event.IsOrderly) (inTime : ∀ x ∈ es, InTime settings x.now)
    (served : IsServed rounds es) :
    ∃ k, answers es = (List.range k).map (fun j =>
        (j + 1, (rounds j).response.outcome settings.vendor settings.maxHeader)) ∧
      (∀ j, j < k ↔ due rounds j <+: (reads es).flatten) ∧
      ∀ x, es.getLast? = some x → x.effects.filterMap Effect.answer? ≠ [] →
        s.state = .connected := by
  obtain ⟨k, progress, turn⟩ := turn_of_run sound run orderly inTime served
  refine ⟨k, progress.answers_eq, fun j => ⟨progress.due_arrived j, fun arrived => ?_⟩,
    progress.connected⟩
  have hlt := turn.length_lt (Round.IsSound.core_ne_nil sound)
  by_contra hj
  have later : (due rounds k).length ≤ (due rounds j).length :=
    due_length_le (Nat.le_of_not_lt hj)
  have := arrived.length_le
  omega

/-! ### Two scans -/

instance : DecidablePred Event.IsOrderly
  | .scan _ _ | .command | .read _ | .accepted _ | .flushed => isTrue trivial
  | .close | .letGo | .released | .endOfStream | .readFailed | .idle | .writeFailed _
  | .writeExpired | .shut | .destroyed => isFalse id

instance : Decidable (IsServed rounds es) :=
  decidable_of_iff (∀ before ∈ es.inits, (reads before).flatten <+: stream rounds (flushes before))
    (by simp [IsServed])

/-- What the scans are answered with. -/
def sampleRound : Round where
  options := { head := bodyless }
  response :=
    { head := Utf8.encode "ICAP/1.0 200 OK\r\nEncapsulated: res-body=0\r\n\r\n"
      chunk := some ⟨Utf8.encode "1\r\n", Utf8.encode "A"⟩ }

theorem isSound_sampleRound : sampleRound.IsSound { userAgent := "u" } where
  options :=
    { head := by decide +kernel
      httpHead := by simp [sampleRound]
      chunk := by simp [sampleRound]
      announced := ⟨"ICAP/1.0 200 OK\r\nEncapsulated: null-body=0".toList,
        ⟨"Encapsulated", "null-body=0"⟩, 1, { nullBody := some 0 }, by decide +kernel⟩
      verdict := ⟨{}, by decide +kernel⟩ }
  bodyless := rfl
  response :=
    { head := by decide +kernel
      httpHead := by simp [sampleRound]
      chunk := by
        rintro c ⟨⟩
        refine ⟨by decide +kernel, by decide +kernel, ⟨['1'], ⟨1, none⟩, ?_⟩, by decide +kernel⟩
        decide +kernel
      announced := ⟨"ICAP/1.0 200 OK\r\nEncapsulated: res-body=0".toList,
        ⟨"Encapsulated", "res-body=0"⟩, 1, { resBody := some 0 }, by decide +kernel⟩
      verdict := ⟨{ disposition := some .clean, bytes := some [65] }, by decide +kernel⟩ }

theorem answers_eq_of_isServed_twoScans :
    ∃ es s, Run { userAgent := "u" } sample es s ∧ (∀ x ∈ es, x.event.IsOrderly) ∧
      (∀ x ∈ es, InTime { userAgent := "u" } x.now) ∧
      IsServed (fun _ => sampleRound) es ∧ (answers es).length = 2 ∧
      ∃ k, answers es = (List.range k).map (fun j =>
          (j + 1, sampleRound.response.outcome .violations 65536)) ∧
        (∀ j, j < k ↔ due (fun _ => sampleRound) j <+: (reads es).flatten) ∧
        ∀ x, es.getLast? = some x → x.effects.filterMap Effect.answer? ≠ [] →
          s.state = .connected := by
  have h : (play? { userAgent := "u" } sample twoScans).elim false (fun played =>
      (∀ x ∈ played.1, x.event.IsOrderly) ∧
        (∀ x ∈ played.1, InTime { userAgent := "u" } x.now) ∧
        IsServed (fun _ => sampleRound) played.1 ∧ (answers played.1).length = 2) = true := by
    decide +kernel
  obtain ⟨es, s, run, found⟩ := exists_run_of_play? h
  obtain ⟨orderly, inTime, served, told⟩ := of_decide_eq_true found
  exact ⟨es, s, run, orderly, inTime, served, told,
    answers_eq_of_isServed (fun _ => isSound_sampleRound) run orderly inTime served⟩

/-! ### A scan that is broken off -/

/-- The OPTIONS request of a scan is written. -/
def asked : List (Instant × Event) :=
  [(1, .scan "a" [65]), (2, .command),
    (3, .accepted (endless.agent.options ⟨"h", 1, "s"⟩).length), (4, .flushed)]

/-- **Without such a clock a scan may have no outcome.** There are settings that are accepted, and
with them, whatever the server is to answer, the task ends when it has written the OPTIONS request:
the end of its new patience is not on the clock. No outcome is told, and the session is not
connected afterwards. -/
theorem exists_broken_off :
    ∃ settings es s, Settings.read lasting = .ok settings ∧ settings.check = .ok () ∧
      sampleRound.IsSound settings ∧
      Run settings (start settings 1 ⟨"h", 1, "s"⟩ true 0) es s ∧
      (∀ x ∈ es, x.event.IsOrderly) ∧ IsServed (fun _ => sampleRound) es ∧
      .replied (.ok (.promised 1)) ∈ effects es ∧ .dropped 1 ∈ effects es ∧ answers es = [] ∧
      s.activity = .ended ∧ s.state = .awaitingOptions := by
  have h : (play? endless (start endless 1 ⟨"h", 1, "s"⟩ true 0) asked).elim false (fun played =>
      (∀ x ∈ played.1, x.event.IsOrderly) ∧ IsServed (fun _ => sampleRound) played.1 ∧
        .replied (.ok (.promised 1)) ∈ effects played.1 ∧ .dropped 1 ∈ effects played.1 ∧
        (answers played.1).isEmpty ∧ played.2.activity = .ended ∧
        played.2.state = .awaitingOptions) = true := by
    decide +kernel
  obtain ⟨es, s, run, found⟩ := exists_run_of_play? h
  obtain ⟨orderly, served, promised, dropped, untold, ended, state⟩ := of_decide_eq_true found
  exact ⟨endless, es, s, read_lasting, rfl,
    ⟨isSound_sampleRound.options, rfl, isSound_sampleRound.response⟩, run, orderly, served,
    promised, dropped, List.isEmpty_iff.mp untold, ended, state⟩

end Session

end Icap
