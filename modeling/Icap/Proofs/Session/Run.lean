import Icap.Proofs.Response.Pieces
import Icap.Proofs.Session.Step

/-!
# Runs of a session

A run is any number of events, one after the other, each of which can happen when it happens. Its
history tells of every event when it was and what it brought about.

* `Run` — the runs from a session.
* `Run.kept` — what no run changes.
* `Run.eq_of_number_eq` — two scans that have been started have two numbers.
-/

namespace Icap.Session

/-- An event in the history of a session. -/
structure Entry where
  now : Instant
  event : Event
  effects : List Effect

/-- The runs from a session, each with its history. -/
inductive Run (settings : Settings) (s₀ : Session) : List Entry → Session → Prop
  | start : Run settings s₀ [] s₀
  | step {es s now e s' effects} (run : Run settings s₀ es s)
      (h : s.step? settings now e = some (s', effects)) :
      Run settings s₀ (es ++ [⟨now, e, effects⟩]) s'

variable {settings : Settings} {s₀ s s' : Session} {es : List Entry} {x : Entry}

/-! ## Histories -/

/-- All that a history brought about. -/
def effects (es : List Entry) : List Effect := es.flatMap Entry.effects

/-- The bytes that an effect tells of. -/
def Effect.bytes : Effect → Bytes
  | .sent bytes => bytes
  | _ => []

/-- The bytes that the connection has taken. -/
def sent (es : List Entry) : Bytes := (effects es).flatMap Effect.bytes

/-- The bytes that an event brings. -/
def Event.read? : Event → Option Bytes
  | .read bytes => some bytes
  | _ => none

/-- What has been read, read by read. -/
def reads (es : List Entry) : List Bytes := es.filterMap fun x => x.event.read?

/-- A scan has been started, and its outcome is to follow. -/
def Started (r : ScanRequest) (es : List Entry) : Prop :=
  ∃ x ∈ es, x.event = .scan r.filename r.payload ∧
    x.effects = [.replied (.ok (.promised r.number))]

instance (r : ScanRequest) (es : List Entry) : Decidable (Started r es) :=
  inferInstanceAs (Decidable (∃ x ∈ es, _))

@[simp] theorem effects_append (es es' : List Entry) :
    effects (es ++ es') = effects es ++ effects es' := List.flatMap_append

@[simp] theorem effects_singleton (x : Entry) : effects [x] = x.effects := by simp [effects]

@[simp] theorem sent_append (es es' : List Entry) : sent (es ++ es') = sent es ++ sent es' := by
  simp [sent]

@[simp] theorem reads_append (es es' : List Entry) :
    reads (es ++ es') = reads es ++ reads es' := List.filterMap_append

theorem Started.append {r : ScanRequest} (h : Started r es) (es' : List Entry) :
    Started r (es ++ es') := by
  obtain ⟨x, hx, hs⟩ := h
  exact ⟨x, List.mem_append_left es' hx, hs⟩

theorem started_concat {r : ScanRequest} : Started r (es ++ [x]) ↔
    Started r es ∨
      x.event = .scan r.filename r.payload ∧ x.effects = [.replied (.ok (.promised r.number))] := by
  simp [Started, or_and_right, exists_or]

/-! ## Playing events -/

/-- The history and the end of the run that goes through events, if all of them can happen. -/
def play? (settings : Settings) (s : Session) :
    List (Instant × Event) → Option (List Entry × Session)
  | [] => some ([], s)
  | (now, e) :: more =>
    match s.step? settings now e with
    | none => none
    | some (s, effects) =>
      (play? settings s more).map fun (es, s) => (⟨now, e, effects⟩ :: es, s)

theorem Run.cons {now : Instant} {e : Event} {effects : List Effect}
    (h : s₀.step? settings now e = some (s, effects)) (run : Run settings s es s') :
    Run settings s₀ (⟨now, e, effects⟩ :: es) s' := by
  induction run with
  | start => exact .step .start h
  | step run h' ih => exact .step ih h'

theorem Run.append {es' : List Entry} (run : Run settings s₀ es s) (later : Run settings s es' s') :
    Run settings s₀ (es ++ es') s' := by
  induction later with
  | start => rwa [List.append_nil]
  | step later h ih =>
    rw [← List.append_assoc]
    exact ih.step h

/-- A run can be stopped at any point of its history. -/
theorem Run.exists_of_append {es' : List Entry} (run : Run settings s₀ (es ++ es') s') :
    ∃ s, Run settings s₀ es s ∧ Run settings s es' s' := by
  generalize heq : es ++ es' = all at run
  induction run generalizing es' with
  | start =>
    obtain ⟨rfl, rfl⟩ := List.append_eq_nil_iff.mp heq
    exact ⟨s₀, .start, .start⟩
  | @step all s₁ now e s₂ effects run h ih =>
    rcases List.eq_nil_or_concat' es' with rfl | ⟨later, x, rfl⟩
    · rw [List.append_nil] at heq
      subst heq
      exact ⟨s₂, run.step h, .start⟩
    · rw [← List.append_assoc] at heq
      obtain ⟨rfl, hx⟩ := List.append_inj' heq rfl
      obtain rfl := List.singleton_inj.mp hx
      obtain ⟨s, first, second⟩ := ih rfl
      exact ⟨s, first, second.step h⟩

/-- The event in the middle of a history is a step. -/
theorem Run.exists_of_cons {es' : List Entry} (run : Run settings s₀ (es ++ x :: es') s') :
    ∃ s t, Run settings s₀ es s ∧ s.step? settings x.now x.event = some (t, x.effects) ∧
      Run settings t es' s' := by
  rw [← List.singleton_append, ← List.append_assoc] at run
  obtain ⟨t, first, later⟩ := run.exists_of_append
  generalize heq : es ++ [x] = all at first
  cases first with
  | start => simp at heq
  | step before h =>
    obtain ⟨rfl, hx⟩ := List.append_inj' heq rfl
    obtain rfl := List.singleton_inj.mp hx
    exact ⟨_, t, before, h, later⟩

theorem run_of_play? {events : List (Instant × Event)}
    (h : play? settings s events = some (es, s')) : Run settings s es s' := by
  induction events generalizing s es with
  | nil =>
    cases h
    exact .start
  | cons event more ih =>
    obtain ⟨now, e⟩ := event
    simp only [play?] at h
    split at h
    · cases h
    next s₁ effects step =>
      obtain ⟨⟨es', s''⟩, play, heq⟩ := Option.map_eq_some_iff.mp h
      cases heq
      exact (ih play).cons step

/-- A run that goes through events, and what has been found out about it. -/
theorem exists_run_of_play? {events : List (Instant × Event)} {P : List Entry × Session → Bool}
    (h : (play? settings s events).elim false P = true) :
    ∃ es s', Run settings s es s' ∧ P (es, s') = true := by
  cases play : play? settings s events with
  | none => simp [play] at h
  | some played =>
    rw [play, Option.elim_some] at h
    exact ⟨played.1, played.2, run_of_play? play, h⟩

/-! ### Two scans -/

/-- A session that serves any number of scans. -/
def sample : Session := start { userAgent := "u" } 1 ⟨"h", 1, "s"⟩ true 0

/-- A response without a body. -/
def bodyless : Bytes := Utf8.encode "ICAP/1.0 200 OK\r\nEncapsulated: null-body=0\r\n\r\n"

/-- A response with a body, up to the end of the chunk. -/
def chunked : Bytes := Utf8.encode "ICAP/1.0 200 OK\r\nEncapsulated: res-body=0\r\n\r\n1\r\nA"

/-- Two scans, one after the other. The end of the first one's response arrives in two parts, the
second of them together with what follows, and a user asks for a third scan in between. -/
def twoScans : List (Instant × Event) :=
  [(1, .scan "a" [65]), (2, .command), (3, .accepted 82), (4, .flushed), (5, .read bodyless),
    (6, .accepted 176), (7, .flushed), (8, .read chunked),
    (9, .scan "b" [66]), (10, .read [13, 10, 48]), (11, .command), (12, .accepted 82),
    (13, .flushed), (14, .read ([13, 10, 13, 10] ++ bodyless.take 20)), (15, .scan "c" [67]),
    (16, .read (bodyless.drop 20)), (17, .accepted 100), (18, .accepted 76), (19, .flushed),
    (20, .read (chunked.take 30)), (21, .read (chunked.drop 30 ++ [13]))]

/-! ### Settings that lead off the clock -/

/-- As many seconds as a number of seconds may count. -/
def longest : Duration := Duration.ofSeconds (Text.word - 1)

/-- An inactivity timeout that is a number of seconds, as great as may be. -/
def lasting : Document := .map [(.text "inactivity_timeout", .text "18446744073709551615")]

/-- The settings of this document. No instant is so early that this timeout ends on the clock. -/
def endless : Settings := { inactivityTimeout := longest }

theorem read_lasting : Settings.read lasting = .ok endless := by decide +kernel

/-! ## What does not change -/

/-- What a session keeps for as long as it is there. -/
structure Kept (s s' : Session) : Prop where
  route : s'.route = s.route
  reuse : s'.reuse = s.reuse
  limit : s'.response.limit = s.response.limit

theorem kept_of_rule {now : Instant} {e : Event} {effects : List Effect}
    (rule : Rule settings now s e s' effects) : Kept s s' := by
  cases rule <;> constructor <;> simp [close, listening, write, skipped, gathered, answered,
    Response.reset, Response.fresh]

theorem kept_of_step {now : Instant} {e : Event} {effects : List Effect}
    (step : Step settings now s e s' effects) : Kept s s' := by
  cases step with
  | whole rule => exact kept_of_rule rule
  | breakOff rule =>
    obtain ⟨route, reuse, limit⟩ := kept_of_rule rule
    exact ⟨route, reuse, limit⟩

theorem Run.kept (run : Run settings s₀ es s) : Kept s₀ s := by
  induction run with
  | start => exact ⟨rfl, rfl, rfl⟩
  | step run h ih =>
    have hk := kept_of_step (step_of_step? h)
    exact ⟨hk.route.trans ih.route, hk.reuse.trans ih.reuse, hk.limit.trans ih.limit⟩

/-! ## Numbers of scans -/

theorem commands_le_of_rule {now : Instant} {e : Event} {effects : List Effect}
    (rule : Rule settings now s e s' effects) : s.commands ≤ s'.commands := by
  cases rule <;> simp [close, listening, write, skipped, gathered, answered]

theorem commands_le_of_step {now : Instant} {e : Event} {effects : List Effect}
    (step : Step settings now s e s' effects) : s.commands ≤ s'.commands := by
  cases step with
  | whole rule => exact commands_le_of_rule rule
  | breakOff rule =>
    have le := commands_le_of_rule rule
    exact le

/-- A scan that is started has the next number. -/
theorem number_of_step {now : Instant} {e : Event} {effects : List Effect} {filename : String}
    {payload : Bytes} {n : Nat} (step : Step settings now s e s' effects)
    (event : e = .scan filename payload) (reply : effects = [.replied (.ok (.promised n))]) :
    n = s.commands + 1 ∧ n = s'.commands := by
  subst event
  cases step with
  | breakOff _ unused => exact absurd trivial unused
  | whole rule =>
    cases rule with
    | refuse | ready | orphan => cases reply
    | claim =>
      cases reply
      exact ⟨rfl, rfl⟩
    | hangUp _ gone => rcases gone with gone | gone <;> cases gone

theorem Run.number_le (run : Run settings s₀ es s) {r : ScanRequest} (h : Started r es) :
    r.number ≤ s.commands := by
  induction run with
  | start => obtain ⟨x, hx, -⟩ := h; cases hx
  | step run step ih =>
    have step := step_of_step? step
    rcases started_concat.mp h with earlier | ⟨event, reply⟩
    · exact Nat.le_trans (ih earlier) (commands_le_of_step step)
    · exact Nat.le_of_eq (number_of_step step event reply).2

/-- **A number tells which scan it is.** -/
theorem Run.eq_of_number_eq (run : Run settings s₀ es s) {r r' : ScanRequest}
    (h : Started r es) (h' : Started r' es) (number : r.number = r'.number) : r = r' := by
  induction run with
  | start => obtain ⟨x, hx, -⟩ := h; cases hx
  | step run step ih =>
    have step := step_of_step? step
    -- a scan that has just been started has a number beyond all earlier ones
    rcases started_concat.mp h with earlier | ⟨event, reply⟩
    · rcases started_concat.mp h' with earlier' | ⟨event', reply'⟩
      · exact ih earlier earlier'
      · have := run.number_le earlier
        have := (number_of_step step event' reply').1
        omega
    · rcases started_concat.mp h' with earlier' | ⟨event', -⟩
      · have := run.number_le earlier'
        have := (number_of_step step event reply).1
        omega
      · obtain ⟨filename, payload⟩ := Event.scan.inj (event.symm.trans event')
        exact (ScanRequest.mk.injEq ..).mpr ⟨number, filename, payload⟩

/-! ## Bytes that are written -/

@[simp] theorem bytes_tell (s : Session) (outcome : Outcome) :
    (s.tell outcome).flatMap Effect.bytes = [] := by
  simp [tell, Effect.bytes]

@[simp] theorem bytes_dropPending (s : Session) : s.dropPending.flatMap Effect.bytes = [] := by
  simp [dropPending, Effect.bytes]

@[simp] theorem bytes_dropQueue (s : Session) : s.dropQueue.flatMap Effect.bytes = [] := by
  simp only [dropQueue, List.flatMap_eq_nil_iff, List.mem_filterMap]
  rintro _ ⟨_ | _, -, heq⟩ <;> cases heq
  rfl

theorem exists_writing_of_rule {now : Instant} {e : Event} {effects : List Effect}
    (rule : Rule settings now s e s' effects) (wrote : effects.flatMap Effect.bytes ≠ []) :
    ∃ count left patience, s.activity = .writing left patience ∧
      s'.activity = .writing (left.drop count) patience ∧ effects = [.sent (left.take count)] := by
  cases rule
  case accept count left patience activity _ _ => exact ⟨count, left, patience, activity, rfl, rfl⟩
  all_goals exact absurd (by simp [Effect.bytes]) wrote

/-- **Bytes are written of what the task has left to write, and of nothing else.** -/
theorem exists_writing_of_step {now : Instant} {e : Event} {effects : List Effect}
    (step : Step settings now s e s' effects) (wrote : effects.flatMap Effect.bytes ≠ []) :
    ∃ count left patience, s.activity = .writing left patience ∧
      s'.activity = .writing (left.drop count) patience ∧ effects = [.sent (left.take count)] := by
  cases step with
  | whole rule => exact exists_writing_of_rule rule wrote
  | breakOff rule _ late =>
    rw [List.flatMap_append, finish_snd, List.flatMap_append, bytes_dropPending, bytes_dropQueue,
      List.append_nil, List.append_nil] at wrote
    obtain ⟨_, _, _, -, writing, -⟩ := exists_writing_of_rule rule wrote
    cases writing.symm.trans late

/-! ## The halves of a scan -/

/-- A request and its response. -/
inductive Half
  | options
  | respmod

/-- The state of a session from the start of a half to its end. -/
def Half.state : Half → SessionState
  | .options => .awaitingOptions
  | .respmod => .awaitingScan

theorem Half.state_ne (half : Half) : half.state ≠ .connected ∧ half.state ≠ .disconnected := by
  cases half <;> simp [Half.state]

end Icap.Session
