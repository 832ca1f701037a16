import Icap.Proofs.Session.Wire

/-!
# Bytes on their way

A server may send bytes at any time, and they are on their way until the session reads them. When it
reads them is up to the task: of a command and of bytes that wait, it may take either first. Bytes
that are read while no scan is worked on are dropped. But bytes that are still on their way when the
OPTIONS request of a scan has been written are read as the response to it, whenever they were sent.

* `hearing_of_run` — what the response of a session is made of, at every point of a run.
* `Traffic` — the runs of a session with its connection, with all that a server sends.
* `traffic_of_run` — all that a session reads may have been sent before anything has happened to it.
* `heard_of_traffic` — which bytes are read as a response.
* `exists_stale_verdict` — a verdict that was sent before there was a scan.
-/

namespace Icap.Session

open Response (fresh feedAll)
open Terminator (skipAll)

variable {settings : Settings} {now : Instant} {s₀ s s' t : Session} {e : Event} {fx : List Effect}
  {es es' part : List Entry} {x : Entry} {r : ScanRequest} {owed : Nat} {bytes : Bytes}

/-! ## What a response is made of -/

/-- The response of a session is made of the reads of a history, beyond what was owed before, and of
nothing else. -/
structure Hears (settings : Settings) (s₀ : Session) (owed : Nat) (s : Session)
    (part : List Entry) : Prop where
  owed_eq : s.owed = (skipAll owed (reads part)).1
  response_eq : s.response =
    feedAll settings.vendor (fresh s₀.response.limit) (skipAll owed (reads part)).2

namespace Hears

theorem nil (response : s.response = fresh s₀.response.limit) : Hears settings s₀ s.owed s [] where
  owed_eq := rfl
  response_eq := response

/-- An event that reads nothing. -/
theorem concat (h : Hears settings s₀ owed s part) (hx : x.event.read? = none)
    (owed_eq : s'.owed = s.owed) (response_eq : s'.response = s.response) :
    Hears settings s₀ owed s' (part ++ [x]) := by
  have quiet : reads (part ++ [x]) = reads part := by simp [reads, hx]
  constructor
  · rw [quiet, owed_eq, h.owed_eq]
  · rw [quiet, response_eq, h.response_eq]

/-- A read inside what is owed. -/
theorem concat_skipped (h : Hears settings s₀ owed s part) (hx : x.event = .read bytes)
    (left : (Terminator.skip s.owed bytes).2 = []) :
    Hears settings s₀ owed (s.skipped bytes) (part ++ [x]) := by
  have more : reads (part ++ [x]) = reads part ++ [bytes] := by simp [reads, hx, Event.read?]
  rw [h.owed_eq] at left
  constructor <;> rw [more, Terminator.skipAll_concat]
  · rw [skipped, h.owed_eq]
  · rw [if_pos left]
    exact h.response_eq

/-- A read that goes beyond what is owed. -/
theorem concat_gathered (h : Hears settings s₀ owed s part) (hx : x.event = .read bytes)
    (left : (Terminator.skip s.owed bytes).2 ≠ []) :
    Hears settings s₀ owed (s.gathered settings bytes) (part ++ [x]) := by
  have more : reads (part ++ [x]) = reads part ++ [bytes] := by simp [reads, hx, Event.read?]
  rw [h.owed_eq] at left
  constructor <;> rw [more, Terminator.skipAll_concat]
  · rw [gathered, h.owed_eq]
  · rw [if_neg left, feedAll, List.foldl_append]
    simp only [gathered, h.owed_eq, h.response_eq, List.foldl_cons, List.foldl_nil]
    rfl

end Hears

/-- What a session has made of the bytes that it has read. -/
inductive Hearing (settings : Settings) (s₀ : Session) (es : List Entry) (s : Session) : Prop
  /-- The task does nothing any more. -/
  | ended (isOver : IsOver s)
  /-- No scan is worked on, or a request is being written: all that has been read is dropped. -/
  | deaf (response : s.response = fresh s₀.response.limit)
      (busy : s.pending = none ∨ ∃ left patience, s.activity = .writing left patience)
  /-- A request has been written: all that has been read since is read as its response. -/
  | hears {r patience owed} (half : Half) (activity : s.activity = .listening patience)
      (pending : s.pending = some r)
      (history : Then (fun before => half.Asked settings s₀ r before ∧
        ∃ s, Run settings s₀ before s ∧ s.owed = owed) (Hears settings s₀ owed s) es)

theorem hearing_of_free (kept : Kept s₀ s) (rule : Rule settings now s e s' fx)
    (response : s.response = fresh s₀.response.limit) (pending : s.pending = none) :
    Hearing settings s₀ es s' := by
  cases rule
  case start =>
    refine .deaf ?_ (.inr ⟨_, _, rfl⟩)
    simp [write, Response.reset, kept.limit]
  case refuse | ready | claim | letGo | close | discard | accept | flush =>
    exact .deaf response (.inl pending)
  case orphan activity => exact .ended (.inr activity)
  case turnDown | obey | abandon | lapse | failWrite | expireWrite => exact .ended (.inl rfl)
  case hangUp | shut | destroy => exact .ended (.inr rfl)
  all_goals simp_all

theorem hearing_of_writing {left : Bytes} {patience : Deadline}
    (wire : Wire settings s₀ es s) (run : Run settings s₀ (es ++ [⟨now, e, fx⟩]) s')
    (rule : Rule settings now s e s' fx) (response : s.response = fresh s₀.response.limit)
    (activity : s.activity = .writing left patience) :
    Hearing settings s₀ (es ++ [⟨now, e, fx⟩]) s' := by
  cases rule
  case refuse | ready | claim | letGo | close =>
    exact .deaf response (.inr ⟨left, patience, activity⟩)
  case accept => exact .deaf response (.inr ⟨_, _, rfl⟩)
  case flush patience' activity' =>
    cases wire with
    | stopped isOver => rcases isOver with isOver | isOver <;> cases isOver.symm.trans activity
    | free _ activity'' | reading _ _ activity'' => cases activity''.symm.trans activity
    | writing half _ activity'' pending _ _ _ history =>
      obtain ⟨rfl, -⟩ : _ = [] ∧ _ = patience' := by simpa [activity''] using activity'
      have asked : half.Asked settings s₀ _ (es ++ [⟨now, .flushed, []⟩]) :=
        history.concat fun part h => ⟨part, _, rfl, by simpa using h, rfl⟩
      exact .hears half rfl pending (.nil ⟨asked, _, run, rfl⟩ (.nil response))
  case failWrite | expireWrite => exact .ended (.inl rfl)
  case destroy => exact .ended (.inr rfl)
  all_goals simp_all

theorem hearing_of_hears {half : Half} {patience : Deadline} (kept : Kept s₀ s)
    (rule : Rule settings now s e s' fx) (activity : s.activity = .listening patience)
    (pending : s.pending = some r)
    (history : Then (fun before => half.Asked settings s₀ r before ∧
      ∃ s, Run settings s₀ before s ∧ s.owed = owed) (Hears settings s₀ owed s) es) :
    Hearing settings s₀ (es ++ [⟨now, e, fx⟩]) s' := by
  cases rule
  case refuse | ready | claim | letGo | close =>
    exact .hears half activity pending (history.concat fun part h => h.concat rfl rfl rfl)
  case release =>
    exact .hears half rfl pending (history.concat fun part h => h.concat rfl rfl rfl)
  case skip left =>
    refine .hears half rfl pending (history.concat fun part h => ?_)
    exact ⟨(h.concat_skipped rfl left).owed_eq, (h.concat_skipped rfl left).response_eq⟩
  case gather left _ =>
    refine .hears half rfl pending (history.concat fun part h => ?_)
    exact ⟨(h.concat_gathered rfl left).owed_eq, (h.concat_gathered rfl left).response_eq⟩
  case start | ask =>
    refine .deaf ?_ (.inr ⟨_, _, rfl⟩)
    simp [write, gathered, Response.reset, kept.limit]
  case answer =>
    refine .deaf ?_ (.inl rfl)
    simp [listening, answered, gathered, Response.reset, kept.limit]
  case orphan activity' => cases activity'.symm.trans activity
  case turnDown | obey | abandon | refuseOptions | answerLast | answerLate | lapse =>
    exact .ended (.inl rfl)
  case hangUp | shut | destroy => exact .ended (.inr rfl)
  all_goals simp_all

variable {number : Nat} {route : Route} {reuse : Bool} {t₀ : Instant}

/-- **Only what is read behind a request becomes part of a response.** -/
theorem hearing_of_run (run : Run settings (start settings number route reuse t₀) es s) :
    Hearing settings (start settings number route reuse t₀) es s := by
  induction run with
  | start => exact .deaf rfl (.inl rfl)
  | step run h ih =>
    have step := step_of_step? h
    rcases step.rule_or_ended with rule | ended
    · cases ih with
      | ended isOver => exact .ended (isOver.step step).1
      | deaf response busy =>
        rcases busy with pending | ⟨left, patience, activity⟩
        · exact hearing_of_free run.kept rule response pending
        · exact hearing_of_writing (wire_of_run run) (run.step h) rule response activity
      | hears half activity pending history =>
        exact hearing_of_hears run.kept rule activity pending history
    · exact .ended (.inr ended)

/-! ## Both ends of a connection -/

/-- What happens on a connection: the server sends bytes, or something happens to the session. -/
inductive Moment
  | offer (bytes : Bytes)
  | entry (x : Entry)

/-- What has happened to the session. -/
def entries (ms : List Moment) : List Entry :=
  ms.filterMap fun
    | .offer _ => none
    | .entry x => some x

/-- The bytes that the server has sent. -/
def offered (ms : List Moment) : Bytes :=
  ms.flatMap fun
    | .offer bytes => bytes
    | .entry _ => []

/-- The runs of a session with its connection. The server sends bytes at any time; they are on their
way until the session reads them, in pieces of any size and in the order in which they were sent.
The last part is what is still on its way. -/
inductive Traffic (settings : Settings) (s₀ : Session) : List Moment → Session → Bytes → Prop
  | start : Traffic settings s₀ [] s₀ []
  | offer {ms s onWay} (traffic : Traffic settings s₀ ms s onWay) (bytes : Bytes) :
      Traffic settings s₀ (ms ++ [.offer bytes]) s (onWay ++ bytes)
  | step {ms s onWay now e s' fx} (traffic : Traffic settings s₀ ms s (e.read?.getD [] ++ onWay))
      (h : s.step? settings now e = some (s', fx)) :
      Traffic settings s₀ (ms ++ [.entry ⟨now, e, fx⟩]) s' onWay

variable {ms ms' : List Moment} {onWay : Bytes}

@[simp] theorem entries_append (ms ms' : List Moment) :
    entries (ms ++ ms') = entries ms ++ entries ms' := List.filterMap_append

@[simp] theorem offered_append (ms ms' : List Moment) :
    offered (ms ++ ms') = offered ms ++ offered ms' := List.flatMap_append

@[simp] theorem entries_offer (bytes : Bytes) : entries [.offer bytes] = [] := rfl

@[simp] theorem entries_entry (x : Entry) : entries [.entry x] = [x] := rfl

theorem flatten_reads_singleton (x : Entry) : (reads [x]).flatten = x.event.read?.getD [] := by
  cases h : x.event.read? <;> simp [reads, h]

namespace Traffic

/-- What happens to the session is a run. -/
theorem run (traffic : Traffic settings s₀ ms s onWay) : Run settings s₀ (entries ms) s := by
  induction traffic with
  | start => exact .start
  | offer _ bytes ih =>
    rw [entries_append, entries_offer, List.append_nil]
    exact ih
  | step _ h ih =>
    rw [entries_append, entries_entry]
    exact ih.step h

/-- What the server has sent has been read or is on its way. -/
theorem offered_eq (traffic : Traffic settings s₀ ms s onWay) :
    offered ms = (reads (entries ms)).flatten ++ onWay := by
  induction traffic with
  | start => rfl
  | offer _ bytes ih =>
    rw [offered_append, ih, entries_append, entries_offer, List.append_nil, List.append_assoc]
    simp [offered]
  | step _ h ih =>
    rw [offered_append, ih, entries_append, entries_entry, reads_append, List.flatten_append,
      flatten_reads_singleton, List.append_assoc]
    simp [offered]

/-- A run can be stopped at any moment. -/
theorem exists_of_append (traffic : Traffic settings s₀ (ms ++ ms') s onWay) :
    ∃ t waiting, Traffic settings s₀ ms t waiting := by
  generalize heq : ms ++ ms' = all at traffic
  induction traffic generalizing ms' with
  | start =>
    obtain ⟨rfl, -⟩ := List.append_eq_nil_iff.mp heq
    exact ⟨s₀, [], .start⟩
  | @offer all t waiting traffic bytes ih =>
    rcases List.eq_nil_or_concat' ms' with rfl | ⟨later, m, rfl⟩
    · rw [List.append_nil] at heq
      subst heq
      exact ⟨_, _, traffic.offer bytes⟩
    · rw [← List.append_assoc] at heq
      exact ih (List.append_inj' heq rfl).1
  | @step all t waiting now e t' fx traffic h ih =>
    rcases List.eq_nil_or_concat' ms' with rfl | ⟨later, m, rfl⟩
    · rw [List.append_nil] at heq
      subst heq
      exact ⟨_, _, traffic.step h⟩
    · rw [← List.append_assoc] at heq
      exact ih (List.append_inj' heq rfl).1

end Traffic

/-- **All that a session reads may have been sent before anything has happened to it**, and more
may still be on its way. -/
theorem traffic_of_run (run : Run settings s₀ es s) (more : Bytes) :
    Traffic settings s₀ (.offer ((reads es).flatten ++ more) :: es.map .entry) s more := by
  induction run generalizing more with
  | start => exact .offer .start more
  | @step es s now e s' fx run h ih =>
    have traffic := ih (e.read?.getD [] ++ more)
    rw [reads_append, List.flatten_append, flatten_reads_singleton, List.append_assoc,
      List.map_append, ← List.cons_append]
    exact traffic.step h

/-! ## The bytes that are read as a response -/

/-- What has been read and what is still on its way had been on its way at some moment, or has been
sent since. -/
theorem Traffic.flow (first : Traffic settings s₀ ms t bytes)
    (traffic : Traffic settings s₀ (ms ++ ms') s onWay) :
    (reads (entries ms')).flatten ++ onWay = bytes ++ offered ms' := by
  have all := traffic.offered_eq
  rw [offered_append, first.offered_eq, entries_append, reads_append, List.flatten_append,
    List.append_assoc, List.append_assoc, List.append_cancel_left_eq] at all
  exact all.symm

/-- Behind either request of a scan stands its OPTIONS request. -/
theorem Half.Asked.exists_options {half : Half} (asked : half.Asked settings s₀ r es) :
    ∃ first between, es = first ++ between ∧ OptionsAsked settings s₀ r first ∧
      (half = .options → between = []) := by
  cases half with
  | options => exact ⟨es, [], (List.append_nil es).symm, asked, fun _ => rfl⟩
  | respmod =>
    obtain ⟨_, written, rfl, ⟨_, _, first, response, rfl, ⟨options, -⟩, -⟩, -⟩ := asked
    exact ⟨first, response ++ written, List.append_assoc .., options, by simp⟩

/-- The bytes that a session has read as the response to the request of a half. At first the OPTIONS
request of the scan was written, when `early` bytes of the server were on their way; in between,
unless it is the OPTIONS request itself, the request of the half was written, when the session was
`t`; and of what it has read after that, beyond what it owed, its response is made. -/
structure HeardSince (settings : Settings) (s₀ : Session) (r : ScanRequest) (half : Half)
    (first between after : List Moment) (t : Session) (early : Bytes) (s : Session)
    (onWay : Bytes) : Prop where
  options : OptionsAsked settings s₀ r (entries first)
  request : half.Asked settings s₀ r (entries (first ++ between))
  between_eq : half = .options → entries between = []
  /-- Since the OPTIONS request was written, the bytes that were on their way have been read, and
  then those that have been sent since. -/
  flow : (reads (entries (between ++ after))).flatten ++ onWay = early ++ offered (between ++ after)
  session : Run settings s₀ (entries (first ++ between)) t
  response_eq : s.response = feedAll settings.vendor (fresh s₀.response.limit)
    (skipAll t.owed (reads (entries after))).2

/-- **Which bytes are read as a response.** At every moment of every run of a session with its
connection, whatever the server sends and whenever it does, and whichever of the things that are
possible happens next:

* while the task listens and works on no scan, and while it writes a request, nothing of a response
  has been read, so all that has been read before is dropped;
* while it listens and works on a scan, its response is made of bytes that have been read since the
  OPTIONS request of the scan was written, beyond what is owed of the response before it. Those are
  the bytes that were on their way at that time, and then those that have been sent since.

So bytes that were read before the OPTIONS request was written are no part of a response to the
scan, and if none were on their way then, no bytes are that were sent before; but those that were on
their way are. -/
theorem heard_of_traffic
    (traffic : Traffic settings (start settings number route reuse t₀) ms s onWay) :
    (s.pending = none → (∃ patience, s.activity = .listening patience) →
      s.response = fresh settings.maxHeader) ∧
    (∀ left patience, s.activity = .writing left patience →
      s.response = fresh settings.maxHeader) ∧
    ∀ r patience, s.pending = some r → s.activity = .listening patience →
      ∃ half first between after t u early, ms = first ++ (between ++ after) ∧
        Traffic settings (start settings number route reuse t₀) first u early ∧
        HeardSince settings (start settings number route reuse t₀) r half first between after t
          early s onWay := by
  cases hearing_of_run traffic.run with
  | ended isOver =>
    refine ⟨?_, ?_, ?_⟩
    · rintro - ⟨patience, activity⟩
      rcases isOver with isOver | isOver <;> cases isOver.symm.trans activity
    · intro left patience activity
      rcases isOver with isOver | isOver <;> cases isOver.symm.trans activity
    · intro r patience _ activity
      rcases isOver with isOver | isOver <;> cases isOver.symm.trans activity
  | deaf response busy =>
    refine ⟨fun _ _ => response, fun _ _ _ => response, ?_⟩
    intro r patience pending activity
    rcases busy with free | ⟨left, patience, activity'⟩
    · cases free.symm.trans pending
    · cases activity'.symm.trans activity
  | hears half activity' pending' history =>
    refine ⟨?_, ?_, ?_⟩
    · intro free
      cases free.symm.trans pending'
    · intro left patience activity
      cases activity'.symm.trans activity
    · intro r patience pending activity
      obtain rfl := Option.some.inj (pending'.symm.trans pending)
      obtain ⟨before, part, split, ⟨asked, t, run, rfl⟩, heard⟩ := history
      obtain ⟨earlier, after, rfl, rfl, rfl⟩ := List.filterMap_eq_append_iff.mp split
      obtain ⟨_, _, split', options, between_eq⟩ := asked.exists_options
      obtain ⟨first, between, rfl, rfl, rfl⟩ := List.filterMap_eq_append_iff.mp split'
      rw [List.append_assoc] at traffic
      obtain ⟨u, early, first'⟩ := traffic.exists_of_append
      exact ⟨half, first, between, after, t, u, early, List.append_assoc .., first', options, asked,
        between_eq, first'.flow traffic, run, heard.response_eq⟩

/-- In the middle of a second scan, with all bytes sent before the first one. -/
theorem heard_of_traffic_midway :
    ∃ ms s, Traffic { userAgent := "u" } sample ms s (bodyless.drop 20) ∧
      s.pending = some ⟨2, "b", [66]⟩ ∧ s.activity = .listening (some 30000000014) ∧
      ((s.pending = none → (∃ patience, s.activity = .listening patience) →
          s.response = fresh 65536) ∧
        (∀ left patience, s.activity = .writing left patience → s.response = fresh 65536) ∧
        ∀ r patience, s.pending = some r → s.activity = .listening patience →
          ∃ half first between after t u early, ms = first ++ (between ++ after) ∧
            Traffic { userAgent := "u" } sample first u early ∧
            HeardSince { userAgent := "u" } sample r half first between after t early s
              (bodyless.drop 20)) := by
  have h : (play? { userAgent := "u" } sample (twoScans.take 14)).elim false (fun played =>
      played.2.pending = some ⟨2, "b", [66]⟩ ∧
        played.2.activity = .listening (some 30000000014)) = true := by
    decide +kernel
  obtain ⟨es, s, run, found⟩ := exists_run_of_play? h
  obtain ⟨pending, activity⟩ := by simpa using found
  have traffic := traffic_of_run run (bodyless.drop 20)
  exact ⟨_, s, traffic, pending, activity, heard_of_traffic traffic⟩

/-- **A verdict that was sent before there was a scan.** The server sends nothing after the first
moment, before any request has been written. The task takes commands first where it may, and both
scans have verdicts. -/
theorem exists_stale_verdict :
    ∃ bytes es s,
      Traffic { userAgent := "u" } sample (.offer bytes :: es.map .entry) s [] ∧
      Started ⟨1, "a", [65]⟩ es ∧ Started ⟨2, "b", [66]⟩ es ∧
      .answered 1 (.ok { disposition := some .clean, bytes := some [65] }) ∈ effects es ∧
      .answered 2 (.ok { disposition := some .clean, bytes := some [65] }) ∈ effects es := by
  have h : (play? { userAgent := "u" } sample twoScans).elim false (fun played =>
      Started ⟨1, "a", [65]⟩ played.1 ∧ Started ⟨2, "b", [66]⟩ played.1 ∧
        .answered 1 (.ok { disposition := some .clean, bytes := some [65] }) ∈ effects played.1 ∧
        .answered 2 (.ok { disposition := some .clean, bytes := some [65] }) ∈ effects played.1) =
      true := by
    decide +kernel
  obtain ⟨es, s, run, found⟩ := exists_run_of_play? h
  exact ⟨_, es, s, traffic_of_run run [], by simpa using found⟩

end Icap.Session
