import Icap.Proofs.Session.Alike
import Mathlib.Data.List.TakeWhile

/-!
# Dropping a scan changes nothing

Whoever has started a scan may lose interest in it: the promise of the outcome may be dropped, and
so may everything that holds the session. The server is none the wiser. The same bytes are written,
the same outcome is found, and all that is different is that the session does not wait for another
scan, and that a promise that has been dropped receives nothing.

* `Errand` — a session with a scan to do, and the caller's end of the scan.
* `Errand.Run` — what may become of it; the promise may be dropped at any time.
* `writtenFor` — what is written for a scan.
* `exists_run_on` — dropping holds nothing up.
* `unchanged_by_drops` — what dropping changes, and what not.
-/

namespace Icap

/-- A session with a scan to do, and the caller's end of the scan. -/
structure Errand where
  session : Session
  /-- What has come for the promise, unless the caller has dropped it. -/
  promise : Option Delivery

/-- What has come for the promise of a scan after effects: once something has come, that is it. -/
def Delivery.after (n : Nat) (fx : List Session.Effect) : Delivery → Delivery
  | .awaited => Session.delivery n fx
  | d => d

namespace Session

variable {settings : Settings} {now : Instant} {s s' s₀ : Session} {fx fx' : List Effect}
  {es : List Entry} {n : Nat} {e : Event}

/-! ## What is written for a scan -/

/-- The bytes that are written until a scan is settled. If nothing has been left to write when the
scan was started, they are written for the scan. -/
def writtenFor (n : Nat) (fx : List Effect) : Bytes :=
  (fx.takeWhile fun x => x.settled? != some n).flatMap Effect.bytes

/-- What effects do not tell of scans. -/
theorem Effect.of_not_isOfScan {x : Effect} (h : x.isOfScan = false) :
    x.settled? = none ∧ x.bytes = [] ∧ x.delivery? n = none := by
  cases x with
  | replied | shutDown => exact ⟨rfl, rfl, rfl⟩
  | sent | answered | dropped => cases h

theorem settled_told (fx : List Effect) : settled (told fx) = settled fx := by
  induction fx with
  | nil => rfl
  | cons x fx ih =>
    simp only [settled, told] at ih ⊢
    cases h : x.isOfScan with
    | true => rw [List.filter_cons_of_pos h, List.filterMap_cons, List.filterMap_cons, ih]
    | false =>
      rw [List.filter_cons_of_neg (by simp [h]), ih,
        List.filterMap_cons_none (Effect.of_not_isOfScan (n := 0) h).1]

theorem delivery_told (fx : List Effect) : delivery n (told fx) = delivery n fx := by
  simp only [delivery]
  congr 1
  induction fx with
  | nil => rfl
  | cons x fx ih =>
    simp only [told] at ih ⊢
    cases h : x.isOfScan with
    | true => rw [List.filter_cons_of_pos h, List.findSome?_cons, List.findSome?_cons, ih]
    | false =>
      rw [List.filter_cons_of_neg (by simp [h]), ih, List.findSome?_cons,
        (Effect.of_not_isOfScan h).2.2]

theorem writtenFor_told (fx : List Effect) : writtenFor n (told fx) = writtenFor n fx := by
  induction fx with
  | nil => rfl
  | cons x fx ih =>
    simp only [writtenFor, told] at ih ⊢
    cases h : x.isOfScan with
    | true =>
      rw [List.filter_cons_of_pos h, List.takeWhile_cons, List.takeWhile_cons]
      split
      · rw [List.flatMap_cons, List.flatMap_cons, ih]
      · rfl
    | false =>
      obtain ⟨unsettled, quiet, -⟩ := Effect.of_not_isOfScan (n := 0) h
      rw [List.filter_cons_of_neg (by simp [h]), ih,
        List.takeWhile_cons_of_pos (by simp [unsettled]), List.flatMap_cons, quiet, List.nil_append]

/-- What effects have told of a scan is not changed by what is told later, once it is settled. -/
theorem eq_of_prefix (h : fx <+: fx') (done : n ∈ settled fx) :
    writtenFor n fx = writtenFor n fx' ∧ delivery n fx = delivery n fx' := by
  obtain ⟨more, rfl⟩ := h
  obtain ⟨x, hx, settles⟩ := mem_settled.mp done
  constructor
  · have stops : (fx.takeWhile fun x => x.settled? != some n).length ≠ fx.length := fun all => by
      rw [← (List.takeWhile_prefix _).eq_of_length all] at hx
      simpa [settles] using List.mem_takeWhile_imp hx
    rw [writtenFor, writtenFor, List.takeWhile_append, if_neg stops]
  · have found : (fx.findSome? (Effect.delivery? n)).isSome = true := by
      rw [List.findSome?_isSome_iff]
      refine ⟨x, hx, ?_⟩
      by_contra none
      exact settled?_ne_of_delivery? (by simpa using none) settles
    rw [delivery, delivery, List.findSome?_append, Option.or_of_isSome found]

theorem writtenFor_prefix (h : fx <+: fx') : writtenFor n fx <+: writtenFor n fx' := by
  obtain ⟨more, rfl⟩ := h
  rw [writtenFor, writtenFor, List.takeWhile_append]
  split
  next all =>
    rw [(List.takeWhile_prefix _).eq_of_length all, List.flatMap_append]
    exact List.prefix_append ..
  next => exact List.prefix_refl _

theorem delivery_append (fx fx' : List Effect) :
    delivery n (fx ++ fx') = (delivery n fx).after n fx' := by
  simp only [delivery, List.findSome?_append]
  cases h : fx.findSome? (Effect.delivery? n) with
  | none => rfl
  | some d =>
    obtain ⟨x, -, hx⟩ := List.exists_of_findSome?_eq_some h
    cases x <;> simp only [Effect.delivery?] at hx
    case answered | dropped =>
      split at hx <;> cases hx
      rfl
    all_goals cases hx

/-! ## Scans that have been promised -/

variable {number : Nat} {route : Route} {reuse : Bool} {t₀ : Instant} {filename : String}
  {payload : Bytes}

theorem ledger_of_accepted
    (before : Run settings (start settings number route reuse t₀) es s)
    (accepted : s.step? settings now (.scan filename payload) =
      some (s₀, [.replied (.ok (.promised n))])) :
    Ledger [.replied (.ok (.promised n))] s₀ := by
  have tidy := (ledger_of_run before).tidy
  have step := step_of_step? accepted
  have number := (number_of_step step rfl rfl).2
  cases turnover_of_step tidy step with
  | start promised_eq _ _ after commands =>
    refine ⟨tidy.step step, ?_, List.nodup_singleton n, ?_⟩
    · rw [after, ← commands, ← number]
      exact .refl _
    · intro m hm
      obtain rfl := List.mem_singleton.mp hm
      exact Nat.le_of_eq number
  | settle promised_eq => cases promised_eq

/-- A scan that has been promised is settled or is held by its session. -/
theorem Ledger.mem_outstanding {es' : List Entry}
    (ledger : Ledger [.replied (.ok (.promised n))] s₀) (run : Run settings s₀ es' s')
    (unsettled : n ∉ settled (effects es')) : n ∈ s'.outstanding := by
  have all := (ledger.run run).perm
  rw [promised_append, settled_append] at all
  rcases List.mem_append.mp (all.mem_iff.mp (List.mem_append_left _ List.mem_cons_self)) with h | h
  · exact absurd h unsettled
  · exact h

theorem AtRest.outstanding_eq (rest : AtRest s) : s.outstanding = [] := by
  simp [outstanding, inWork, queued, rest.pending, rest.queue]

theorem orderly_of_accepted
    (before : Run settings (start settings number route reuse t₀) es s)
    (accepted : s.step? settings now (.scan filename payload) =
      some (s₀, [.replied (.ok (.promised n))])) : Orderly s₀ := by
  have fresh : Orderly (start settings number route reuse t₀) :=
    .of_not_released rfl (by rintro _ _ ⟨⟩)
  exact (orderly_of_run fresh before).step (step_of_step? accepted)

/-- A session that nobody holds and that has nothing to do comes to its end, or has. -/
theorem Orderly.closes (orderly : Orderly s) (free : s.held = false) (idle : s.outstanding = []) :
    IsOver s ∨ ∃ e, (e = .command ∨ e = .released) ∧
      ∀ now, ∃ s', s.step? settings now e = some (s', [.shutDown]) ∧ IsOver s' := by
  obtain ⟨inWork, queued⟩ := List.append_eq_nil_iff.mp idle
  have pending : s.pending = none := by simpa [Session.inWork] using inWork
  cases activity : s.activity with
  | closing => exact .inl (.inl activity)
  | ended => exact .inl (.inr activity)
  | writing left patience => simpa [pending] using orderly.writing left patience activity
  | listening patience =>
    right
    have released : s.released = false := Bool.eq_false_iff.mpr fun known => by
      rcases orderly.busy known with busy | gone | gone
      · simp [pending] at busy
      · cases gone.symm.trans activity
      · cases gone.symm.trans activity
    have quiet (t : Session) (none : t.pending = none) : t.shutDown.2 = [.shutDown] := by
      simp [dropPending, none]
    cases queue : s.queue with
    | nil =>
      have ends := quiet { s with released := true } pending
      refine ⟨.released, .inr rfl, fun now =>
        ⟨{ s with released := true }.shutDown.1, ?_, .inl rfl⟩⟩
      rw [step?_of_step
        ((Rule.abandon activity free released queue pending).step (.inr (by simp))), ends]
    | cons c more =>
      cases c with
      | scan r => simp [Session.queued, queue, Command.scan?] at queued
      | close =>
        have ends := quiet { s with queue := more } pending
        refine ⟨.command, .inl rfl, fun now => ⟨{ s with queue := more }.shutDown.1, ?_, .inl rfl⟩⟩
        rw [step?_of_step ((Rule.obey activity queue released).step (.inr (by simp))), ends]

theorem Alike.isOver {t : Session} (alike : Alike s t) (isOver : IsOver t) : IsOver s := by
  obtain ⟨held, released, activity, same⟩ := alike
  rcases isOver with closing | ended
  · obtain rfl := closing
    generalize hs : s.activity = a at same
    cases same
    exact .inl hs
  · exact .inr (same.eq_ended ended)

/-- Twins are alike as long as one of them has a scan to do. -/
theorem Twin.alike_of_outstanding {t : Session} (twin : Twin s t) (busy : n ∈ t.outstanding) :
    Alike s t := by
  cases twin with
  | alike alike => exact alike
  | parted parted =>
    rw [parted.right.outstanding_eq] at busy
    cases busy

/-- **Dropping holds nothing up.** What happens next besides users can happen in another run, too,
as long as the scan is not settled there. -/
theorem exists_next {more : List Event} {es₁ : List Entry} {t : Session} (orderly : Orderly s₀)
    (ledger : Ledger [.replied (.ok (.promised n))] s₀) (run : Run settings s₀ es s)
    (inTime : ∀ x ∈ es, ¬x.event.IsLapse) (clock : ∀ x ∈ es, InTime settings x.now)
    (run' : Run settings s₀ es₁ t) (clock' : ∀ x ∈ es₁, InTime settings x.now)
    (next : kept es = kept es₁ ++ e :: more) (unsettled : n ∉ settled (effects es₁))
    (held : e.IsUse → t.held = true) (onTime : InTime settings now) :
    ∃ t' fx, t.step? settings now e = some (t', fx) ∧ Entry.isOfUsers ⟨now, e, fx⟩ = false := by
  obtain ⟨before, u, _, _, _, _, first, before_eq, step, users, -, -, rfl⟩ :=
    run.exists_of_kept next
  rw [List.forall_mem_append, List.forall_mem_cons] at inTime clock
  have twin := (twin_of_runs orderly first run' before_eq.symm inTime.1 clock.1 clock').1
  have alike := twin.alike_of_outstanding (ledger.mem_outstanding run' unsettled)
  obtain ⟨t', fx, rule, users', -⟩ := exists_rule_of_alike alike (orderly_of_run orderly first)
    (orderly_of_run orderly run') ((step_of_step? step).rule clock.2.1) users inTime.2.1 held now
  exact ⟨t', fx, step?_of_step (rule.of_inTime onTime), users'⟩

end Session

namespace Errand

open Session (Entry kept effects settled delivery writtenFor told)

/-! ## What may become of an errand -/

/-- An event of the session, or the end of the caller's interest. -/
inductive Happening
  | entry (x : Entry)
  | dropPromise

/-- What happens to the session. -/
def entries (hs : List Happening) : List Entry :=
  hs.filterMap fun
    | .entry x => some x
    | .dropPromise => none

/-- All that has come of what happens to the session. -/
def outcomes (hs : List Happening) : List Session.Effect := effects (entries hs)

/-- What may become of an errand with the scan number `n`. -/
inductive Run (settings : Settings) (n : Nat) (x₀ : Errand) : List Happening → Errand → Prop
  | start : Run settings n x₀ [] x₀
  | event {hs : List Happening} {x : Errand} {now : Instant} {e : Session.Event} {s : Session}
      {fx : List Session.Effect} (run : Run settings n x₀ hs x)
      (h : x.session.step? settings now e = some (s, fx)) :
      Run settings n x₀ (hs ++ [.entry ⟨now, e, fx⟩]) ⟨s, x.promise.map (Delivery.after n fx)⟩
  | drop {hs : List Happening} {x : Errand} (run : Run settings n x₀ hs x)
      (there : x.promise.isSome = true) :
      Run settings n x₀ (hs ++ [.dropPromise]) { x with promise := none }

variable {settings : Settings} {n : Nat} {x₀ x x' y : Errand} {hs hs' : List Happening}

@[simp] theorem entries_append (hs hs' : List Happening) :
    entries (hs ++ hs') = entries hs ++ entries hs' := List.filterMap_append

@[simp] theorem entries_entry (x : Entry) : entries [.entry x] = [x] := rfl

@[simp] theorem entries_dropPromise : entries [.dropPromise] = [] := rfl

namespace Run

/-- The session does not notice the promise. -/
theorem session (run : Run settings n x₀ hs x) :
    Session.Run settings x₀.session (entries hs) x.session := by
  induction run with
  | start => exact .start
  | event run h ih =>
    rw [entries_append]
    exact ih.step h
  | drop run there ih =>
    rwa [entries_append, entries_dropPromise, List.append_nil]

theorem append (run : Run settings n x₀ hs x) (later : Run settings n x hs' y) :
    Run settings n x₀ (hs ++ hs') y := by
  induction later with
  | start => rwa [List.append_nil]
  | event later h ih =>
    rw [← List.append_assoc]
    exact ih.event h
  | drop later there ih =>
    rw [← List.append_assoc]
    exact ih.drop there

/-- A run can be stopped at any point. -/
theorem exists_of_append (run : Run settings n x₀ (hs ++ hs') x) :
    ∃ y, Run settings n x₀ hs y := by
  generalize heq : hs ++ hs' = all at run
  induction run generalizing hs' with
  | start =>
    obtain ⟨rfl, rfl⟩ := List.append_eq_nil_iff.mp heq
    exact ⟨x₀, .start⟩
  | event run h ih =>
    rcases List.eq_nil_or_concat' hs' with rfl | ⟨later, z, rfl⟩
    · rw [List.append_nil] at heq
      exact ⟨_, heq ▸ run.event h⟩
    · rw [← List.append_assoc] at heq
      exact ih (List.append_inj' heq rfl).1
  | drop run there ih =>
    rcases List.eq_nil_or_concat' hs' with rfl | ⟨later, z, rfl⟩
    · rw [List.append_nil] at heq
      exact ⟨_, heq ▸ run.drop there⟩
    · rw [← List.append_assoc] at heq
      exact ih (List.append_inj' heq rfl).1

/-- **A promise that has been dropped receives nothing**, any other one what has become of the
scan. -/
theorem promise_eq (run : Run settings n x₀ hs x) (fresh : x₀.promise = some .awaited) :
    (.dropPromise ∈ hs → x.promise = none) ∧
      (.dropPromise ∉ hs → x.promise = some (delivery n (outcomes hs))) := by
  induction run with
  | start => exact ⟨fun mem => absurd mem List.not_mem_nil, fun _ => fresh⟩
  | @event hs x now e s fx run h ih =>
    have same : .dropPromise ∈ hs ++ [Happening.entry ⟨now, e, fx⟩] ↔ .dropPromise ∈ hs := by simp
    have told : outcomes (hs ++ [.entry ⟨now, e, fx⟩]) = outcomes hs ++ fx := by
      simp [outcomes]
    rw [same, told, Session.delivery_append]
    refine ⟨fun dropped => ?_, fun there => ?_⟩
    · rw [ih.1 dropped]
      rfl
    · rw [ih.2 there]
      rfl
  | drop run there ih =>
    exact ⟨fun _ => rfl, fun absent => absurd (List.mem_append_right _ List.mem_cons_self) absent⟩

end Run

/-! ## Dropping -/

/-- What happens to the session besides users. -/
def events (hs : List Happening) : List Session.Event := kept (entries hs)

theorem events_eq_filterMap (hs : List Happening) :
    events hs = hs.filterMap fun
      | .entry x => x.kept?
      | .dropPromise => none := by
  rw [events, kept, entries, List.filterMap_filterMap]
  refine List.filterMap_congr fun h _ => ?_
  cases h <;> rfl

@[simp] theorem events_append (hs hs' : List Happening) :
    events (hs ++ hs') = events hs ++ events hs' := by
  rw [events, entries_append, Session.kept_append, events, events]

/-- **A run in which the scan is not settled goes on** as another one does, as far as that takes
nobody who holds the session, until the scan is settled. -/
theorem exists_run_on {part more : List Session.Event} (orderly : x₀.session.Orderly)
    (ledger : Session.Ledger [.replied (.ok (.promised n))] x₀.session)
    (run : Run settings n x₀ hs x) (inTime : ∀ y ∈ entries hs, ¬y.event.IsLapse)
    (clock : ∀ y ∈ entries hs, Session.InTime settings y.now)
    (run' : Run settings n x₀ hs' x') (clock' : ∀ y ∈ entries hs', Session.InTime settings y.now)
    (rest : events hs = events hs' ++ (part ++ more))
    (held : ∀ e ∈ part, e.IsUse → x'.session.held = true) :
    ∃ later y, Run settings n x' later y ∧ events later <+: part ∧
      (n ∈ settled (outcomes (hs' ++ later)) ∨ events later = part) := by
  induction part generalizing hs' x' with
  | nil => exact ⟨[], x', .start, List.prefix_refl _, .inr rfl⟩
  | cons e part ih =>
    by_cases done : n ∈ settled (outcomes hs')
    · exact ⟨[], x', .start, List.nil_prefix, .inl (by rwa [List.append_nil])⟩
    -- what happens next has happened in time, so there is time for it at the start of the clock
    have there : e ∈ events hs := rest ▸ List.mem_append_right _ List.mem_cons_self
    obtain ⟨y, hy, -⟩ := List.mem_filterMap.mp there
    have onTime : Session.InTime settings 0 := (clock y hy).of_le (Nat.zero_le _)
    obtain ⟨t, fx, h, users⟩ := Session.exists_next orderly ledger run.session inTime clock
      run'.session clock' rest done (held e List.mem_cons_self) onTime
    have letGo : e ≠ .letGo := fun letGo => by
      subst letGo
      cases users
    have here : events [.entry ⟨0, e, fx⟩] = [e] := by
      simp [events, kept, Session.Entry.kept?, users]
    have held' : t.held = x'.session.held :=
      (Session.same_of_step (Session.step_of_step? h)).2.2 letGo
    have clock'' : ∀ y ∈ entries (hs' ++ [.entry ⟨0, e, fx⟩]), Session.InTime settings y.now := by
      rw [entries_append, entries_entry, List.forall_mem_append]
      exact ⟨clock', List.forall_mem_singleton.mpr onTime⟩
    obtain ⟨later, y, on, ahead, ends⟩ := ih (run'.event h) clock''
      (by rw [rest, events_append, here, List.append_assoc]; rfl)
      fun e' he' use => held'.trans (held e' (List.mem_cons_of_mem _ he') use)
    refine ⟨.entry ⟨0, e, fx⟩ :: later, y, (Run.event .start h).append on, ?_, ?_⟩
    · rw [← List.singleton_append, events_append, here]
      exact List.prefix_cons_inj e |>.mpr ahead
    · rw [← List.singleton_append, events_append, here, ← List.append_assoc]
      exact ends.imp_right fun all => by rw [all]; rfl

/-- What is the same, and what is not, of an errand to which `hs'` has happened, as compared to one
that `hs` happens to. -/
structure Undisturbed (settings : Settings) (n : Nat) (x₀ : Errand) (hs hs' : List Happening)
    (x' : Errand) : Prop where
  /-- The same bytes are written for the scan. -/
  written : writtenFor n (outcomes hs') <+: writtenFor n (outcomes hs)
  /-- Once the scan is settled they are all there, and it is settled in the same way. -/
  outcome : n ∈ settled (outcomes hs') →
    writtenFor n (outcomes hs') = writtenFor n (outcomes hs) ∧
      delivery n (outcomes hs') = delivery n (outcomes hs)
  /-- Nothing is held up before that: what happens in the one case can happen in the other, as far
  as it takes nobody who holds the session. -/
  goesOn : ∀ part more, events hs = events hs' ++ (part ++ more) →
    (∀ e ∈ part, e.IsUse → x'.session.held = true) →
    ∃ later y, Run settings n x' later y ∧ events later <+: part ∧
      (n ∈ settled (outcomes (hs' ++ later)) ∨ events later = part)
  /-- Until the scan is settled the session is in the same state, whoever holds it, and afterwards,
  too, unless it has been let go in one of the cases and serves no more; and it comes to an end of
  its own only if it has been let go and the scan is settled. -/
  alike : ∃ earlier y, earlier <+: hs ∧ events earlier = events hs' ∧ Run settings n x₀ earlier y ∧
    (n ∉ settled (outcomes hs') → y.session.Alike x'.session) ∧ y.session.Twin x'.session ∧
    (x'.session.IsOver → y.session.IsOver ∨
      x'.session.held = false ∧ n ∈ settled (outcomes hs'))
  /-- A session that nobody holds does not wait for another scan: it shuts the connection down. -/
  closes : x'.session.held = false → x'.session.outstanding = [] →
    x'.session.IsOver ∨ ∃ e, (e = .command ∨ e = .released) ∧
      ∀ now, ∃ s, x'.session.step? settings now e = some (s, [.shutDown]) ∧ s.IsOver
  /-- A promise that has been dropped receives nothing. -/
  dropped : .dropPromise ∈ hs' → x'.promise = none
  /-- Any other promise receives the outcome. -/
  received : .dropPromise ∉ hs' → x'.promise = some (delivery n (outcomes hs'))

variable {number : Nat} {route : Route} {reuse : Bool} {t₀ now : Instant} {filename : String}
  {payload : Bytes} {es₀ : List Entry} {s s₀ : Session}

/-- **Dropping a scan changes nothing for the server**, and nothing of the outcome. A scan has been
promised, and then whatever may happen happens to its session, but that the patience of the task
does not come to its end, and always ends on the clock. If the promise is dropped at any time, or
everything that holds the session is, or both, and otherwise the same happens, as far as it can,
then the same bytes are written, and the same outcome is found. -/
theorem unchanged_by_drops
    (before : Session.Run settings (.start settings number route reuse t₀) es₀ s)
    (accepted : s.step? settings now (.scan filename payload) =
      some (s₀, [.replied (.ok (.promised n))]))
    (run : Run settings n ⟨s₀, some .awaited⟩ hs x)
    (inTime : ∀ y ∈ entries hs, ¬y.event.IsLapse)
    (run' : Run settings n ⟨s₀, some .awaited⟩ hs' x')
    (clock : ∀ y ∈ entries hs ++ entries hs', Session.InTime settings y.now)
    (drops : events hs' <+: events hs) :
    Undisturbed settings n ⟨s₀, some .awaited⟩ hs hs' x' := by
  have orderly := Session.orderly_of_accepted before accepted
  have ledger := Session.ledger_of_accepted before accepted
  -- the point up to which the same has happened
  obtain ⟨rest, same⟩ := drops
  rw [events_eq_filterMap hs] at same
  obtain ⟨earlier, later, rfl, earlier_eq, -⟩ := List.filterMap_eq_append_iff.mp same.symm
  rw [← events_eq_filterMap] at earlier_eq
  obtain ⟨y, point⟩ := run.exists_of_append
  rw [List.forall_mem_append] at clock
  obtain ⟨clock, clock'⟩ := clock
  have part : ∀ z ∈ entries earlier, z ∈ entries (earlier ++ later) := fun z hz =>
    entries_append .. ▸ List.mem_append_left _ hz
  obtain ⟨twin, told_eq⟩ := Session.twin_of_runs orderly point.session run'.session
    earlier_eq.symm (fun z hz => inTime z (part z hz)) (fun z hz => clock z (part z hz)) clock'
  have ahead : told (outcomes hs') <+: told (outcomes (earlier ++ later)) := by
    rw [outcomes, told_eq, outcomes, entries_append, Session.effects_append, Session.told_append]
    exact List.prefix_append ..
  have busy (unsettled : n ∉ settled (outcomes hs')) : n ∈ x'.session.outstanding :=
    ledger.mem_outstanding run'.session unsettled
  obtain ⟨dropped, received⟩ := run'.promise_eq rfl
  refine ⟨?_, fun done => ?_, fun part more rest held => ?_, ?_, fun free idle => ?_, dropped,
    received⟩
  · rw [← Session.writtenFor_told, ← Session.writtenFor_told (outcomes (earlier ++ later))]
    exact Session.writtenFor_prefix ahead
  · rw [← Session.settled_told] at done
    have all := Session.eq_of_prefix ahead done
    simpa only [Session.writtenFor_told, Session.delivery_told] using all
  · exact exists_run_on orderly ledger run inTime clock run' clock' rest held
  · refine ⟨earlier, y, List.prefix_append .., earlier_eq, point,
      fun unsettled => twin.alike_of_outstanding (busy unsettled), twin, fun isOver => ?_⟩
    cases twin with
    | alike alike => exact .inl (alike.isOver isOver)
    | parted parted =>
      cases held : x'.session.held with
      | true => exact .inl (parted.isOver held isOver)
      | false =>
        refine .inr ⟨rfl, ?_⟩
        by_contra unsettled
        have none := busy unsettled
        rw [parted.right.outstanding_eq] at none
        cases none
  · exact (Session.orderly_of_run orderly run'.session).closes free idle

/-! ### A scan that is dropped -/

/-- The history and the end of the run that goes through events, if all of them can happen; at the
gaps the promise is dropped. -/
def play? (settings : Settings) (n : Nat) (x : Errand) :
    List (Option (Instant × Session.Event)) → Option (List Happening × Errand)
  | [] => some ([], x)
  | none :: more =>
    if x.promise.isSome then
      (play? settings n { x with promise := none } more).map fun (hs, y) => (.dropPromise :: hs, y)
    else none
  | some (now, e) :: more =>
    match x.session.step? settings now e with
    | none => none
    | some (s, fx) =>
      (play? settings n ⟨s, x.promise.map (Delivery.after n fx)⟩ more).map fun (hs, y) =>
        (.entry ⟨now, e, fx⟩ :: hs, y)

theorem run_of_play? {events : List (Option (Instant × Session.Event))}
    (h : play? settings n x₀ events = some (hs, x)) : Run settings n x₀ hs x := by
  induction events generalizing x₀ hs with
  | nil =>
    cases h
    exact .start
  | cons event more ih =>
    cases event with
    | none =>
      simp only [play?] at h
      split at h
      next there =>
        obtain ⟨⟨hs', y⟩, play, heq⟩ := Option.map_eq_some_iff.mp h
        cases heq
        exact (Run.drop .start there).append (ih play)
      next => cases h
    | some event =>
      obtain ⟨now, e⟩ := event
      simp only [play?] at h
      split at h
      · cases h
      next s fx step =>
        obtain ⟨⟨hs', y⟩, play, heq⟩ := Option.map_eq_some_iff.mp h
        cases heq
        exact (Run.event .start step).append (ih play)

/-- A session on which a scan has just been started. -/
def begun : Session :=
  { Session.sample with
    state := .awaitingOptions
    commands := 1
    queue := [.scan ⟨1, "a", [65]⟩] }

/-- A scan to its end, and the start of the next one. -/
def undropped : List (Option (Instant × Session.Event)) :=
  [some (2, .command), some (3, .accepted 82), some (4, .flushed), some (5, .read Session.bodyless),
    some (6, .accepted 176), some (7, .flushed), some (8, .read Session.chunked),
    some (9, .scan "b" [66])]

/-- The same scan, but the session is let go before the task has taken the scan, which it finds out
while it waits for the server, and the promise is dropped while the second request is written. -/
def droppedMidway : List (Option (Instant × Session.Event)) :=
  [some (1, .letGo), some (2, .command), some (3, .accepted 82), some (4, .flushed),
    some (4, .released), some (5, .read Session.bodyless), some (6, .accepted 176), none,
    some (7, .flushed), some (8, .read Session.chunked)]

theorem unchanged_by_drops_midway :
    ∃ hs x hs' x', Session.Run { userAgent := "u" } Session.sample [] Session.sample ∧
      Session.sample.step? { userAgent := "u" } 1 (.scan "a" [65]) =
        some (begun, [.replied (.ok (.promised 1))]) ∧
      Run { userAgent := "u" } 1 ⟨begun, some .awaited⟩ hs x ∧
      (∀ y ∈ entries hs, ¬y.event.IsLapse) ∧
      Run { userAgent := "u" } 1 ⟨begun, some .awaited⟩ hs' x' ∧
      (∀ y ∈ entries hs ++ entries hs', Session.InTime { userAgent := "u" } y.now) ∧
      events hs' <+: events hs ∧
      1 ∈ settled (outcomes hs') ∧ (writtenFor 1 (outcomes hs')).length = 258 ∧
      x.session.state = .awaitingOptions ∧ x'.session.activity = .closing ∧
      x'.promise.isNone = true ∧
      Undisturbed { userAgent := "u" } 1 ⟨begun, some .awaited⟩ hs hs' x' := by
  have h : ((play? { userAgent := "u" } 1 ⟨begun, some .awaited⟩ undropped).bind fun a =>
      (play? { userAgent := "u" } 1 ⟨begun, some .awaited⟩ droppedMidway).map fun b =>
        (a, b)).elim false (fun (a, b) =>
          (∀ y ∈ entries a.1, ¬y.event.IsLapse) ∧
          (∀ y ∈ entries a.1 ++ entries b.1, Session.InTime { userAgent := "u" } y.now) ∧
          events b.1 <+: events a.1 ∧
          1 ∈ settled (outcomes b.1) ∧ (writtenFor 1 (outcomes b.1)).length = 258 ∧
          a.2.session.state = .awaitingOptions ∧ b.2.session.activity = .closing ∧
          b.2.promise.isNone = true) = true := by
    decide +kernel
  have accepted : Session.sample.step? { userAgent := "u" } 1 (.scan "a" [65]) =
      some (begun, [.replied (.ok (.promised 1))]) := by
    decide +kernel
  cases first : play? { userAgent := "u" } 1 ⟨begun, some .awaited⟩ undropped with
  | none => simp [first] at h
  | some a =>
    cases second : play? { userAgent := "u" } 1 ⟨begun, some .awaited⟩ droppedMidway with
    | none => simp [first, second] at h
    | some b =>
      rw [first, second] at h
      obtain ⟨inTime, clock, drops, found⟩ := of_decide_eq_true h
      have run := run_of_play? first
      have run' := run_of_play? second
      obtain ⟨done, all, reused, closing, nothing⟩ := found
      exact ⟨_, _, _, _, .start, accepted, run, inTime, run', clock, drops, done, all, reused,
        closing, nothing, unchanged_by_drops .start accepted run inTime run' clock drops⟩

end Errand

end Icap
