import Icap.Proofs.Frame.Waiting

/-!
# Streams cut into reads

However a stream is cut into reads, a frame that is fed them one after the other is complete with
the read in which the delimiter ends for the first time. It holds what stands in front of it then,
and leaves what stands behind it in that read. Up to there each read is used up whole, and in a
stream without a delimiter all reads are.

* `feeds` — what each read comes to.
* `Waits.feeds_unmet`, `Waits.feeds_met` — reads of a stream without the delimiter, and with it.
* `feeds_cases` — either of them from the start.
-/

namespace Icap.Frame

variable {d t y rest : Bytes} {f : Frame} {rs : List (Bytes × Nat)}

/-! ## Reads -/

/-- What each of some reads comes to. A read is fed under a limit of its own, behind what is left of
the reads before. One that does not leave the frame waiting is the last. -/
def feeds (d : Bytes) (f : Frame) (left : Bytes) : List (Bytes × Nat) → List Fed
  | [] => []
  | (p, limit) :: rs =>
    let fed := f.feed d limit (left ++ p)
    fed :: if fed.outcome = .ok false then feeds d fed.frame fed.left rs else []

theorem feeds_of_waiting {f' : Frame} {p : Bytes} {limit : Nat}
    (fed : f.feed d limit p = ⟨f', [], .ok false⟩) :
    feeds d f [] ((p, limit) :: rs) = ⟨f', [], .ok false⟩ :: feeds d f' [] rs := by
  simp only [feeds, List.nil_append, fed, if_true]

theorem feeds_of_complete {f' : Frame} {p left : Bytes} {limit : Nat}
    (fed : f.feed d limit p = ⟨f', left, .ok true⟩) :
    feeds d f [] ((p, limit) :: rs) = [⟨f', left, .ok true⟩] := by
  simp [feeds, fed]

/-- The bytes of some reads. -/
def stream (rs : List (Bytes × Nat)) : Bytes := (rs.map Prod.fst).flatten

@[simp] theorem stream_cons (r : Bytes × Nat) (rs : List (Bytes × Nat)) :
    stream (r :: rs) = r.1 ++ stream rs := by
  simp [stream]

/-- What a read comes to that leaves the frame waiting and has been used up. -/
structure Fed.IsWaiting (fed : Fed) : Prop where
  outcome_eq : fed.outcome = .ok false
  left_eq : fed.left = []

/-! ## Feeding -/

variable {p : Bytes} {limit : Nat}

/-- A read without the end of the delimiter, within its limit. -/
theorem Waits.feed_unmet_of_fits (h : Waits d t f) (plain : IsPlain d) (unmet : ¬d <:+: t ++ p)
    (fits : (f.feed d limit p).outcome.isOk = true) :
    ∃ m, Waits d (t ++ p) ⟨t ++ p, m⟩ ∧ f.feed d limit p = ⟨⟨t ++ p, m⟩, [], .ok false⟩ := by
  obtain ⟨m, waits, fed⟩ := h.feed_unmet plain unmet limit
  split at fed
  · rw [fed] at fits
    cases fits
  · exact ⟨m, waits, fed⟩

/-- A read with the end of the delimiter, within its limit. -/
theorem Waits.feed_met_of_fits (h : Waits d t f) (plain : IsPlain d)
    (first : EndsWithFirst d (t ++ y))
    (fits : (f.feed d limit (y ++ rest)).outcome.isOk = true) :
    f.feed d limit (y ++ rest) =
      ⟨⟨(t ++ y).take ((t ++ y).length - d.length), 0⟩, rest, .ok true⟩ := by
  have fed := h.feed_met plain first rest limit
  split at fed
  · rw [fed] at fits
    cases fits
  · exact fed

/-- No read passes its limit. -/
def AllFit (feds : List Fed) : Prop := ∀ fed ∈ feds, fed.outcome.isOk = true

instance (feds : List Fed) : Decidable (AllFit feds) :=
  inferInstanceAs (Decidable (∀ fed ∈ feds, _))

/-- Reads without the delimiter are used up, all of them. -/
theorem Waits.feeds_unmet (h : Waits d t f) (plain : IsPlain d) (unmet : ¬d <:+: t ++ stream rs)
    (fit : AllFit (feeds d f [] rs)) :
    (feeds d f [] rs).length = rs.length ∧ ∀ fed ∈ feeds d f [] rs, fed.IsWaiting := by
  induction rs generalizing t f with
  | nil => exact ⟨rfl, fun fed there => absurd there List.not_mem_nil⟩
  | cons r rs ih =>
    obtain ⟨p, limit⟩ := r
    rw [stream_cons, ← List.append_assoc] at unmet
    have fits : (f.feed d limit p).outcome.isOk = true := fit _ List.mem_cons_self
    obtain ⟨m, waits, fed⟩ := h.feed_unmet_of_fits plain
      (fun infixed => unmet (List.infix_append_of_infix_left infixed)) fits
    rw [feeds_of_waiting fed] at fit ⊢
    obtain ⟨all, waiting⟩ := ih waits unmet fun fed there => fit fed (List.mem_cons_of_mem _ there)
    refine ⟨congrArg (· + 1) all, fun fed there => ?_⟩
    rcases List.mem_cons.mp there with rfl | there
    · exact ⟨rfl, rfl⟩
    · exact waiting fed there

/-- The reads `before` leave the frame waiting, and the next one, `r`, completes it, for the text
`s` ends in it: the frame and the read hold what stands around the delimiter. What the frame held
at first is `t`. -/
structure CompleteAt (d t s : Bytes) (before : List (Bytes × Nat)) (r : Bytes × Nat)
    (waits : List Fed) (last : Fed) : Prop where
  inside : (t ++ stream before).length < s.length
  whole : s ++ last.left = t ++ stream before ++ r.1
  length_eq : waits.length = before.length
  waiting : ∀ fed ∈ waits, fed.IsWaiting
  complete : last.outcome = .ok true
  line_append : last.frame.line ++ d = s

/-- A read that leaves the frame waiting in front of the others. -/
theorem CompleteAt.cons {s : Bytes} {before : List (Bytes × Nat)} {r : Bytes × Nat}
    {waits : List Fed} {last : Fed} (h : CompleteAt d (t ++ p) s before r waits last) (f : Frame) :
    CompleteAt d t s ((p, limit) :: before) r (⟨f, [], .ok false⟩ :: waits) last where
  inside := by simpa using h.inside
  whole := by simpa using h.whole
  length_eq := by simpa using h.length_eq
  waiting fed there := by
    rcases List.mem_cons.mp there with rfl | there
    · exact ⟨rfl, rfl⟩
    · exact h.waiting fed there
  complete := h.complete
  line_append := h.line_append

/-- Reads with the delimiter are used up to its end. -/
theorem Waits.feeds_met (h : Waits d t f) (plain : IsPlain d) (first : EndsWithFirst d (t ++ y))
    (y_ne : y ≠ []) (reads : stream rs = y ++ rest) (fit : AllFit (feeds d f [] rs)) :
    ∃ before r after waits last, rs = before ++ r :: after ∧ feeds d f [] rs = waits ++ [last] ∧
      CompleteAt d t (t ++ y) before r waits last := by
  induction rs generalizing t f y with
  | nil => exact absurd (List.append_eq_nil_iff.mp reads.symm).1 y_ne
  | cons r rs ih =>
    obtain ⟨p, limit⟩ := r
    rw [stream_cons] at reads
    -- the read goes on to the end of the delimiter, or ends before it
    by_cases whole : y <+: p
    · obtain ⟨more, rfl⟩ := whole
      have fits : (f.feed d limit (y ++ more)).outcome.isOk = true := fit _ List.mem_cons_self
      have fed := h.feed_met_of_fits plain first fits
      refine ⟨[], _, rs, [], _, rfl, feeds_of_complete fed, ?_⟩
      exact {
        inside := by simpa [stream] using List.length_pos_iff.mpr y_ne
        whole := by simp [stream]
        length_eq := rfl
        waiting := fun _ there => absurd there List.not_mem_nil
        complete := rfl
        line_append := List.suffix_iff_eq_append.mp first.1 }
    · obtain ⟨more, rfl⟩ : p <+: y :=
        (List.prefix_or_prefix_of_prefix ⟨rest, reads.symm⟩ (List.prefix_append p _)).resolve_left
          whole
      have more_ne : more ≠ [] := by
        rintro rfl
        exact whole (by simp)
      rw [← List.append_assoc] at first ⊢
      have unmet : ¬d <:+: t ++ p := first.unmet (List.prefix_append _ _) (by simpa using more_ne)
      have fits : (f.feed d limit p).outcome.isOk = true := fit _ List.mem_cons_self
      obtain ⟨m, waits, fed⟩ := h.feed_unmet_of_fits plain unmet fits
      rw [feeds_of_waiting fed] at fit ⊢
      obtain ⟨before, r, after, waiting, last, rfl, eq, complete⟩ := ih waits first more_ne
        (by simpa using reads) fun fed there => fit fed (List.mem_cons_of_mem _ there)
      exact ⟨(p, limit) :: before, r, after, _ :: waiting, last, rfl, by rw [eq]; rfl,
        complete.cons _⟩

/-- **A frame finds the first delimiter.** However a stream is cut into reads, and whatever the
limits as long as no read passes its own, there are two cases. If the delimiter does not stand in
the stream, each read leaves the frame waiting and is used up. Else there is a beginning `s` of the
stream at whose end the delimiter stands for the first time, and a read `r` in which `s` ends. All
reads before that one leave the frame waiting and are used up; with it the frame is complete, what
it holds is `s` without the delimiter, and what is left of the read is what follows `s` in it. -/
theorem feeds_cases (plain : IsPlain d) (fit : AllFit (feeds d {} [] rs)) :
    (¬d <:+: stream rs ∧ (feeds d {} [] rs).length = rs.length ∧
      ∀ fed ∈ feeds d {} [] rs, fed.outcome = .ok false ∧ fed.left = []) ∨
    ∃ s before r after waits last, EndsWithFirst d s ∧ rs = before ++ r :: after ∧
      (stream before).length < s.length ∧ s ++ last.left = stream before ++ r.1 ∧
      feeds d {} [] rs = waits ++ [last] ∧ waits.length = before.length ∧
      (∀ fed ∈ waits, fed.outcome = .ok false ∧ fed.left = []) ∧
      last.outcome = .ok true ∧ last.frame.line ++ d = s := by
  have start : Waits d [] {} := .start plain
  rcases start.unmet_or_first plain (stream rs) with unmet | ⟨y, rest, reads, first⟩
  · obtain ⟨all, waiting⟩ := start.feeds_unmet plain unmet fit
    exact .inl ⟨unmet, all, fun fed there => ⟨(waiting fed there).outcome_eq,
      (waiting fed there).left_eq⟩⟩
  · have y_ne : y ≠ [] := by
      rintro rfl
      exact plain.1 (List.suffix_nil.mp first.1)
    obtain ⟨before, r, after, waits, last, parts, eq, complete⟩ :=
      start.feeds_met plain first y_ne reads fit
    exact .inr ⟨y, before, r, after, waits, last, first, parts, complete.inside, complete.whole, eq,
      complete.length_eq, fun fed there => ⟨(complete.waiting fed there).outcome_eq,
        (complete.waiting fed there).left_eq⟩, complete.complete, complete.line_append⟩

/-! ### A carriage return too many -/

/-- A stream with a delimiter that begins inside a part of one, cut inside both. -/
def threeCuts : List (Bytes × Nat) := [([13, 13, 10, 13], 4), ([13, 10, 13], 7), ([10, 65], 4)]

theorem feeds_cases_three :
    AllFit (feeds blankLine {} [] threeCuts) ∧
      ∃ s before r after waits last, EndsWithFirst blankLine s ∧
        threeCuts = before ++ r :: after ∧ (stream before).length < s.length ∧
        s ++ last.left = stream before ++ r.1 ∧
        feeds blankLine {} [] threeCuts = waits ++ [last] ∧ waits.length = before.length ∧
        (∀ fed ∈ waits, fed.outcome = .ok false ∧ fed.left = []) ∧
        last.outcome = .ok true ∧ last.frame.line ++ blankLine = s := by
  have fit : AllFit (feeds blankLine {} [] threeCuts) := by decide
  refine ⟨fit, (feeds_cases isPlain_blankLine fit).resolve_left ?_⟩
  rintro ⟨unmet, -⟩
  exact unmet (by decide)

end Icap.Frame
