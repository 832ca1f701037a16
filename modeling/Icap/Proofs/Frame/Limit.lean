import Icap.Proofs.Frame.Waiting

/-!
# The limit of a frame

A frame may hold so many bytes in front of its delimiter, and no more. The limit is checked at the
end of each read, though, and as long as the delimiter is not complete, the bytes of it that have
been met count like any others. So a text that keeps to the limit is refused all the same if a read
ends inside the delimiter behind it, beyond the limit.

* `feedAll` — reads fed to a frame until it is complete or fails.
* `Gathers` — a frame that waits for the rest of a text with its delimiter.
* `Gathers.feed_inside`, `Gathers.feed_whole` — a read that ends before the delimiter does, and one
  that goes on to the end of it.
* `outcome_feedAll_iff` — which reads complete a frame, and which of them make it fail.
* `exists_cut_too_large` — the same bytes, cut in two ways.
-/

namespace Icap.Frame

variable {d s t p y rest : Bytes} {limit : Nat} {f : Frame} {ps : List Bytes}

/-! ## Reads one after the other -/

/-- Feeds reads to a frame, each behind what is left of those before, until it is complete or
fails. -/
def feedFrom (d : Bytes) (limit : Nat) (fed : Fed) : List Bytes → Fed
  | [] => fed
  | p :: ps =>
    match fed.outcome with
    | .ok false => feedFrom d limit (fed.frame.feed d limit (fed.left ++ p)) ps
    | _ => fed

/-- Feeds reads to a frame that has gathered nothing. -/
def feedAll (d : Bytes) (limit : Nat) (ps : List Bytes) : Fed :=
  feedFrom d limit ⟨{}, [], .ok false⟩ ps

/-- A frame that does not wait takes no more reads. -/
theorem feedFrom_of_ne {fed : Fed} (h : fed.outcome ≠ .ok false) :
    feedFrom d limit fed ps = fed := by
  cases ps with
  | nil => rfl
  | cons p ps =>
    unfold feedFrom
    split
    next waits => exact absurd waits h
    next => rfl

/-! ## A frame that waits -/

/-- A frame waits for a delimiter behind a text that keeps to the limit. -/
structure Gathers (d : Bytes) (limit : Nat) (t : Bytes) (f : Frame) : Prop extends
    Waits d t f where
  fits : t.length ≤ limit

theorem Gathers.start (plain : IsPlain d) (limit : Nat) : Gathers d limit [] {} where
  toWaits := .start plain
  fits := Nat.zero_le limit

/-- A read after which a frame waits has been used up. -/
theorem Gathers.of_waiting (h : Gathers d limit t f) (plain : IsPlain d)
    (waiting : (f.feed d limit p).outcome = .ok false) :
    (f.feed d limit p).left = [] ∧ Gathers d limit (t ++ p) (f.feed d limit p).frame := by
  rcases h.unmet_or_first plain p with unmet | ⟨y, rest, rfl, first⟩
  · obtain ⟨m, waits, fed⟩ := h.feed_unmet plain unmet limit
    rw [fed] at waiting ⊢
    split at waiting
    · cases waiting
    next fits =>
      rw [if_neg fits]
      exact ⟨rfl, waits, Nat.not_lt.mp fits⟩
  · rw [h.feed_met plain first rest limit] at waiting
    split at waiting <;> cases waiting

/-- A read that ends before the delimiter does. -/
theorem Gathers.feed_inside (h : Gathers d limit t f) (plain : IsPlain d)
    (first : EndsWithFirst d s) (inside : t ++ p <+: s) (ne : t ++ p ≠ s) :
    if (t ++ p).length ≤ limit then
      (f.feed d limit p).outcome = .ok false ∧ (f.feed d limit p).left = [] ∧
        Gathers d limit (t ++ p) (f.feed d limit p).frame
    else (f.feed d limit p).outcome = .error (.headerTooLarge limit) := by
  obtain ⟨m, waits, fed⟩ := h.feed_unmet plain (first.unmet inside ne) limit
  rw [fed]
  split
  next fits =>
    rw [if_neg (Nat.not_lt.mpr fits)]
    exact ⟨rfl, rfl, waits, fits⟩
  next large => rw [if_pos (Nat.not_le.mp large)]

/-- A read that goes on to the end of the delimiter, and maybe beyond it. -/
theorem Gathers.feed_whole (h : Gathers d limit t f) (plain : IsPlain d)
    (first : EndsWithFirst d (t ++ y)) (rest : Bytes) :
    if (t ++ y).length - d.length ≤ limit then
      f.feed d limit (y ++ rest) =
        ⟨⟨(t ++ y).take ((t ++ y).length - d.length), 0⟩, rest, .ok true⟩
    else (f.feed d limit (y ++ rest)).outcome = .error (.headerTooLarge limit) := by
  rw [h.feed_met plain first]
  split
  next fits => rw [if_neg (Nat.not_lt.mpr fits)]
  next large => rw [if_pos (Nat.not_le.mp large)]

/-! ## All reads -/

/-- No read ends inside a text and beyond the limit. What has been gathered before is `t`. -/
def CutsFit (limit : Nat) (s t : Bytes) (ps : List Bytes) : Prop :=
  ∀ qs, qs <+: ps → (t ++ qs.flatten).length < s.length → (t ++ qs.flatten).length ≤ limit

theorem cutsFit_cons (fits : t.length ≤ limit) :
    CutsFit limit s t (p :: ps) ↔ CutsFit limit s (t ++ p) ps := by
  constructor
  · intro fit qs hqs
    have := fit (p :: qs) (List.cons_prefix_cons.mpr ⟨rfl, hqs⟩)
    rwa [List.flatten_cons, ← List.append_assoc] at this
  · intro fit qs hqs short
    cases qs with
    | nil => simpa using fits
    | cons q qs =>
      obtain ⟨rfl, tail⟩ := List.cons_prefix_cons.mp hqs
      rw [List.flatten_cons, ← List.append_assoc] at short ⊢
      exact fit qs tail short

/-- Once a text has been read whole, no read ends inside it. -/
theorem cutsFit_of_le (fits : t.length ≤ limit) (whole : s.length ≤ (t ++ p).length) :
    CutsFit limit s t (p :: ps) := by
  rw [cutsFit_cons fits]
  intro qs _ short
  rw [List.length_append] at short
  omega

/-- A frame is complete with some bytes on a condition, and fails for its limit otherwise. -/
structure CompleteIff (limit : Nat) (unit : Bytes) (condition : Prop) (fed : Fed) : Prop where
  complete : condition → fed.outcome = .ok true ∧ fed.frame.line = unit
  fail : ¬condition → fed.outcome = .error (.headerTooLarge limit)

/-- **Reads that go on where a frame waits** complete it if the text keeps to the limit and no read
ends inside it beyond the limit. -/
theorem Gathers.completeIff (h : Gathers d limit t f) (plain : IsPlain d)
    (first : EndsWithFirst d (t ++ y)) (y_ne : y ≠ []) (stream : ps.flatten = y ++ rest) :
    CompleteIff limit ((t ++ y).take ((t ++ y).length - d.length))
      ((t ++ y).length - d.length ≤ limit ∧ CutsFit limit (t ++ y) t ps)
      (feedFrom d limit ⟨f, [], .ok false⟩ ps) := by
  induction ps generalizing f t y with
  | nil => exact absurd (List.append_eq_nil_iff.mp stream.symm).1 y_ne
  | cons p ps ih =>
    have next : feedFrom d limit ⟨f, [], .ok false⟩ (p :: ps) =
        feedFrom d limit (f.feed d limit p) ps := rfl
    rw [next]
    -- the read goes on to the end of the delimiter, or ends before it
    have split : (∃ more, p = y ++ more) ∨ ∃ more, more ≠ [] ∧ y = p ++ more ∧
        ps.flatten = more ++ rest := by
      rcases List.append_eq_append_iff.mp (List.flatten_cons ▸ stream) with
        ⟨more, rfl, tail⟩ | ⟨more, rfl, -⟩
      · by_cases hmore : more = []
        · exact .inl ⟨[], by simp [hmore]⟩
        · exact .inr ⟨more, hmore, rfl, tail⟩
      · exact .inl ⟨more, rfl⟩
    rcases split with ⟨more, rfl⟩ | ⟨more, more_ne, rfl, tail⟩
    · have fed := h.feed_whole plain first more
      have cuts : CutsFit limit (t ++ y) t ((y ++ more) :: ps) := cutsFit_of_le h.fits (by simp)
      split at fed
      next fits =>
        rw [fed, feedFrom_of_ne (by simp)]
        exact ⟨fun _ => ⟨rfl, rfl⟩, fun not => absurd ⟨fits, cuts⟩ not⟩
      next large =>
        rw [feedFrom_of_ne (by simp [fed])]
        exact ⟨fun all => absurd all.1 large, fun _ => fed⟩
    · rw [← List.append_assoc] at first ⊢
      have fed := h.feed_inside plain first (List.prefix_append _ _) (by simpa using more_ne)
      rw [cutsFit_cons h.fits]
      split at fed
      next fits =>
        obtain ⟨waits, left, gathers⟩ := fed
        have again : f.feed d limit p = ⟨(f.feed d limit p).frame, [], .ok false⟩ := by
          rw [← left, ← waits]
        rw [again]
        exact ih gathers first more_ne tail
      next large =>
        rw [feedFrom_of_ne (by simp [fed])]
        have cut : ¬CutsFit limit (t ++ p ++ more) (t ++ p) ps := by
          intro fit
          have pos := List.length_pos_iff.mpr more_ne
          exact large (by simpa [pos] using fit [] List.nil_prefix)
        exact ⟨fun all => absurd all.2 cut, fun _ => fed⟩

/-- **What the limit of a frame comes to.** However a stream is cut into reads, a frame is complete,
with the bytes in front of the first delimiter, if they keep to the limit and no read ends inside
the delimiter beyond the limit. In all other cases it fails for its limit. So it fails whenever the
bytes do not keep to it, and if they do, it is up to the reads. -/
theorem outcome_feedAll_iff (plain : IsPlain d) (first : EndsWithFirst d s)
    (stream : ps.flatten = s ++ rest) :
    ((feedAll d limit ps).outcome = .ok true ↔ s.length - d.length ≤ limit ∧
      ∀ qs, qs <+: ps → qs.flatten.length < s.length → qs.flatten.length ≤ limit) ∧
    ((feedAll d limit ps).outcome = .ok true →
      (feedAll d limit ps).frame.line = s.take (s.length - d.length)) ∧
    ((feedAll d limit ps).outcome ≠ .ok true →
      (feedAll d limit ps).outcome = .error (.headerTooLarge limit)) := by
  have s_ne : s ≠ [] := fun h => plain.1 (List.suffix_nil.mp (h ▸ first.1))
  have ends := (Gathers.start plain limit).completeIff plain first s_ne stream
  have complete_iff : (feedAll d limit ps).outcome = .ok true ↔
      s.length - d.length ≤ limit ∧ CutsFit limit s [] ps := by
    refine ⟨fun complete => ?_, fun fits => (ends.complete fits).1⟩
    by_contra large
    cases complete.symm.trans (ends.fail large)
  exact ⟨complete_iff, fun complete => (ends.complete (complete_iff.mp complete)).2,
    fun incomplete => ends.fail fun fits => incomplete (complete_iff.mpr fits)⟩

/-! ### A letter in front of an empty line -/

/-- Three reads, of which the first ends with the letter and the second inside the delimiter. -/
def threeReads : List Bytes := [[65], [13, 10], [13, 10, 66]]

theorem outcome_feedAll_iff_three :
    EndsWithFirst blankLine [65, 13, 10, 13, 10] ∧
      threeReads.flatten = [65, 13, 10, 13, 10] ++ [66] ∧
      ((feedAll blankLine 3 threeReads).outcome = .ok true ↔ 1 ≤ 3 ∧
        ∀ qs, qs <+: threeReads → qs.flatten.length < 5 → qs.flatten.length ≤ 3) ∧
      ((feedAll blankLine 3 threeReads).outcome = .ok true →
        (feedAll blankLine 3 threeReads).frame.line = [65]) ∧
      ((feedAll blankLine 3 threeReads).outcome ≠ .ok true →
        (feedAll blankLine 3 threeReads).outcome = .error (.headerTooLarge 3)) := by
  have first : EndsWithFirst blankLine [65, 13, 10, 13, 10] := by decide
  exact ⟨first, rfl, outcome_feedAll_iff isPlain_blankLine first rfl⟩

/-- **The same bytes, cut in two ways.** One letter keeps to a limit of one byte. It is found if it
is read together with the delimiter or just before it, and refused if a read ends inside the
delimiter. -/
theorem exists_cut_too_large :
    EndsWithFirst blankLine [65, 13, 10, 13, 10] ∧
      (feedAll blankLine 1 [[65, 13, 10, 13, 10]]).outcome = .ok true ∧
      (feedAll blankLine 1 [[65], [13, 10, 13, 10]]).outcome = .ok true ∧
      (feedAll blankLine 1 [[65, 13], [10, 13, 10]]).outcome = .error (.headerTooLarge 1) := by
  refine ⟨by decide, rfl, rfl, rfl⟩

end Icap.Frame
