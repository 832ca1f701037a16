import Icap.Proofs.Frame.Delimiter

/-!
# Frames that wait

Between two reads a frame holds a text in which the delimiter does not stand, and counts how much
of the delimiter the text ends with. What the next read does is a matter of the whole text then:
the delimiter stands in it or not, and it keeps to the limit or not.

* `Waits` — a frame between two reads.
* `Waits.unmet_or_first` — the delimiter stands in the text with a read more for the first time, or
  not at all.
* `Waits.feed_unmet`, `Waits.feed_met` — what either does to the frame.
-/

namespace Icap.Frame

variable {d s t p y : Bytes} {f : Frame} {limit : Nat}

/-- A frame waits for a delimiter behind a text in which it does not stand. -/
structure Waits (d t : Bytes) (f : Frame) : Prop where
  line_eq : f.line = t
  counts : Counts d t f.matched
  matched_lt : f.matched < d.length
  unmet : ¬d <:+: t

theorem Waits.start (plain : IsPlain d) : Waits d [] {} where
  line_eq := rfl
  counts := .start d
  matched_lt := List.length_pos_iff.mpr plain.1
  unmet infixed := plain.1 (List.infix_nil.mp infixed)

/-- What a frame counts it holds. -/
theorem Waits.matched_le (h : Waits d t f) : f.matched ≤ f.line.length := by
  have le := h.counts.ends.length_le
  rw [List.length_take, Nat.min_eq_left (Nat.le_of_lt h.matched_lt)] at le
  rwa [h.line_eq]

/-! ## Where the delimiter stands -/

/-- A beginning of a text ends in its first part or in its second one. -/
theorem prefix_append_cases (hp : p <+: t ++ y) : p <+: t ∨ ∃ q, q <+: y ∧ p = t ++ q := by
  rcases List.prefix_or_prefix_of_prefix hp (List.prefix_append t y) with inner | ⟨q, rfl⟩
  · exact .inl inner
  · exact .inr ⟨q, (List.prefix_append_right_inj t).mp hp, rfl⟩

/-- The delimiter stands in a text with more bytes only if it ends among those. -/
theorem not_infix_append (unmet : ¬d <:+: t) (none : ∀ q, q <+: y → ¬d <:+ t ++ q) :
    ¬d <:+: t ++ y := by
  intro infixed
  obtain ⟨p, hs, hp⟩ := List.infix_iff_suffix_prefix.mp infixed
  rcases prefix_append_cases hp with inner | ⟨q, hq, rfl⟩
  · exact unmet (hs.isInfix.trans inner.isInfix)
  · exact none q hq hs

/-- A text that goes on to the end of the delimiter does not have it before. -/
theorem EndsWithFirst.unmet (first : EndsWithFirst d s) (hp : p <+: s) (ne : p ≠ s) :
    ¬d <:+: p := by
  intro infixed
  obtain ⟨q, hs, hq⟩ := List.infix_iff_suffix_prefix.mp infixed
  have whole := first.2 q (hq.trans hp) hs
  exact ne (hp.eq_of_length_le (whole ▸ hq.length_le))

/-- With a read more, the delimiter still does not stand in the text, or it does for the first
time. -/
theorem Waits.unmet_or_first (h : Waits d t f) (plain : IsPlain d) (p : Bytes) :
    ¬d <:+: t ++ p ∨ ∃ y rest, p = y ++ rest ∧ EndsWithFirst d (t ++ y) := by
  cases found : (scan d 0 f.matched p).found with
  | true =>
    obtain ⟨y, rest, rfl, ends, first⟩ := exists_first_of_found plain 0 h.counts h.matched_lt found
    refine .inr ⟨y, rest, rfl, ends, fun p hp hs => ?_⟩
    rcases prefix_append_cases hp with inner | ⟨q, hq, rfl⟩
    · exact absurd (hs.isInfix.trans inner.isInfix) h.unmet
    · rw [first q hq hs]
  | false =>
    refine .inl (not_infix_append h.unmet fun q hq hs => ?_)
    have met := found_of_suffix plain 0 h.counts h.matched_lt hq hs
    rw [found] at met
    cases met

/-! ## Reads -/

/-- **A read without the end of the delimiter** is gathered whole, unless the limit is passed. -/
theorem Waits.feed_unmet (h : Waits d t f) (plain : IsPlain d) (unmet : ¬d <:+: t ++ p)
    (limit : Nat) :
    ∃ m, Waits d (t ++ p) ⟨t ++ p, m⟩ ∧ f.feed d limit p =
      if limit < (t ++ p).length then ⟨{ f with matched := m }, p, .error (.headerTooLarge limit)⟩
      else ⟨⟨t ++ p, m⟩, [], .ok false⟩ := by
  have notFound : (scan d 0 f.matched p).found = false := by
    refine scan_of_not_suffix plain 0 h.counts h.matched_lt fun q hq hs => unmet ?_
    exact hs.isInfix.trans ((List.prefix_append_right_inj t).mpr hq).isInfix
  obtain ⟨counts, matched_lt⟩ := Counts.scan plain 0 h.counts h.matched_lt notFound
  refine ⟨(scan d 0 f.matched p).matched, ⟨rfl, counts, matched_lt, unmet⟩, ?_⟩
  rw [feed_of_not_found notFound, ← List.length_append, h.line_eq]

/-- **A read with the end of the delimiter** completes the frame and leaves what follows, unless the
limit is passed. -/
theorem Waits.feed_met (h : Waits d t f) (plain : IsPlain d) (first : EndsWithFirst d (t ++ y))
    (rest : Bytes) (limit : Nat) :
    f.feed d limit (y ++ rest) =
      if limit < (t ++ y).length - d.length then
        ⟨{ f with matched := d.length }, y ++ rest, .error (.headerTooLarge limit)⟩
      else ⟨⟨(t ++ y).take ((t ++ y).length - d.length), 0⟩, rest, .ok true⟩ := by
  have found : scan d 0 f.matched (y ++ rest) = ⟨0 + y.length, d.length, rest, true⟩ := by
    refine scan_of_suffix plain rest 0 h.counts h.matched_lt first.1 fun q hq hs => ?_
    exact List.append_cancel_left
      (first.2 (t ++ q) ((List.prefix_append_right_inj t).mpr hq) hs)
  have le : d.length ≤ (t ++ y).length := first.1.length_le
  have size : f.line.length + (0 + y.length) = (t ++ y).length := by
    rw [h.line_eq, Nat.zero_add, List.length_append]
  rw [feed_of_found (by rw [found]), found, size, lengthWithout_of_le le,
    Nat.min_eq_right (Nat.sub_le _ _), h.line_eq, ← List.append_assoc,
    List.take_append_of_le_length (Nat.sub_le _ _)]

end Icap.Frame
