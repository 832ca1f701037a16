import Icap.Proofs.Frame.Checked

/-!
# Reads tried again

A read that passes the limit is refused: the frame keeps what it has gathered, and the read stays as
it is. The count of the delimiter's bytes does not stay, though. It has gone through the read
already, and goes through it once more when the read is tried again.

* `Reached` — the frames that feeds lead to as long as none is refused. In none of them does a read
  fail.
* `feed_of_refused` — what a refused read leaves.
* `feed_again_iff` — when trying it again does what the first try would have done.
* `exists_again_astray` — three reads where it does not.
-/

namespace Icap.Frame

open Text

variable {d buf : Bytes} {f f' : Frame} {fault : ParseFault} {limit : Nat}

/-! ## Frames that no read has been refused to -/

/-- The frames that feeds with a delimiter lead to, none of which is refused. -/
inductive Reached (d : Bytes) : Frame → Prop
  | start : Reached d {}
  | feed {f : Frame} {limit : Nat} {buf : Bytes} {found : Bool} (before : Reached d f)
      (fits : (f.feed d limit buf).outcome = .ok found) : Reached d (f.feed d limit buf).frame

theorem scan_matched_lt (d : Bytes) : ∀ (y : Bytes) (k m : Nat), m < d.length →
    (scan d k m y).found = false → (scan d k m y).matched < d.length
  | [], _, _, hm, _ => hm
  | b :: y, k, m, hm, h => by
    simp only [scan] at h ⊢
    split at h
    · cases h
    next part =>
      rw [if_neg part]
      exact scan_matched_lt d y _ _ (Nat.lt_of_le_of_ne (advance_le hm b) part) h

/-- The count of such a frame lies within the delimiter and within what it has gathered. -/
theorem Reached.matched_bounds (hd : 0 < d.length) (h : Reached d f) :
    f.matched < d.length ∧ f.matched ≤ f.line.length := by
  induction h with
  | start => exact ⟨hd, Nat.le_refl 0⟩
  | @feed f limit buf found _ fits ih =>
    cases found with
    | true =>
      have none : (f.feed d limit buf).frame.matched = 0 := by
        rw [feed_of_found (found_of_feed fits).1, if_neg (Nat.not_lt.mpr (found_of_feed fits).2)]
      rw [none]
      exact ⟨hd, Nat.zero_le _⟩
    | false =>
      obtain ⟨notFound, -, eq⟩ := feed_of_waiting fits
      have le := scan_matched_le d buf 0 f.matched
      rw [(scan_of_not_found d buf 0 f.matched notFound).1] at le
      rw [eq]
      refine ⟨scan_matched_lt d buf 0 f.matched ih.1 notFound, ?_⟩
      show (scan d 0 f.matched buf).matched ≤ (f.line ++ buf).length
      rw [List.length_append]
      omega

/-- **No read fails** in a frame that no read has been refused to. -/
theorem Reached.feedChecked_eq (hd : 0 < d.length) (h : Reached d f) (limit : Nat) (buf : Bytes) :
    f.feedChecked d limit buf = some (f.feed d limit buf) :=
  feedChecked_of_bounds (h.matched_bounds hd).1 (h.matched_bounds hd).2 limit buf

/-! ## Refused reads -/

/-- A refused read leaves all but the count as it was. -/
theorem feed_of_refused (h : (f.feed d limit buf).outcome = .error fault) :
    fault = .headerTooLarge limit ∧
      (f.feed d limit buf).frame = ⟨f.line, (scan d 0 f.matched buf).matched⟩ ∧
      (f.feed d limit buf).left = buf := by
  refine ⟨feed_fault h, ?_⟩
  cases found : (scan d 0 f.matched buf).found with
  | false =>
    rw [feed_of_not_found found] at h ⊢
    split at h
    next large =>
      rw [if_pos large]
      exact ⟨rfl, rfl⟩
    · cases h
  | true =>
    rw [feed_of_found found] at h ⊢
    split at h
    next large =>
      rw [if_pos large]
      exact ⟨rfl, rfl⟩
    · cases h

/-- What a read comes to is a matter of the bytes gathered and of the search. -/
theorem feedChecked_congr (line : f.line = f'.line)
    (search : seek d buf 0 f.matched = seek d buf 0 f'.matched) :
    f.feedChecked d limit buf = f'.feedChecked d limit buf := by
  rw [feedChecked, feedChecked, line, search]

/-- Searches that end alike in a read end alike in any longer one. -/
theorem seek_append_congr {m m' : Nat} (hm : m < d.length) (hm' : m' < d.length)
    (same : scan d 0 m buf = scan d 0 m' buf) (more : Bytes) :
    seek d (buf ++ more) 0 m = seek d (buf ++ more) 0 m' := by
  rw [seek_eq hm (Nat.zero_le _), seek_eq hm' (Nat.zero_le _), List.drop_zero, scan_append,
    scan_append, same]

/-- The count decides how a search ends: two searches without success end alike if they count
alike. -/
theorem scan_eq_of_not_found {m m' : Nat} (h : (scan d 0 m buf).found = false)
    (h' : (scan d 0 m' buf).found = false)
    (same : (scan d 0 m buf).matched = (scan d 0 m' buf).matched) :
    scan d 0 m buf = scan d 0 m' buf := by
  obtain ⟨taken, rest⟩ := scan_of_not_found d buf 0 m h
  obtain ⟨taken', rest'⟩ := scan_of_not_found d buf 0 m' h'
  rw [Search.mk.injEq]
  exact ⟨taken.trans taken'.symm, same, rest.trans rest'.symm, h.trans h'.symm⟩

/-- A read that is taken in has been searched, unless there is nothing to search. -/
theorem matched_lt_of_feedChecked {fed : Fed} (read : f.feedChecked d limit buf = some fed)
    (some : buf ≠ []) : f.matched < d.length := by
  refine Nat.not_le.mp fun full => ?_
  rw [feedChecked_of_full full some] at read
  cases read

theorem eq_feed_of_feedChecked {fed : Fed} (hm : f.matched < d.length)
    (read : f.feedChecked d limit buf = some fed) : fed = f.feed d limit buf := by
  rw [feedChecked_eq_ite hm] at read
  split at read
  · cases read
  · exact (Option.some.inj read).symm

/-! ## Trying again -/

/-- An empty read leaves a frame as it is. -/
theorem feedChecked_nil (f : Frame) (d : Bytes) (limit : Nat) :
    f.feedChecked d limit [] =
      some (if limit < f.line.length then ⟨f, [], .error (.headerTooLarge limit)⟩
        else ⟨f, [], .ok false⟩) := by
  have search : seek d [] 0 f.matched = some (none, f.matched) := by rw [seek]; rfl
  rw [feedChecked, search]
  by_cases large : limit < f.line.length <;>
    simp [large, less?_of_le, front?_of_le, behind?_of_le]

/-- The count after a search without success makes no difference exactly if the search comes to the
same with it. -/
theorem feedChecked_again_iff {m : Nat} (hm : f.matched < d.length)
    (notFound : (scan d 0 f.matched buf).found = false)
    (count : (scan d 0 f.matched buf).matched = m) :
    (∀ limit more, (⟨f.line, m⟩ : Frame).feedChecked d limit (buf ++ more) =
        f.feedChecked d limit (buf ++ more)) ↔
      scan d 0 m buf = scan d 0 f.matched buf := by
  have hm' : m < d.length := count ▸ scan_matched_lt d buf 0 f.matched hm notFound
  constructor
  · intro alike
    -- under this limit the first try would have been taken in
    have first : f.feedChecked d (f.line.length + buf.length) buf =
        some ⟨⟨f.line ++ buf, m⟩, [], .ok false⟩ := by
      rw [feedChecked_of_not_found hm notFound, feed_of_not_found notFound, count,
        if_neg (Nat.lt_irrefl _)]
    have again := alike (f.line.length + buf.length) []
    rw [List.append_nil, first, feedChecked_eq_ite hm'] at again
    split at again
    · cases again
    · have fed := Option.some.inj again
      obtain ⟨notFound', -, eq⟩ :=
        feed_of_waiting (f := ⟨f.line, m⟩) (congrArg Fed.outcome fed)
      rw [eq] at fed
      have same : (scan d 0 m buf).matched = m :=
        congrArg (fun fed => fed.frame.matched) fed
      exact scan_eq_of_not_found notFound' notFound (same.trans count.symm)
  · intro same limit more
    exact feedChecked_congr rfl (seek_append_congr hm' hm same more)

/-- **A refused read goes through the count.** In a frame that no read has been refused to, no read
fails. A read that is refused leaves the bytes gathered and the read as they were, and the count at
what the search has come to. Trying it again, under whatever limit and with whatever bytes behind
it, does what it would have done if it had not been tried before exactly if the search neither has
met the whole delimiter nor comes to something else with the new count. If it has met the whole
delimiter, every further try fails. -/
theorem feed_again_iff {fed : Fed} (hd : 0 < d.length) (read : f.feedChecked d limit buf = some fed)
    (refused : fed.outcome = .error fault) :
    (∀ g, Reached d g → ∀ limit buf, g.feedChecked d limit buf = some (g.feed d limit buf)) ∧
      fault = .headerTooLarge limit ∧
      fed.frame = ⟨f.line, (scan d 0 f.matched buf).matched⟩ ∧ fed.left = buf ∧
      ((∀ limit' more, fed.frame.feedChecked d limit' (buf ++ more) =
          f.feedChecked d limit' (buf ++ more)) ↔
        (scan d 0 f.matched buf).found = false ∧
          scan d 0 fed.frame.matched buf = scan d 0 f.matched buf) ∧
      ((scan d 0 f.matched buf).found = true →
        ∀ limit' more, fed.frame.feedChecked d limit' (buf ++ more) = none) := by
  refine ⟨fun g reached => reached.feedChecked_eq hd, ?_⟩
  by_cases some : buf = []
  · subst some
    rw [feedChecked_nil] at read
    split at read
    · cases read
      cases refused
      exact ⟨rfl, rfl, rfl, by simp [scan], by simp [scan]⟩
    · cases read
      cases refused
  · have hm := matched_lt_of_feedChecked read some
    obtain rfl := eq_feed_of_feedChecked hm read
    obtain ⟨large, frame, left⟩ := feed_of_refused refused
    rw [frame]
    refine ⟨large, rfl, left, ?_⟩
    cases found : (scan d 0 f.matched buf).found with
    | false =>
      refine ⟨?_, fun h => by cases h⟩
      rw [feedChecked_again_iff hm found rfl]
      simp
    | true =>
      have full := scan_matched_of_found d buf 0 f.matched found
      have fails : ∀ limit' more,
          (⟨f.line, (scan d 0 f.matched buf).matched⟩ : Frame).feedChecked d limit' (buf ++ more) =
            none :=
        fun limit' more => feedChecked_of_full (Nat.le_of_eq full.symm) (by simp [some])
      refine ⟨⟨fun alike => ?_, fun h => by cases h.1⟩, fun _ => fails⟩
      have again := alike limit []
      rw [fails, List.append_nil, read] at again
      cases again

/-- A carriage return at the end of a refused read is counted, which makes no difference if a letter
is the first byte of the read, and makes one if a line feed is. -/
theorem feed_again_iff_two :
    Reached crlf ⟨[97], 0⟩ ∧
      Frame.feedChecked ⟨[97], 0⟩ crlf 2 [98, 13] =
        some ⟨⟨[97], 1⟩, [98, 13], .error (.headerTooLarge 2)⟩ ∧
      (∀ limit more, Frame.feedChecked ⟨[97], 1⟩ crlf limit ([98, 13] ++ more) =
        Frame.feedChecked ⟨[97], 0⟩ crlf limit ([98, 13] ++ more)) ∧
      Frame.feedChecked ⟨[97], 0⟩ crlf 2 [10, 13] =
        some ⟨⟨[97], 1⟩, [10, 13], .error (.headerTooLarge 2)⟩ ∧
      ¬∀ limit more, Frame.feedChecked ⟨[97], 1⟩ crlf limit ([10, 13] ++ more) =
        Frame.feedChecked ⟨[97], 0⟩ crlf limit ([10, 13] ++ more) := by
  have reached : Reached crlf ⟨[97], 0⟩ :=
    show Reached crlf (Frame.feed {} crlf 10 [97]).frame from .feed .start rfl
  have letter := reached.feedChecked_eq (by decide) 2 [98, 13]
  have lineFeed := reached.feedChecked_eq (by decide) 2 [10, 13]
  obtain ⟨-, -, -, -, alike, -⟩ := feed_again_iff (by decide) letter rfl
  obtain ⟨-, -, -, -, astray, -⟩ := feed_again_iff (by decide) lineFeed rfl
  exact ⟨reached, letter, alike.mpr (by decide), lineFeed, fun same =>
    absurd (astray.mp same).2 (by decide)⟩

/-- Reads that are refused, and tried again under a higher limit. With the carriage return at the
end of the first one counted, the line feed in front of it completes a delimiter that is not there:
behind a byte it is found, and without one it is longer than all that has been gathered. The third
read has a delimiter, and no byte can follow it. -/
theorem exists_again_astray :
    Reached crlf {} ∧ Reached crlf ⟨[97], 0⟩ ∧
      Frame.feedChecked ⟨[97], 0⟩ crlf 2 [10, 13] =
        some ⟨⟨[97], 1⟩, [10, 13], .error (.headerTooLarge 2)⟩ ∧
      Frame.feedChecked ⟨[97], 1⟩ crlf 9 [10, 13] = some ⟨⟨[], 0⟩, [13], .ok true⟩ ∧
      Frame.feedChecked ⟨[97], 0⟩ crlf 9 [10, 13] = some ⟨⟨[97, 10, 13], 1⟩, [], .ok false⟩ ∧
      Frame.feedChecked {} crlf 1 [10, 13] =
        some ⟨⟨[], 1⟩, [10, 13], .error (.headerTooLarge 1)⟩ ∧
      Frame.feedChecked ⟨[], 1⟩ crlf 9 [10, 13] = none ∧
      Frame.feedChecked {} crlf 9 [10, 13] = some ⟨⟨[10, 13], 1⟩, [], .ok false⟩ ∧
      Frame.feedChecked {} crlf 0 [97, 13, 10] =
        some ⟨⟨[], 2⟩, [97, 13, 10], .error (.headerTooLarge 0)⟩ ∧
      Frame.feedChecked ⟨[], 2⟩ crlf 9 [97, 13, 10] = none ∧
      Frame.feedChecked {} crlf 9 [97, 13, 10] = some ⟨⟨[97], 0⟩, [], .ok true⟩ := by
  have fresh : Reached crlf {} := .start
  have reached : Reached crlf ⟨[97], 0⟩ :=
    show Reached crlf (Frame.feed {} crlf 10 [97]).frame from .feed fresh rfl
  have two : 0 < crlf.length := by decide
  refine ⟨fresh, reached, reached.feedChecked_eq two _ _, ?_, reached.feedChecked_eq two _ _,
    fresh.feedChecked_eq two _ _, ?_, fresh.feedChecked_eq two _ _, fresh.feedChecked_eq two _ _,
    ?_, fresh.feedChecked_eq two _ _⟩
  · exact feedChecked_of_bounds (f := ⟨[97], 1⟩) (by decide) (by decide) _ _
  · rw [feedChecked_eq_ite (by decide), if_pos (by decide)]
  · exact feedChecked_of_full (by decide) (by decide)

end Icap.Frame
