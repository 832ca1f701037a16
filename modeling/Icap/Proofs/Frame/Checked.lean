import Icap.Proofs.Frame.Waiting
import Icap.Proofs.Text.Slices

/-!
# Frames by positions

A frame searches a read by positions: while nothing of the delimiter is met it goes straight to the
next byte that could begin it, and then it compares byte by byte. Every index must lie inside the
read or the delimiter, and the delimiter may not be longer than all that has been gathered.

* `seek` — the search, from a position on.
* `seek_eq` — it is `scan`, as long as the delimiter is not met whole.
* `feedChecked` — a read.
* `feedChecked_eq_ite`, `feedChecked_of_full` — where it fails.
* `Waits.feedChecked_eq` — a frame between two reads never does.
-/

namespace Icap.Frame

open Text

variable {d buf t y : Bytes} {f : Frame} {i m k limit : Nat}

/-! ## Searching -/

/-- How far ahead of a position the next byte is that matters to a search, if there is one. -/
def ahead (d buf : Bytes) (i m : Nat) : Option (Option Nat) :=
  if m = 0 then do
    let first ← d[0]?
    let rest ← behind? buf i
    return rest.findIdx? (· == first)
  else return some 0

/-- Searches a read from a position on, with `m` bytes of the delimiter met: the position behind the
delimiter, if it is there, and the number of its bytes met in the end. -/
def seek (d buf : Bytes) (i m : Nat) : Option (Option Nat × Nat) :=
  if i < buf.length then do
    match ← ahead d buf i m with
    | none => return (none, m)
    | some p =>
      let b ← buf[i + p]?
      let next ← d[m]?
      if b = next then
        if m + 1 = d.length then return (some (i + p + 1), m + 1)
        else seek d buf (i + p + 1) (m + 1)
      else
        let first ← d[0]?
        seek d buf (i + p + 1) (if b = first then 1 else 0)
  else return (none, m)
termination_by buf.length - i

/-- Bytes with which the delimiter does not begin are passed over. -/
theorem scan_of_forall_ne (d z : Bytes) (hd : 0 < d.length) : ∀ (y : Bytes) (k : Nat),
    (∀ b ∈ y, d.head? ≠ some b) → scan d k 0 (y ++ z) = scan d (k + y.length) 0 z
  | [], _, _ => rfl
  | b :: y, k, other => by
    rw [List.forall_mem_cons] at other
    have lost : advance d 0 b = 0 := by
      rw [advance, ← List.head?_eq_getElem?, if_neg other.1, if_neg other.1]
    rw [List.cons_append, scan, lost, if_neg (Nat.ne_of_lt hd),
      scan_of_forall_ne d z hd y (k + 1) other.2, List.length_cons, Nat.add_right_comm,
      Nat.add_assoc]

/-- Going ahead skips nothing that matters. -/
theorem ahead_eq (hm : m < d.length) (hi : i < buf.length) :
    ∃ o, ahead d buf i m = some o ∧
      match o with
      | none => scan d i m (buf.drop i) = ⟨buf.length, m, [], false⟩
      | some p => i + p < buf.length ∧
          scan d i m (buf.drop i) = scan d (i + p) m (buf.drop (i + p)) := by
  unfold ahead
  split
  next zero =>
    subst zero
    have head : d.head? = some d[0] := by rw [List.head?_eq_getElem?, List.getElem?_eq_getElem hm]
    refine ⟨_, by rw [List.getElem?_eq_getElem hm, behind?_of_le (Nat.le_of_lt hi)]; rfl, ?_⟩
    split
    next none =>
      have other : ∀ b ∈ buf.drop i, d.head? ≠ some b := by
        intro b hb same
        have := List.findIdx?_eq_none_iff.mp none b hb
        rw [head] at same
        simp [Option.some.inj same] at this
      have all := scan_of_forall_ne d [] hm (buf.drop i) i other
      rw [List.append_nil, List.length_drop, Nat.add_sub_cancel' (Nat.le_of_lt hi)] at all
      exact all
    next p found =>
      obtain ⟨inside, -, before⟩ := List.findIdx?_eq_some_iff_getElem.mp found
      rw [List.length_drop] at inside
      have other : ∀ b ∈ (buf.drop i).take p, d.head? ≠ some b := by
        intro b hb same
        obtain ⟨j, hj, rfl⟩ := List.getElem_of_mem hb
        have far := before j (by simp only [List.length_take] at hj; omega)
        rw [head] at same
        simp [Option.some.inj same] at far
      have skip := scan_of_forall_ne d ((buf.drop i).drop p) hm ((buf.drop i).take p) i other
      rw [List.take_append_drop, List.length_take, List.length_drop, List.drop_drop,
        Nat.min_eq_left (Nat.le_of_lt inside)] at skip
      exact ⟨by omega, skip⟩
  next => exact ⟨some 0, rfl, hi, rfl⟩

/-- A search by positions does what a search does, and every index is in range. -/
theorem seek_eq (hm : m < d.length) (hi : i ≤ buf.length) :
    seek d buf i m =
      some (if (scan d i m (buf.drop i)).found then some (scan d i m (buf.drop i)).taken else none,
        (scan d i m (buf.drop i)).matched) := by
  induction left : buf.length - i using Nat.strong_induction_on generalizing i m with
  | _ n ih =>
    unfold seek
    split
    next inside =>
      obtain ⟨o, eq, goes⟩ := ahead_eq hm inside
      rw [eq]
      cases o with
      | none =>
        rw [goes]
        rfl
      | some p =>
        obtain ⟨here, same⟩ := goes
        have hd : 0 < d.length := Nat.zero_lt_of_lt hm
        rw [same, List.drop_eq_getElem_cons here, scan]
        have head : d.head? = some d[0] := by
          rw [List.head?_eq_getElem?, List.getElem?_eq_getElem hd]
        simp only [Option.bind_eq_bind, Option.bind_some, List.getElem?_eq_getElem here,
          List.getElem?_eq_getElem hm, List.getElem?_eq_getElem hd, advance, head,
          Option.some.injEq, Option.pure_def]
        by_cases next : buf[i + p] = d[m]
        · rw [if_pos next, if_pos next.symm]
          by_cases full : m + 1 = d.length
          · simp [full]
          · rw [if_neg full, if_neg full]
            exact ih _ (by omega) (by omega) here rfl
        · rw [if_neg next, if_neg (Ne.symm next)]
          by_cases first : buf[i + p] = d[0]
          -- the delimiter has a second byte, or its first one would have been the next
          · have short : 1 < d.length := by
              rcases Nat.eq_zero_or_pos m with rfl | pos
              · exact absurd first next
              · omega
            rw [if_pos first, if_pos first.symm, if_neg (Nat.ne_of_lt short)]
            exact ih _ (by omega) short here rfl
          · rw [if_neg first, if_neg (Ne.symm first), if_neg (Nat.ne_of_lt hd)]
            exact ih _ (by omega) hd here rfl
    next outside =>
      rw [List.drop_eq_nil_of_le (Nat.not_lt.mp outside)]
      rfl

/-- A delimiter that is met whole has no next byte. -/
theorem seek_of_full (hm : d.length ≤ m) (hi : i < buf.length) : seek d buf i m = none := by
  rw [seek, if_pos hi, ahead]
  split
  next zero =>
    have none : d[0]? = none := List.getElem?_eq_none (zero ▸ hm)
    simp [none]
  next => simp [List.getElem?_eq_none hm]

/-! ## What a search has met -/

/-- A search meets no more bytes of the delimiter than it takes. -/
theorem scan_matched_le (d : Bytes) : ∀ (y : Bytes) (k m : Nat),
    (scan d k m y).matched + k ≤ m + (scan d k m y).taken
  | [], k, m => Nat.le_refl _
  | b :: y, k, m => by
    have step : advance d m b ≤ m + 1 := by
      unfold advance
      split
      · exact Nat.le_refl _
      · split <;> omega
    simp only [scan]
    split
    · simp only
      omega
    · have := scan_matched_le d y (k + 1) (advance d m b)
      omega

theorem scan_matched_of_found (d : Bytes) : ∀ (y : Bytes) (k m : Nat),
    (scan d k m y).found = true → (scan d k m y).matched = d.length
  | [], _, _, h => by cases h
  | b :: y, k, m, h => by
    simp only [scan] at h ⊢
    split at h
    next full => rw [if_pos full, full]
    next part =>
      rw [if_neg part]
      exact scan_matched_of_found d y _ _ h

/-- What a search takes stands in front of what it leaves. -/
theorem exists_scan_split (d : Bytes) : ∀ (y : Bytes) (k m : Nat),
    ∃ z, y = z ++ (scan d k m y).rest ∧ (scan d k m y).taken = k + z.length
  | [], _, _ => ⟨[], rfl, rfl⟩
  | b :: y, k, m => by
    simp only [scan]
    split
    · exact ⟨[b], rfl, rfl⟩
    · obtain ⟨z, parts, taken⟩ := exists_scan_split d y (k + 1) (advance d m b)
      refine ⟨b :: z, congrArg (b :: ·) parts, ?_⟩
      rw [taken, List.length_cons]
      omega

/-! ## Feeding -/

/-- Gathers the bytes of a read up to the end of the delimiter, as `feed` does, by positions. -/
def feedChecked (f : Frame) (d : Bytes) (limit : Nat) (buf : Bytes) : Option Fed := do
  let (stop, m) ← seek d buf 0 f.matched
  let taken := stop.getD buf.length
  let length ← less? (f.line.length + taken) (if stop.isSome then d.length else 0)
  if limit < length then return ⟨{ f with matched := m }, buf, .error (.headerTooLarge limit)⟩
  else
    let front ← front? buf taken
    let left ← behind? buf taken
    if stop.isSome then return ⟨⟨(f.line ++ front).take length, 0⟩, left, .ok true⟩
    else return ⟨⟨f.line ++ front, m⟩, left, .ok false⟩

/-- A search that does not succeed takes in the read. -/
theorem feedChecked_of_not_found (hm : f.matched < d.length)
    (h : (scan d 0 f.matched buf).found = false) :
    f.feedChecked d limit buf = some (f.feed d limit buf) := by
  rw [feedChecked, seek_eq hm (Nat.zero_le _), List.drop_zero, feed_of_not_found h]
  by_cases large : limit < f.line.length + buf.length <;>
    simp [h, large, less?_of_le, front?_of_le, behind?_of_le]

/-- A search that succeeds takes in the read up to the end of the delimiter. -/
theorem feedChecked_of_found (hm : f.matched < d.length)
    (h : (scan d 0 f.matched buf).found = true)
    (le : d.length ≤ f.line.length + (scan d 0 f.matched buf).taken) :
    f.feedChecked d limit buf = some (f.feed d limit buf) := by
  obtain ⟨z, parts, taken⟩ := exists_scan_split d buf 0 f.matched
  rw [Nat.zero_add] at taken
  rw [taken] at le
  have inside : z.length ≤ buf.length := by
    rw [parts, List.length_append]
    exact Nat.le_add_right _ _
  have left : (scan d 0 f.matched buf).rest = buf.drop z.length := by
    conv_rhs => rw [parts, List.drop_left]
  have kept : (f.line ++ buf).take (f.line.length + z.length - d.length) =
      (f.line ++ buf.take z.length).take (f.line.length + z.length - d.length) := by
    conv_lhs => rw [← List.take_append_drop z.length buf, ← List.append_assoc]
    refine List.take_append_of_le_length ?_
    rw [List.length_append, List.length_take, Nat.min_eq_left inside]
    exact Nat.sub_le _ _
  rw [feedChecked, seek_eq hm (Nat.zero_le _), List.drop_zero, feed_of_found h, taken, left,
    lengthWithout_of_le le, Nat.min_eq_right (Nat.sub_le _ _), kept]
  by_cases large : limit < f.line.length + z.length - d.length <;>
    simp [h, large, less?_of_le le, front?_of_le inside, behind?_of_le inside]

/-- **A read fails** where the delimiter is complete and longer than all that has been gathered, and
nowhere else. -/
theorem feedChecked_eq_ite (hm : f.matched < d.length) :
    f.feedChecked d limit buf =
      if (scan d 0 f.matched buf).found = true ∧
          f.line.length + (scan d 0 f.matched buf).taken < d.length then none
      else some (f.feed d limit buf) := by
  split
  next short =>
    rw [feedChecked, seek_eq hm (Nat.zero_le _), List.drop_zero]
    simp [short.1, less?_of_lt short.2]
  next fits =>
    cases found : (scan d 0 f.matched buf).found with
    | false => exact feedChecked_of_not_found hm found
    | true => exact feedChecked_of_found hm found (Nat.not_lt.mp fun short => fits ⟨found, short⟩)

/-- A frame that has met a whole delimiter cannot go on. -/
theorem feedChecked_of_full (hm : d.length ≤ f.matched) (hb : buf ≠ []) :
    f.feedChecked d limit buf = none := by
  rw [feedChecked, seek_of_full hm (List.length_pos_iff.mpr hb)]
  rfl

/-- A frame that counts no more bytes than it holds takes in every read. -/
theorem feedChecked_of_bounds (hm : f.matched < d.length) (held : f.matched ≤ f.line.length)
    (limit : Nat) (buf : Bytes) : f.feedChecked d limit buf = some (f.feed d limit buf) := by
  have matched := scan_matched_le d buf 0 f.matched
  rw [feedChecked_eq_ite hm, if_neg]
  rintro ⟨found, short⟩
  rw [scan_matched_of_found d buf 0 f.matched found] at matched
  omega

/-- **A frame between two reads** takes in every read. -/
theorem Waits.feedChecked_eq (h : Waits d t f) (limit : Nat) (buf : Bytes) :
    f.feedChecked d limit buf = some (f.feed d limit buf) :=
  feedChecked_of_bounds h.matched_lt h.matched_le limit buf

end Icap.Frame
