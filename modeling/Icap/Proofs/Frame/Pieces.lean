import Icap.Frame

/-!
# Frames fed in pieces

A read that is cut in two does to a frame what the whole read does, as long as the first part does
not pass the limit by itself.

* `scan_append` — the search resumes where it stopped.
* `feed_append_of_waiting`, `feed_append_of_found` — the same of `feed`.
-/

namespace Icap.Frame

/-! ## Searching -/

/-- The search resumes where it stopped, unless it has come to its end. -/
theorem scan_append (d b : Bytes) : ∀ (a : Bytes) (k m : Nat),
    scan d k m (a ++ b) =
      if (scan d k m a).found then { scan d k m a with rest := (scan d k m a).rest ++ b }
      else scan d (scan d k m a).taken (scan d k m a).matched b
  | [], k, m => by simp [scan]
  | x :: a, k, m => by
    simp only [List.cons_append, scan]
    split
    · simp
    · exact scan_append d b a _ _

/-- Where the read stands does not matter to the search. -/
theorem scan_shift (d : Bytes) : ∀ (a : Bytes) (j k m : Nat),
    scan d (j + k) m a = { scan d k m a with taken := j + (scan d k m a).taken }
  | [], j, k, m => by simp [scan]
  | x :: a, j, k, m => by
    simp only [scan]
    split
    · simp [Nat.add_assoc]
    · rw [Nat.add_assoc]
      exact scan_shift d a j (k + 1) _

/-- A search without success takes all bytes. -/
theorem scan_of_not_found (d : Bytes) : ∀ (a : Bytes) (k m : Nat), (scan d k m a).found = false →
    (scan d k m a).taken = k + a.length ∧ (scan d k m a).rest = []
  | [], k, m, _ => by simp [scan]
  | x :: a, k, m, h => by
    simp only [scan] at h ⊢
    split at h
    · simp at h
    next hm =>
      rw [if_neg hm]
      obtain ⟨ht, hr⟩ := scan_of_not_found d a _ _ h
      exact ⟨by rw [ht, List.length_cons]; omega, hr⟩

/-- What a search takes and what it leaves make up the read. -/
theorem scan_taken_add_rest (d : Bytes) : ∀ (a : Bytes) (k m : Nat),
    (scan d k m a).taken + (scan d k m a).rest.length = k + a.length
  | [], k, m => by simp [scan]
  | x :: a, k, m => by
    simp only [scan]
    split
    · simp only [List.length_cons]
      omega
    · rw [scan_taken_add_rest d a]
      simp only [List.length_cons]
      omega

/-! ## Feeding -/

variable {f : Frame} {d a b : Bytes} {limit : Nat}

/-- A read in which the delimiter is not complete. -/
theorem feed_of_not_found (h : (scan d 0 f.matched a).found = false) :
    f.feed d limit a =
      if limit < f.line.length + a.length then
        ⟨{ f with matched := (scan d 0 f.matched a).matched }, a, .error (.headerTooLarge limit)⟩
      else ⟨⟨f.line ++ a, (scan d 0 f.matched a).matched⟩, [], .ok false⟩ := by
  obtain ⟨ht, hr⟩ := scan_of_not_found d a 0 f.matched h
  simp [feed, h, ht, hr]

/-- A read that completes the delimiter. -/
theorem feed_of_found (h : (scan d 0 f.matched a).found = true) :
    f.feed d limit a =
      if limit < lengthWithout (f.line.length + (scan d 0 f.matched a).taken) d.length then
        ⟨{ f with matched := (scan d 0 f.matched a).matched }, a, .error (.headerTooLarge limit)⟩
      else
        ⟨⟨(f.line ++ a).take (min (f.line.length + (scan d 0 f.matched a).taken)
          (lengthWithout (f.line.length + (scan d 0 f.matched a).taken) d.length)), 0⟩,
          (scan d 0 f.matched a).rest, .ok true⟩ := by
  simp [feed, h]

/-- A frame fails for its limit alone. -/
theorem feed_fault {fault : ParseFault} (h : (f.feed d limit a).outcome = .error fault) :
    fault = .headerTooLarge limit := by
  cases hf : (scan d 0 f.matched a).found with
  | false =>
    rw [feed_of_not_found hf] at h
    split at h <;> simp_all
  | true =>
    rw [feed_of_found hf] at h
    split at h <;> simp_all

/-- A frame that waits has gathered the whole read. -/
theorem feed_of_waiting (h : (f.feed d limit a).outcome = .ok false) :
    (scan d 0 f.matched a).found = false ∧ f.line.length + a.length ≤ limit ∧
      f.feed d limit a = ⟨⟨f.line ++ a, (scan d 0 f.matched a).matched⟩, [], .ok false⟩ := by
  cases hf : (scan d 0 f.matched a).found with
  | false =>
    rw [feed_of_not_found hf] at h ⊢
    split at h
    · cases h
    next hl => exact ⟨rfl, by omega, if_neg hl⟩
  | true =>
    rw [feed_of_found hf] at h
    split at h <;> cases h

/-- A frame that is complete has met the delimiter within its limit. -/
theorem found_of_feed (h : (f.feed d limit a).outcome = .ok true) :
    (scan d 0 f.matched a).found = true ∧
      lengthWithout (f.line.length + (scan d 0 f.matched a).taken) d.length ≤ limit := by
  cases hf : (scan d 0 f.matched a).found with
  | false =>
    rw [feed_of_not_found hf] at h
    split at h <;> cases h
  | true =>
    rw [feed_of_found hf] at h
    split at h
    · cases h
    next hl => exact ⟨rfl, by omega⟩

/-! ## Two reads -/

/-- After a read that leaves a frame waiting, the next one does what both do together. Only what a
frame that passes its limit still holds differs. -/
theorem feed_append_of_waiting (h : (f.feed d limit a).outcome = .ok false) :
    (f.feed d limit (a ++ b)).outcome = ((f.feed d limit a).frame.feed d limit b).outcome ∧
      ∀ found, ((f.feed d limit a).frame.feed d limit b).outcome = .ok found →
        f.feed d limit (a ++ b) = (f.feed d limit a).frame.feed d limit b := by
  obtain ⟨hf, -, hw⟩ := feed_of_waiting h
  obtain ⟨ht, -⟩ := scan_of_not_found d a 0 f.matched hf
  rw [Nat.zero_add] at ht
  have hs : scan d 0 f.matched (a ++ b) =
      { scan d 0 (scan d 0 f.matched a).matched b with
        taken := a.length + (scan d 0 (scan d 0 f.matched a).matched b).taken } := by
    rw [scan_append, if_neg (by simp [hf]), ht]
    exact scan_shift d b a.length 0 _
  rw [hw]
  cases hb : (scan d 0 (scan d 0 f.matched a).matched b).found with
  | false =>
    rw [feed_of_not_found (f := ⟨f.line ++ a, _⟩) hb, feed_of_not_found (by rw [hs]; exact hb), hs]
    simp only [List.length_append, List.append_assoc, Nat.add_assoc]
    split <;> simp
  | true =>
    rw [feed_of_found (f := ⟨f.line ++ a, _⟩) hb, feed_of_found (by rw [hs]; exact hb), hs]
    simp only [List.length_append, List.append_assoc, Nat.add_assoc]
    split <;> simp

/-- A frame that is complete leaves what follows in the read alone. -/
theorem feed_append_of_found (h : (f.feed d limit a).outcome = .ok true) :
    f.feed d limit (a ++ b) =
      { f.feed d limit a with left := (f.feed d limit a).left ++ b } := by
  obtain ⟨hf, hl⟩ := found_of_feed h
  have ht := scan_taken_add_rest d a 0 f.matched
  have hs : scan d 0 f.matched (a ++ b) =
      { scan d 0 f.matched a with rest := (scan d 0 f.matched a).rest ++ b } := by
    rw [scan_append, if_pos hf]
  -- what is kept lies within the first part
  have hk : min (f.line.length + (scan d 0 f.matched a).taken)
      (lengthWithout (f.line.length + (scan d 0 f.matched a).taken) d.length) ≤
        (f.line ++ a).length := by
    rw [List.length_append]
    omega
  rw [feed_of_found (by rw [hs]; exact hf), feed_of_found hf, hs]
  simp only [if_neg (Nat.not_lt.2 hl), ← List.append_assoc, List.take_append_of_le_length hk]

end Icap.Frame
