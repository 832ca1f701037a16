import Icap.Proofs.Text.Cuts
import Icap.Proofs.Url.Escape
import Icap.Url.Path

/-!
# Paths that are settled

A path that has been read has no dot segments any more, and shows nothing that would be escaped. So
it is read again as what it is, and so is every path that is left of it when slashes are dropped in
front.

* `IsSettled` — what is left of a path behind its first slash.
* `readPath_of_isSettled` — it is read as it is.
* `exists_isSettled_readPath` — what is read is settled.
-/

namespace Icap.Url

open Text

variable {cs s : List Char} {segments resolved : List (List Char)}
  {P : List Char → Prop}

/-- Whether a segment stands for another place. -/
def isDots (s : List Char) : Bool := isSingleDot s || isDoubleDot s

/-- A path behind its first slash has nothing to escape and no dot segments. -/
structure IsSettled (cs : List Char) : Prop where
  plain : ∀ c ∈ cs, IsVisible c ∧ c ∉ pathReserved
  noDots : ∀ s ∈ piecesBy '/' cs, isDots s = false

theorem isSettled_nil : IsSettled [] where
  plain := List.forall_mem_nil _
  noDots := by decide

/-- What stands behind a slash is settled. -/
theorem IsSettled.tail (h : IsSettled ('/' :: cs)) : IsSettled cs where
  plain c hc := h.plain c (List.mem_cons_of_mem '/' hc)
  noDots s hs := h.noDots s (by rw [piecesBy_cons, if_pos rfl]; exact List.mem_cons_of_mem [] hs)

/-- Slashes may be dropped in front. -/
theorem IsSettled.dropSlashes (h : IsSettled cs) : IsSettled (cs.dropWhile (· == '/')) := by
  induction cs with
  | nil => exact h
  | cons c cs ih =>
    rw [List.dropWhile_cons]
    split
    next slash =>
      obtain rfl := beq_iff_eq.mp slash
      exact ih h.tail
    · exact h

/-! ## Segments and their text -/

theorem pathText_cons (s : List Char) (segments : List (List Char)) :
    pathText (s :: segments) = '/' :: (s ++ pathText segments) := rfl

/-- A text is the path of its pieces. -/
theorem pathText_piecesBy (cs : List Char) : pathText (piecesBy '/' cs) = '/' :: cs := by
  induction cs with
  | nil => rfl
  | cons c cs ih =>
    rw [piecesBy_cons]
    split
    next slash =>
      rw [pathText_cons, ih, slash]
      rfl
    · obtain ⟨s, more, split⟩ := List.exists_cons_of_ne_nil (piecesBy_ne_nil '/' cs)
      rw [split, pathText_cons] at ih
      rw [split, consFirst, pathText_cons, List.cons_append, (List.cons.inj ih).2]

/-- **The pieces of a path** are its segments, behind an empty one. -/
theorem piecesBy_pathText (h : ∀ s ∈ segments, '/' ∉ s) :
    piecesBy '/' (pathText segments) = [] :: segments := by
  induction segments with
  | nil => rfl
  | cons s segments ih =>
    obtain ⟨whole, others⟩ := List.forall_mem_cons.mp h
    have behind : piecesBy '/' (s ++ pathText segments) = s :: segments := by
      cases segments with
      | nil => rw [pathText, List.flatMap_nil, List.append_nil, piecesBy_of_not_mem whole]
      | cons t segments =>
        have more := ih others
        rw [pathText_cons, piecesBy_cons, if_pos rfl] at more
        rw [pathText_cons, piecesBy_append, piecesBy_of_not_mem whole, (List.cons.inj more).2]
        rfl
    rw [pathText_cons, piecesBy_cons, if_pos rfl, behind]

/-! ## Dot segments -/

theorem mem_of_mem_goBack (h : s ∈ goBack resolved) : s ∈ resolved := by
  cases resolved with
  | nil => exact h
  | cons t resolved =>
    rw [goBack] at h
    split at h
    · exact h
    · exact List.mem_cons_of_mem t h

/-- **What resolving leaves** are segments that are no dot segments, and perhaps an empty one at the
end. -/
theorem forall_mem_resolve (empty : P []) (hresolved : ∀ s ∈ resolved, P s)
    (hsegments : ∀ s ∈ segments, isDots s = false → P s) :
    ∀ s ∈ resolve resolved segments, P s := by
  have back {resolved : List (List Char)} (h : ∀ s ∈ resolved, P s) :
      ∀ s ∈ goBack resolved, P s := fun s hs => h s (mem_of_mem_goBack hs)
  have kept {s : List Char} (h : isDots s = false → P s) (double : ¬isDoubleDot s = true)
      (single : ¬isSingleDot s = true) : P s :=
    h (Bool.or_eq_false_iff.mpr ⟨Bool.eq_false_iff.mpr single, Bool.eq_false_iff.mpr double⟩)
  fun_induction resolve resolved segments with
  | case1 resolved => simpa using hresolved
  | case2 resolved s double =>
    simp only [List.mem_reverse]
    exact List.forall_mem_cons.mpr ⟨empty, back hresolved⟩
  | case3 resolved s double single =>
    simp only [List.mem_reverse]
    exact List.forall_mem_cons.mpr ⟨empty, hresolved⟩
  | case4 resolved s double single =>
    simp only [List.mem_reverse]
    exact List.forall_mem_cons.mpr
      ⟨kept (hsegments s List.mem_cons_self) double single, hresolved⟩
  | case5 resolved s t more double ih =>
    exact ih (back hresolved) (List.forall_mem_cons.mp hsegments).2
  | case6 resolved s t more double single ih =>
    exact ih hresolved (List.forall_mem_cons.mp hsegments).2
  | case7 resolved s t more double single ih =>
    obtain ⟨first, others⟩ := List.forall_mem_cons.mp hsegments
    exact ih (List.forall_mem_cons.mpr ⟨kept first double single, hresolved⟩) others

/-- Where there are no dot segments, there is nothing to resolve. -/
theorem resolve_of_noDots (h : ∀ s ∈ segments, isDots s = false) :
    resolve resolved segments = resolved.reverse ++ segments := by
  fun_induction resolve resolved segments with
  | case1 resolved => rw [List.append_nil]
  | case4 resolved s double single => rw [List.reverse_cons]
  | case7 resolved s t more double single ih =>
    rw [ih (List.forall_mem_cons.mp h).2, List.reverse_cons, List.append_assoc,
      List.singleton_append]
  | case2 resolved s double | case5 resolved s t more double =>
    have noDots := (Bool.or_eq_false_iff.mp (h s List.mem_cons_self)).2
    exact absurd double (by simp [noDots])
  | case3 resolved s double single | case6 resolved s t more double single =>
    have noDots := (Bool.or_eq_false_iff.mp (h s List.mem_cons_self)).1
    exact absurd single (by simp [noDots])

/-- Something is left of a path. -/
theorem resolve_ne_nil (h : segments ≠ []) : resolve resolved segments ≠ [] := by
  fun_induction resolve resolved segments with
  | case1 => exact absurd rfl h
  | case2 | case3 | case4 => simp
  | case5 _ _ _ _ _ ih | case6 _ _ _ _ _ _ ih | case7 _ _ _ _ _ _ ih =>
    exact ih (List.cons_ne_nil _ _)

/-! ## Reading -/

/-- **A settled path is read as it is.** -/
theorem readPath_of_isSettled (h : IsSettled cs) : readPath cs = '/' :: cs := by
  have plain : (piecesBy '/' cs).map (escape pathReserved) = piecesBy '/' cs :=
    (List.map_congr_left fun s hs => escape_eq_self fun c hc =>
      h.plain c (mem_of_mem_piecesBy hs hc).1).trans (List.map_id _)
  rw [readPath, plain, resolve_of_noDots h.noDots, List.reverse_nil, List.nil_append,
    pathText_piecesBy]

/-- What a segment is like once it has been escaped and is no dot segment. -/
structure IsSettledSegment (s : List Char) : Prop where
  plain : ∀ c ∈ s, IsVisible c ∧ c ∉ pathReserved
  noSlash : '/' ∉ s
  noDots : isDots s = false

theorem isSettled_of_segments (h : ∀ s ∈ segments, IsSettledSegment s)
    (text : pathText segments = '/' :: cs) : IsSettled cs := by
  have settled : IsSettled (pathText segments) := by
    constructor
    · intro c hc
      obtain ⟨s, hs, hc⟩ := List.mem_flatMap.mp hc
      rcases List.mem_cons.mp hc with rfl | hc
      · decide
      · exact (h s hs).plain c hc
    · rw [piecesBy_pathText fun s hs => (h s hs).noSlash]
      exact List.forall_mem_cons.mpr ⟨by decide, fun s hs => (h s hs).noDots⟩
  exact (text ▸ settled).tail

/-- **What is read of a path is settled** behind its first slash. -/
theorem exists_isSettled_readPath (cs : List Char) :
    ∃ rest, readPath cs = '/' :: rest ∧ IsSettled rest := by
  have left : resolve [] ((piecesBy '/' cs).map (escape pathReserved)) ≠ [] :=
    resolve_ne_nil (by simpa using piecesBy_ne_nil '/' cs)
  obtain ⟨s, more, left⟩ := List.exists_cons_of_ne_nil left
  have text : readPath cs = '/' :: (s ++ pathText more) := by rw [readPath, left, pathText_cons]
  refine ⟨s ++ pathText more, text, isSettled_of_segments (forall_mem_resolve ?_ ?_ ?_) text⟩
  · exact ⟨List.forall_mem_nil _, List.not_mem_nil, by decide⟩
  · exact List.forall_mem_nil _
  · intro s hs noDots
    obtain ⟨piece, hpiece, rfl⟩ := List.mem_map.mp hs
    refine ⟨?_, fun slash => ?_, noDots⟩
    · refine forall_mem_escape (by decide) (by decide) fun c hc low high plain => ⟨?_, plain⟩
      exact isVisible_of_ne_space low high (by rintro rfl; exact plain (by decide))
    · exact forall_mem_escape (P := (· ≠ '/')) (by decide) (by decide)
        (fun c hc _ _ _ => (mem_of_mem_piecesBy hpiece hc).2) '/' slash rfl

end Icap.Url
