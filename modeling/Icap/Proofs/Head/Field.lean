import Icap.Head.Field

/-!
# Looking up a field

The look-up of a field in a head goes through its lines, from the one after the status line on, and
takes the first that is a field with the name.

* `First` — a field that is the first with its name, and the lines around it.
* `find?_eq_some_iff`, `find?_eq_none_iff` — what the look-up finds.
-/

namespace Icap.Field

open Text

variable {name line : String} {lines head before after : List String} {index k : Nat} {f : Field}

/-- A field is the first with a name in a head: it stands between the lines `before` and `after`,
and none of those before it, the status line aside, is a field with the name. -/
structure First (name : String) (head before : List String) (f : Field) (after : List String) :
    Prop where
  split : ∃ status line, head = status :: (before ++ line :: after) ∧ read line = .ok f
  named : sameLetters f.name name = true
  first : ∀ line ∈ before, isNamed name line = false

/-! ## Numbered lines -/

theorem exists_read_of_isNamed (h : isNamed name line = true) :
    ∃ f, read line = .ok f ∧ sameLetters f.name name = true := by
  simp only [isNamed] at h
  split at h
  next f hf => exact ⟨f, hf, h⟩
  · cases h

theorem findFrom_cons_of_named (h : read line = .ok f) (named : sameLetters f.name name = true)
    (index : Nat) : findFrom name index (line :: lines) = some (index, f) := by
  simp [findFrom, h, named]

theorem findFrom_cons_of_not_named (h : isNamed name line = false) (index : Nat) :
    findFrom name index (line :: lines) = findFrom name (index + 1) lines := by
  simp only [isNamed] at h
  simp only [findFrom]
  split at h <;> simp_all

/-- Nothing is found among lines of which none is a field with the name. -/
theorem findFrom_eq_none_iff : ∀ {lines : List String} {index : Nat},
    findFrom name index lines = none ↔ ∀ line ∈ lines, isNamed name line = false
  | [], _ => by simp [findFrom]
  | line :: lines, index => by
    rw [List.forall_mem_cons]
    cases hn : isNamed name line with
    | true =>
      obtain ⟨f, hf, named⟩ := exists_read_of_isNamed hn
      rw [findFrom_cons_of_named hf named]
      simp
    | false =>
      rw [findFrom_cons_of_not_named hn, findFrom_eq_none_iff]
      simp

/-- The look-up goes on behind lines among which it finds nothing. -/
theorem findFrom_append : ∀ (before lines : List String) (index : Nat),
    findFrom name index (before ++ lines) =
      (findFrom name index before).or (findFrom name (index + before.length) lines)
  | [], _, _ => rfl
  | line :: before, lines, index => by
    rw [List.cons_append]
    cases hn : isNamed name line with
    | true =>
      obtain ⟨f, hf, named⟩ := exists_read_of_isNamed hn
      rw [findFrom_cons_of_named hf named, findFrom_cons_of_named hf named]
      rfl
    | false =>
      rw [findFrom_cons_of_not_named hn, findFrom_cons_of_not_named hn, findFrom_append before,
        List.length_cons, Nat.add_assoc, Nat.add_comm 1]

/-- What is found stands behind lines that are no fields with the name. -/
theorem exists_of_findFrom : ∀ {lines : List String} {index : Nat},
    findFrom name index lines = some (k, f) →
      ∃ before line after, lines = before ++ line :: after ∧ k = index + before.length ∧
        read line = .ok f ∧ sameLetters f.name name = true ∧
        ∀ line ∈ before, isNamed name line = false
  | line :: lines, index, h => by
    cases hn : isNamed name line with
    | true =>
      obtain ⟨f, hf, named⟩ := exists_read_of_isNamed hn
      rw [findFrom_cons_of_named hf named] at h
      cases h
      exact ⟨[], line, lines, rfl, rfl, hf, named, by simp⟩
    | false =>
      rw [findFrom_cons_of_not_named hn] at h
      obtain ⟨before, line', after, rfl, rfl, hf, named, first⟩ := exists_of_findFrom h
      refine ⟨line :: before, line', after, rfl, ?_, hf, named,
        List.forall_mem_cons.mpr ⟨hn, first⟩⟩
      rw [List.length_cons]
      omega

/-! ## Heads -/

/-- **The look-up finds the first field with the name.** -/
theorem find?_eq_some_iff :
    find? head name = some (index, f) ↔
      ∃ before after, index = before.length + 1 ∧ First name head before f after := by
  constructor
  · intro h
    cases head with
    | nil => cases h
    | cons status lines =>
      obtain ⟨before, line, after, rfl, rfl, hf, named, first⟩ := exists_of_findFrom h
      exact ⟨before, after, Nat.add_comm 1 _, ⟨status, line, rfl, hf⟩, named, first⟩
  · rintro ⟨before, after, rfl, ⟨status, line, rfl, hf⟩, named, first⟩
    rw [find?, List.tail_cons, findFrom_append, findFrom_eq_none_iff.mpr first, Option.none_or,
      findFrom_cons_of_named hf named, Nat.add_comm]

/-- **The look-up finds nothing** if there is no field with the name. -/
theorem find?_eq_none_iff :
    find? head name = none ↔ ∀ line ∈ head.tail, isNamed name line = false :=
  findFrom_eq_none_iff

/-- There is no more than one first field with a name. -/
theorem First.unique {before' after' : List String} {f' : Field}
    (h : First name head before f after) (h' : First name head before' f' after') :
    before = before' ∧ f = f' ∧ after = after' := by
  have hf := find?_eq_some_iff.mpr ⟨before, after, rfl, h⟩
  have hf' := find?_eq_some_iff.mpr ⟨before', after', rfl, h'⟩
  rw [hf] at hf'
  obtain ⟨hlen, rfl⟩ := Prod.mk.inj (Option.some.inj hf')
  obtain ⟨status, line, rfl, -⟩ := h.split
  obtain ⟨status', line', heq, -⟩ := h'.split
  obtain ⟨rfl, hafter⟩ := List.append_inj (List.cons.inj heq).2 (Nat.succ.inj hlen)
  exact ⟨rfl, rfl, (List.cons.inj hafter).2⟩

/-- The lines after the first field with a name. -/
theorem First.drop_eq (h : First name head before f after) :
    head.drop (before.length + 1 + 1) = after := by
  obtain ⟨status, line, rfl, -⟩ := h.split
  rw [List.drop_succ_cons, List.drop_append, Nat.add_sub_cancel_left,
    List.drop_eq_nil_of_le (Nat.le_add_right _ 1)]
  rfl

end Icap.Field
