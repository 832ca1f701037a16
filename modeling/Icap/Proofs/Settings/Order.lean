import Icap.Proofs.Settings.Assignment

/-!
# The order of settings

A document may give its settings in any order, as long as it gives none of them twice, be it under
two of its names. And a value that is refused leaves no trace.

* `settingOf?` — which setting an entry is about.
* `foldlM_after?_of_perm` — entries about different settings, in another order.
* `given_in_any_order` — documents, and single settings in place.
-/

namespace Icap.Settings

variable {e f : Document × Document} {entries entries' : List (Document × Document)}

/-- The setting that an entry of a map names, under any of its names. -/
def settingOf? : Document × Document → Option Setting
  | (.text name, _) => Setting.named? name
  | _ => none

/-- Two entries are not about the same setting. -/
def Apart (e f : Document × Document) : Prop :=
  ∀ a ∈ settingOf? e, ∀ b ∈ settingOf? f, a ≠ b

theorem Apart.symm (apart : Apart e f) : Apart f e :=
  fun b hb a ha => (apart a ha b hb).symm

/-- Two entries come to the same in either order. -/
theorem Apart.after?_comm (apart : Apart e f) (s : Settings) :
    (after? s e).bind (after? · f) = (after? s f).bind (after? · e) := by
  rcases after?_cases e with ⟨_, _, a, v, rfl, ha, -, he⟩ | he <;>
    rcases after?_cases f with ⟨_, _, b, w, rfl, hb, -, hf⟩ | hf
  · simp only [he, hf, Option.bind_some, put_comm (apart a ha b hb)]
  all_goals simp only [he, hf, Option.bind_some, Option.bind_none]

/-- **Entries in another order** come to the same settings, or are refused as well. -/
theorem foldlM_after?_of_perm (perm : entries.Perm entries') (apart : entries.Pairwise Apart)
    (s : Settings) : entries.foldlM after? s = entries'.foldlM after? s := by
  induction perm generalizing s with
  | nil => rfl
  | cons e _ ih =>
    rw [List.foldlM_cons, List.foldlM_cons]
    exact congrArg _ (funext fun s => ih apart.of_cons s)
  | swap e f more =>
    have first : Apart f e := List.rel_of_pairwise_cons apart List.mem_cons_self
    simp only [List.foldlM_cons, ← bind_assoc]
    exact congrArg (· >>= fun s => more.foldlM after? s) (first.after?_comm s)
  | trans perm _ ih ih' =>
    exact (ih apart s).trans (ih' (apart.perm perm Apart.symm) s)

/-- **Settings may be given in any order.** The entries of a map that are about different settings,
whatever their names, values and faults, are refused in every order, or come to the same settings
in every order. And a single setting, given a value in place, changes alone, or nothing changes. -/
theorem given_in_any_order :
    (∀ entries : List (Document × Document), (entries.filterMap settingOf?).Nodup →
      (∃ s, ∀ entries', entries.Perm entries' → read (.map entries') = .ok s) ∨
      ∀ entries', entries.Perm entries' → ∃ fault, read (.map entries') = .error fault) ∧
    ∀ (s : Settings) (name : String) (value : Document),
      (∃ setting s', Setting.named? name = some setting ∧ (set name value).on s = (.ok (), s') ∧
        ∀ other ≠ setting, s'.get other = s.get other) ∨
      ∃ fault, (set name value).on s = (.error fault, s) := by
  constructor
  · intro entries distinct
    have apart : entries.Pairwise Apart := List.pairwise_filterMap.mp distinct
    have same : ∀ entries', entries.Perm entries' →
        (read (.map entries')).toOption = (read (.map entries)).toOption := by
      intro entries' perm
      rw [toOption_read, toOption_read, foldlM_after?_of_perm perm apart]
    cases first : read (.map entries) with
    | ok s =>
      refine .inl ⟨s, fun entries' perm => ?_⟩
      have again := same entries' perm
      rw [first] at again
      cases other : read (.map entries') <;> rw [other] at again <;> cases again
      rfl
    | error fault =>
      refine .inr fun entries' perm => ?_
      have again := same entries' perm
      rw [first] at again
      cases other : read (.map entries') with
      | ok s =>
        rw [other] at again
        cases again
      | error fault' => exact ⟨fault', rfl⟩
  · intro s name value
    rcases set_cases name value with ⟨setting, v, named, -, done⟩ | ⟨fault, failed⟩
    · exact .inl ⟨setting, _, named, done s, fun other ne => get_put_of_ne ne s v⟩
    · exact .inr ⟨fault, failed s⟩

/-! ### Three settings -/

/-- Three settings, each under a name in a spelling of its own. -/
def threeEntries : List (Document × Document) :=
  [(.text "Max-Sessions", .text "16"), (.text "IDLE-timeout", .text "1m"),
    (.text "reuse_connection", .int 0)]

theorem given_in_any_order_three :
    (threeEntries.filterMap settingOf?).Nodup ∧
      ((∃ s, ∀ entries', threeEntries.Perm entries' → read (.map entries') = .ok s) ∨
        ∀ entries', threeEntries.Perm entries' → ∃ fault, read (.map entries') = .error fault) := by
  have distinct : (threeEntries.filterMap settingOf?).Nodup := by decide +kernel
  exact ⟨distinct, given_in_any_order.1 _ distinct⟩

/-- Of two values for one setting the last one counts. -/
example : (read (.map [(.text "max_sessions", .int 1), (.text "max-sessions-per-route", .int 2)]) :
    Except SettingFault Settings).toOption = some { maxSessions := 2 } := by
  decide +kernel

end Icap.Settings
