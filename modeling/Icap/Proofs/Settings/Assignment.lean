import Icap.Settings

/-!
# Settings given one by one

A setting that is given a value takes it over or refuses it, whatever the other settings are. So
settings are like the fields of a record: each holds what it was given last, and settings that are
given in another order come out the same.

* `get`, `put` — the settings by themselves.
* `on_assign`, `set_cases` — what becomes of a value that is given under a name.
* `toOption_read` — a document is read entry by entry.
-/

namespace Icap

/-! ## Single settings -/

/-- What a setting holds. -/
def Setting.Held : Setting → Type
  | .connectTimeout | .inactivityTimeout | .maxSessionTime => Duration
  | .maxSessions | .maxRoutes | .maxCommands | .maxHeader => Nat
  | .reuse => Bool
  | .userAgent | .service => String
  | .vendor => Vendor

/-- What a setting makes of a value that it is given under a name. -/
def Setting.take (name : String) (value : Document) :
    (setting : Setting) → Except SettingFault setting.Held
  | .connectTimeout | .inactivityTimeout | .maxSessionTime =>
    value.asDuration.mapError (.value name .duration)
  | .maxSessions | .maxRoutes | .maxHeader =>
    (value.asNumber .size).mapError (.value name .size)
  | .maxCommands => (value.asNumber .count).mapError (.value name .count)
  | .reuse => value.asFlag.mapError (.value name .flag)
  | .userAgent | .service => value.asText.mapError (.value name .text)
  | .vendor =>
    match value.asText with
    | .error fault => .error (.value name .text fault)
    | .ok given =>
      match Vendor.read? given with
      | some known => .ok known
      | none => .error (.unknownVendor given)

namespace Settings

variable {s s' : Settings} {a b : Setting} {name : String} {value : Document}

/-- What is held under a setting. -/
def get (s : Settings) : (setting : Setting) → setting.Held
  | .connectTimeout => s.connectTimeout
  | .inactivityTimeout => s.inactivityTimeout
  | .maxSessions => s.maxSessions
  | .reuse => s.reuse
  | .maxRoutes => s.maxRoutes
  | .maxSessionTime => s.maxSessionTime
  | .maxCommands => s.maxCommands
  | .maxHeader => s.maxHeader
  | .userAgent => s.userAgent
  | .service => s.service
  | .vendor => s.vendor

/-- The settings that hold something else under one of them. -/
def put (s : Settings) : (setting : Setting) → setting.Held → Settings
  | .connectTimeout, d => { s with connectTimeout := d }
  | .inactivityTimeout, d => { s with inactivityTimeout := d }
  | .maxSessions, n => { s with maxSessions := n }
  | .reuse, flag => { s with reuse := flag }
  | .maxRoutes, n => { s with maxRoutes := n }
  | .maxSessionTime, d => { s with maxSessionTime := d }
  | .maxCommands, n => { s with maxCommands := n }
  | .maxHeader, n => { s with maxHeader := n }
  | .userAgent, text => { s with userAgent := text }
  | .service, text => { s with service := text }
  | .vendor, vendor => { s with vendor := vendor }

/-- Settings are what they hold. -/
theorem eq_of_get (h : ∀ setting, s.get setting = s'.get setting) : s = s' := by
  cases s
  cases s'
  simp only [mk.injEq]
  exact ⟨h .connectTimeout, h .inactivityTimeout, h .maxSessions, h .reuse, h .maxRoutes,
    h .maxSessionTime, h .maxCommands, h .maxHeader, h .userAgent, h .service, h .vendor⟩

@[simp] theorem get_put (s : Settings) (v : a.Held) : (s.put a v).get a = v := by
  cases a <;> rfl

theorem get_put_of_ne (ne : b ≠ a) (s : Settings) (v : a.Held) :
    (s.put a v).get b = s.get b := by
  cases a <;> cases b <;> first | rfl | exact absurd rfl ne

/-- **Two settings can be given in either order.** -/
theorem put_comm (ne : a ≠ b) (s : Settings) (v : a.Held) (w : b.Held) :
    (s.put a v).put b w = (s.put b w).put a v := by
  refine eq_of_get fun c => ?_
  by_cases hb : c = b
  · subst hb
    rw [get_put, get_put_of_ne ne.symm, get_put]
  · rw [get_put_of_ne hb]
    by_cases ha : c = a
    · subst ha
      rw [get_put, get_put]
    · rw [get_put_of_ne ha, get_put_of_ne ha, get_put_of_ne hb]

/-! ## Giving -/

/-- **A setting takes a value or refuses it**, for reasons of the value alone. It holds then what it
makes of the value, and if it makes nothing of it, nothing has changed. -/
theorem on_assign (name : String) (setting : Setting) (value : Document) (s : Settings) :
    (assign name setting value).on s =
      match setting.take name value with
      | .ok v => (.ok (), s.put setting v)
      | .error fault => (.error fault, s) := by
  cases setting <;> simp only [assign, Setting.take]
  case connectTimeout | inactivityTimeout | maxSessionTime => cases value.asDuration <;> rfl
  case maxSessions | maxRoutes | maxHeader => cases value.asNumber .size <;> rfl
  case maxCommands => cases value.asNumber .count <;> rfl
  case reuse => cases value.asFlag <;> rfl
  case userAgent | service => cases value.asText <;> rfl
  case vendor =>
    cases value.asText with
    | error fault => rfl
    | ok given =>
      have kept (f : ValueFault → SettingFault) :
          liftExcept (m := Edit) (Except.mapError f (.ok given)) = pure given := rfl
      rw [kept, pure_bind]
      dsimp only
      cases Vendor.read? given <;> rfl

/-- What a change under a name can do: it puts something where the name says, or it fails and
nothing has changed. -/
theorem set_cases (name : String) (value : Document) :
    (∃ setting v, Setting.named? name = some setting ∧ setting.take name value = .ok v ∧
      ∀ s, (set name value).on s = (.ok (), s.put setting v)) ∨
    ∃ fault, ∀ s, (set name value).on s = (.error fault, s) := by
  cases named : Setting.named? name with
  | none => exact .inr ⟨.unknownName name, fun s => by simp only [set, named]; rfl⟩
  | some setting =>
    cases taken : setting.take name value with
    | error fault => exact .inr ⟨fault, fun s => by simp only [set, named, on_assign, taken]⟩
    | ok v =>
      exact .inl ⟨setting, v, rfl, taken, fun s => by simp only [set, named, on_assign, taken]⟩

/-! ## Entry by entry -/

/-- The settings after an entry of a map, unless it is refused. -/
def after? (s : Settings) (e : Document × Document) : Option Settings :=
  match (setEntry e).on s with
  | (.ok (), s) => some s
  | (.error _, _) => none

/-- An entry puts something where its name says, whatever the settings are, or all settings refuse
it. -/
theorem after?_cases (e : Document × Document) :
    (∃ name value setting v, e = (.text name, value) ∧ Setting.named? name = some setting ∧
      setting.take name value = .ok v ∧ ∀ s, after? s e = some (s.put setting v)) ∨
    ∀ s, after? s e = none := by
  obtain ⟨key, value⟩ := e
  cases key
  case text name =>
    rcases set_cases name value with ⟨setting, v, named, taken, done⟩ | ⟨fault, failed⟩
    · exact .inl ⟨name, value, setting, v, rfl, named, taken,
        fun s => by simp only [after?, setEntry, done]⟩
    · exact .inr fun s => by simp only [after?, setEntry, failed]
  all_goals exact .inr fun s => rfl

/-- A change that goes on with another one. -/
theorem on_bind {α β : Type} (edit : Edit α) (next : α → Edit β) (s : Settings) :
    (edit >>= next).on s =
      match edit.on s with
      | (.ok a, s) => (next a).on s
      | (.error fault, s) => (.error fault, s) := by
  simp only [Edit.on, ExceptT.run_bind, StateT.run_bind]
  rcases edit.run.run s with ⟨_ | _, s'⟩ <;> rfl

/-- A map is taken over entry by entry. -/
theorem on_forM_setEntry (entries : List (Document × Document)) (s : Settings) :
    (match (forM entries setEntry : Edit Unit).on s with
      | (.ok (), s) => some s
      | (.error _, _) => none) =
    entries.foldlM after? s := by
  induction entries generalizing s with
  | nil => rfl
  | cons e more ih =>
    rw [List.foldlM_cons, List.forM_cons, on_bind]
    rcases done : (setEntry e).on s with ⟨fault | _, s'⟩
    · simp only [after?, done]
      rfl
    · simp only [after?, done]
      exact ih s'

theorem toOption_read (entries : List (Document × Document)) :
    (read (.map entries)).toOption = entries.foldlM after? {} := by
  rw [← on_forM_setEntry, read]
  rcases (forM entries setEntry : Edit Unit).on {} with ⟨_ | _, s⟩ <;> rfl

end Settings

end Icap
