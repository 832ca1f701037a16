import Icap.Request
import Icap.Settings.Value
import Icap.Vendor

/-!
# Settings

What a client can be told: limits on its sessions, timeouts, and how it speaks to its servers.

* `Settings.check` — which settings a client accepts.
* `Settings.set` — one setting by its name, from a document, in place.
* `Settings.read` — all settings of a document.
-/

namespace Icap

open Text

/-- The settings of a client. -/
structure Settings where
  connectTimeout : Duration := Duration.ofSeconds 5
  inactivityTimeout : Duration := Duration.ofSeconds 30
  /-- The greatest number of sessions of a route, or zero for no limit. -/
  maxSessions : Nat := 128
  /-- Whether a session may serve more than one scan. -/
  reuse : Bool := true
  maxRoutes : Nat := 64
  maxSessionTime : Duration := Duration.ofSeconds 18000
  maxCommands : Nat := 2147483647
  /-- The greatest size of a response's head and of the line in front of its chunk. -/
  maxHeader : Nat := 65536
  userAgent : String := "G3 ICAP Scan Client/0.1.0"
  service : String := "SYMCScanResp-AV"
  vendor : Vendor := .violations
  deriving DecidableEq, Repr

namespace Settings

/-- Refuses to reuse sessions whose number has no limit. -/
def check (s : Settings) : Except ScanFault Unit :=
  if s.reuse ∧ s.maxSessions = 0 then .error .reuseUnlimited else .ok ()

/-- How a client with these settings presents itself. -/
def agent (s : Settings) : Agent := ⟨s.userAgent, Route.dropSlashes s.service⟩

end Settings

/-! ## Names -/

/-- The settings by themselves. -/
inductive Setting
  | connectTimeout
  | inactivityTimeout
  | maxSessions
  | reuse
  | maxRoutes
  | maxSessionTime
  | maxCommands
  | maxHeader
  | userAgent
  | service
  | vendor
  deriving DecidableEq, Repr

namespace Setting

/-- A name with small letters and underscores for hyphens. No name of a setting has a letter that
another script's capital could fold to, so folding ASCII is enough. -/
def normalName (name : String) : String :=
  String.ofList ((foldCase name.toList).map fun c => if c = '-' then '_' else c)

/-- The names of the settings in normal form. -/
def names : List (String × Setting) :=
  [("connect_timeout", .connectTimeout),
    ("inactivity_timeout", .inactivityTimeout),
    ("idle_timeout", .inactivityTimeout),
    ("max_sessions_per_route", .maxSessions),
    ("max_sessions", .maxSessions),
    ("reuse_session", .reuse),
    ("reuse_connection", .reuse),
    ("max_routes", .maxRoutes),
    ("max_session_time", .maxSessionTime),
    ("max_command_count", .maxCommands),
    ("max_header_size", .maxHeader),
    ("user_agent", .userAgent),
    ("default_service", .service),
    ("service", .service),
    ("vendor", .vendor),
    ("vendor_style", .vendor)]

/-- The setting with a name. -/
def named? (name : String) : Option Setting := names.lookup (normalName name)

/-- What a setting takes. -/
def kind : Setting → ValueKind
  | .connectTimeout | .inactivityTimeout | .maxSessionTime => .duration
  | .maxSessions | .maxRoutes | .maxHeader => .size
  | .maxCommands => .count
  | .reuse => .flag
  | .userAgent | .service | .vendor => .text

end Setting

/-! ## Reading -/

/-- Why a document gives no settings. -/
inductive SettingFault
  | noMap
  | noName
  | unknownName (name : String)
  | value (name : String) (kind : ValueKind) (fault : ValueFault)
  | unknownVendor (given : String)
  deriving DecidableEq, Repr

/-- The text of a fault. -/
def SettingFault.message : SettingFault → String
  | .noMap => "yaml value type for 'icap scan config' should be 'map'"
  | .noName => "yaml key type should be 'string'"
  | .unknownName name => "invalid key " ++ name
  | .value name kind fault =>
    "invalid " ++ kind.name ++ " value for key " ++ name ++ ": " ++ fault.message
  | .unknownVendor given => "unsupported icap vendor style " ++ given

namespace Settings

/-- A change of settings in place. What has been assigned before it fails stays assigned. -/
abbrev Edit := ExceptT SettingFault (StateM Settings)

/-- How a change ends, and the settings that it leaves behind. -/
def Edit.on {α : Type} (edit : Edit α) (s : Settings) : Except SettingFault α × Settings :=
  edit.run.run s

/-- Gives a setting, under a name, a value. -/
def assign (name : String) (setting : Setting) (value : Document) : Edit Unit := do
  let blame {α : Type} (given : Except ValueFault α) : Edit α :=
    liftExcept (given.mapError (SettingFault.value name setting.kind))
  match setting with
  | .connectTimeout =>
    let d ← blame value.asDuration
    modify ({ · with connectTimeout := d })
  | .inactivityTimeout =>
    let d ← blame value.asDuration
    modify ({ · with inactivityTimeout := d })
  | .maxSessionTime =>
    let d ← blame value.asDuration
    modify ({ · with maxSessionTime := d })
  | .maxSessions =>
    let n ← blame (value.asNumber .size)
    modify ({ · with maxSessions := n })
  | .maxRoutes =>
    let n ← blame (value.asNumber .size)
    modify ({ · with maxRoutes := n })
  | .maxHeader =>
    let n ← blame (value.asNumber .size)
    modify ({ · with maxHeader := n })
  | .maxCommands =>
    let n ← blame (value.asNumber .count)
    modify ({ · with maxCommands := n })
  | .reuse =>
    let flag ← blame value.asFlag
    modify ({ · with reuse := flag })
  | .userAgent =>
    let text ← blame value.asText
    modify ({ · with userAgent := text })
  | .service =>
    let text ← blame value.asText
    modify ({ · with service := text })
  | .vendor =>
    let given ← blame value.asText
    match Vendor.read? given with
    | some vendor => modify ({ · with vendor })
    | none => throw (.unknownVendor given)

/-- Gives the setting with a name a value. -/
def set (name : String) (value : Document) : Edit Unit :=
  match Setting.named? name with
  | some setting => assign name setting value
  | none => throw (.unknownName name)

/-- Takes over an entry of a map. -/
def setEntry : Document × Document → Edit Unit
  | (.text name, value) => set name value
  | _ => throw .noName

/-- The settings of a document; what it does not name keeps its default. The entries of a map are
taken over in their order. -/
def read : Document → Except SettingFault Settings
  | .map entries =>
    match (forM entries setEntry : Edit Unit).on {} with
    | (.ok (), s) => .ok s
    | (.error fault, _) => .error fault
  | _ => .error .noMap

end Settings

end Icap
