import Icap.Text.Utf8
import Icap.Url

/-!
# Routes

A route names an ICAP server endpoint by host, port and service. It is the key by which sessions
are pooled, so two texts that lead to the same route share their sessions.

* `Route.make` — normal form: the host without brackets, the service without leading slashes.
* `Route.read` — the route of an `icap` URL.
* `Route.text` — the URL of a route.
-/

namespace Icap

/-- An ICAP server endpoint. -/
structure Route where
  host : String
  port : UInt16
  service : String
  deriving DecidableEq, Repr, Inhabited

/-- Why a text leads to no route. -/
inductive RouteFault
  | url (text : String) (fault : UrlFault)
  | scheme (scheme : String)
  | noHost (url : String)
  deriving DecidableEq, Repr

/-- The text of a fault. -/
def RouteFault.message : RouteFault → String
  | .url given fault => "invalid url " ++ given ++ ": " ++ fault.message
  | .scheme name => "unsupported url scheme " ++ name
  | .noHost given => "no host found in url " ++ given

namespace Route

/-- The port of ICAP. -/
def defaultPort : UInt16 := 1344

/-- Whether a character is a square bracket. -/
def isBracket (c : Char) : Bool := c == '[' || c == ']'

/-- A text without the brackets at its ends. -/
def dropBrackets (cs : List Char) : List Char :=
  ((cs.dropWhile isBracket).reverse.dropWhile isBracket).reverse

/-- A text without the slashes in front. -/
def dropSlashes (s : String) : String := String.ofList (s.toList.dropWhile (· == '/'))

/-- The route with a host, a port and a service, in normal form. -/
def make (host : String) (port : UInt16) (service : String) : Route :=
  ⟨String.ofList (dropBrackets host.toList), port, dropSlashes service⟩

/-- The host as a URL writes it: an IPv6 address stands in brackets. -/
def uriHost (r : Route) : String :=
  if r.host.toList.contains ':' then "[" ++ r.host ++ "]" else r.host

/-- The URL of a route. -/
def text (r : Route) : String :=
  "icap://" ++ r.uriHost ++ ":" ++ Text.decimal r.port.toNat ++ "/" ++ r.service

/-- The route of a URL. -/
def ofUrl (u : Url) : Except RouteFault Route :=
  if u.scheme = "icap".toList then
    match u.host with
    | some host =>
      .ok (make (String.ofList host) (u.port.elim defaultPort UInt16.ofNat) (String.ofList u.path))
    | none => .error (.noHost u.text)
  else .error (.scheme (String.ofList u.scheme))

/-- The route that the text of a URL leads to. -/
def read (s : String) : Except RouteFault Route :=
  match Url.read s with
  | .ok u => ofUrl u
  | .error fault => .error (.url s fault)

end Route

end Icap
