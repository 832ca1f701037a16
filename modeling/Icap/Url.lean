import Icap.Text.Letter
import Icap.Url.Host
import Icap.Url.Path

/-!
# URLs

Reads a URL as the URL standard does. Of the schemes that the standard gives rules of their
own, only what decides whether the URL can be read follows these rules, as the client serves none of
them.

* `Url.read` — the parts of a URL, or why the text is none.
* `Url.text` — the text of a URL whose host is missing, which is the one that an error shows.
-/

namespace Icap

/-- A URL as far as a route needs it. The name and password of a user are not kept. -/
structure Url where
  /-- The scheme in small letters. -/
  scheme : List Char
  /-- Whether two slashes follow the scheme. -/
  authority : Bool
  /-- The host, an IPv6 address without its brackets. -/
  host : Option (List Char)
  port : Option Nat
  path : List Char
  /-- What follows the path, with its question mark and number sign. -/
  tail : List Char
  deriving DecidableEq, Repr

namespace Url

open Text

/-! ## Scheme -/

/-- Schemes for which the standard has rules of their own, and whose URLs have to name a host. -/
def specialSchemes : List (List Char) :=
  ["http".toList, "https".toList, "ws".toList, "wss".toList, "ftp".toList]

/-- Whether a character may stand in a scheme after its first letter. -/
def isSchemeChar (c : Char) : Bool := c.isAlphanum || c == '+' || c == '-' || c == '.'

/-- The scheme of a text and what follows its colon. -/
def scheme? (cs : List Char) : Option (List Char × List Char) :=
  match cs.dropWhile isSchemeChar with
  | ':' :: rest =>
    if cs.head?.any Char.isAlpha then some (foldCase (cs.takeWhile isSchemeChar), rest) else none
  | _ => none

/-! ## Authority -/

/-- The authority at the start of a text and what follows it; under a special scheme a backslash
ends it as well. -/
def authoritySpan (special : Bool) (cs : List Char) : List Char × List Char :=
  cs.span fun c => !(c == '/' || c == '?' || c == '#' || (special && c == '\\'))

/-- Cuts an authority at its last `@`. -/
def credentials (cs : List Char) : Option (List Char × List Char) :=
  match (piecesBy '@' cs).reverse with
  | host :: before :: more =>
    some (['@'].intercalate (before :: more).reverse, host)
  | _ => none

/-- The end of the host in an authority: the first colon outside brackets. -/
def hostSpan (inside : Bool) : List Char → List Char × List Char
  | [] => ([], [])
  | c :: cs =>
    if c = ':' ∧ inside = false then ([], c :: cs)
    else
      let (host, rest) := hostSpan (if c = '[' then true else if c = ']' then false else inside) cs
      (c :: host, rest)

/-- Reads the digits of a port, of which there may be none. -/
def readPort (cs : List Char) : Except UrlFault (Option Nat) :=
  let digits := digitRun decimal? cs
  if 65535 < leadingValue 10 decimal? cs then .error .port
  else
    match afterDigits decimal? cs with
    | [] | '\\' :: _ =>
      .ok (if digits = [] then none else some (leadingValue 10 decimal? cs))
    | _ => .error .port

/-- Host, port, and what a backslash after the port leaves to the path. -/
def readAuthority (special : Bool) (authority : List Char) (atEnd : Bool) :
    Except UrlFault (Option (List Char) × Option Nat × List Char) := do
  let named := credentials authority
  let (user, rest) := named.getD ([], authority)
  if named.isSome ∧ user = [] ∧ rest = [] ∧ atEnd = false then throw .emptyHost
  let (host, after) := hostSpan false rest
  if host = [] then
    if special ∨ after ≠ [] ∨ (user ≠ [] ∧ user ≠ [':']) then throw .emptyHost
    return (none, none, [])
  let host ← if special then Host.readNamed host else Host.readOpaque host
  let port ← readPort after.tail
  return (some host, port, (afterDigits decimal? after.tail))

/-! ## Path, query and fragment -/

/-- A query and a fragment as the URL writes them. -/
def readTail (cs : List Char) : List Char :=
  match cs with
  | '?' :: rest =>
    let (query, fragment) := rest.span (· != '#')
    '?' :: (escape queryReserved query ++ readFragment fragment)
  | _ => readFragment cs
where
  /-- A fragment as the URL writes it, with its number sign. -/
  readFragment : List Char → List Char
    | [] => []
    | c :: rest => c :: escape fragmentReserved rest

/-- Whether a character begins the part after the path. -/
def endsPath (c : Char) : Bool := c == '?' || c == '#'

/-- Reads what follows the scheme when two slashes do. -/
def readHierarchy (scheme cs : List Char) : Except UrlFault Url := do
  let special := specialSchemes.contains scheme
  let (authority, rest) := authoritySpan special cs
  let (host, port, left) ← readAuthority special authority rest.isEmpty
  let (path, tail) := (left ++ rest).span (fun c => !endsPath c)
  let path := match path with
    | [] => []
    | '/' :: segments => readPath segments
    | segments => readPath segments
  return ⟨scheme, true, host, port, path, readTail tail⟩

/-- Reads what follows the scheme when two slashes do not: a path with a slash in front, or text
that is no path at all. -/
def readRootless (scheme cs : List Char) : Url :=
  let (path, tail) := cs.span (fun c => !endsPath c)
  let path := match path with
    | '/' :: segments => readPath segments
    | other => escape [] other
  ⟨scheme, false, none, none, path, readTail tail⟩

/-- Whether a character parts segments under the schemes that the standard knows. -/
def isSlash (c : Char) : Bool := c == '/' || c == '\\'

/-- Reads what follows the scheme of a file. It names a host if it begins with two slashes, unless
a drive stands there. -/
def readFile (scheme cs : List Char) : Except UrlFault Url := do
  if (cs.take 2).length = 2 ∧ (cs.take 2).all isSlash then
    let (host, rest) := (cs.drop 2).span fun c => !(isSlash c || endsPath c)
    let url := readRootless scheme rest
    if host = [] ∨ isDrive host then return { url with authority := true }
    return { url with authority := true, host := some (← Host.readNamed host) }
  else return readRootless scheme cs

/-- What a text holds once controls and blanks are dropped from its ends, and tabs and line ends
everywhere. -/
def stripped (cs : List Char) : List Char :=
  let outer (c : Char) : Bool := c.toNat ≤ 0x20
  (((cs.dropWhile outer).reverse.dropWhile outer).reverse).filter
    fun c => !(c == '\t' || c == '\n' || c == '\r')

/-- Reads a URL. -/
def read (s : String) : Except UrlFault Url :=
  match scheme? (stripped s.toList) with
  | none => .error .relative
  | some (scheme, rest) =>
    if specialSchemes.contains scheme then readHierarchy scheme (rest.dropWhile isSlash)
    else if scheme = "file".toList then readFile scheme rest
    else
      match rest with
      | '/' :: '/' :: after => readHierarchy scheme after
      | _ => .ok (readRootless scheme rest)

/-- The text of a URL without a host. A path that begins with two slashes and follows no authority
gets a dot segment in front, as it would read as one. -/
def text (u : Url) : String :=
  let front := if u.authority then "//".toList
    else if u.path.take 2 = "//".toList then "/.".toList else []
  String.ofList (u.scheme ++ ':' :: (front ++ u.path ++ u.tail))

end Url

end Icap
