import Icap.Response.Terminator
import Icap.Route
import Icap.Text.Numeral

/-!
# Requests

The two requests of a scan. An OPTIONS request asks whether the service is there; a RESPMOD request
carries the file as the body of an HTTP response, in one chunk.

The sections of a RESPMOD request stand at the offsets that its head announces:
`Agent.fileRequest` at zero, `fileResponse` after it, the body last.
-/

namespace Icap

/-- How a client presents itself to servers. -/
structure Agent where
  userAgent : String
  /-- The service of routes that name none. -/
  service : String := "SYMCScanResp-AV"
  deriving DecidableEq, Repr

/-- A request to scan a file. -/
structure Respmod where
  /-- The head, the heads of the HTTP messages and the line in front of the chunk. -/
  header : Bytes
  payload : Bytes
  deriving DecidableEq, Repr

namespace Respmod

/-- What follows the payload. -/
def trailer : Bytes := Terminator.bytes

/-- The bytes of a request. -/
def bytes (r : Respmod) : Bytes := r.header ++ r.payload ++ trailer

/-- The number of bytes of a request. -/
def size (r : Respmod) : Nat := r.header.length + r.payload.length + trailer.length

theorem length_bytes (r : Respmod) : r.bytes.length = r.size := by
  simp [bytes, size]
  omega

end Respmod

namespace Agent

/-- The service of a route. -/
def serviceOf (a : Agent) (r : Route) : String :=
  if r.service.isEmpty then a.service else r.service

/-! ## OPTIONS -/

/-- The text of an OPTIONS request. -/
def optionsText (a : Agent) (r : Route) : String :=
  "OPTIONS icap://" ++ r.uriHost ++ "/" ++ a.serviceOf r ++ " ICAP/1.0\r\n" ++
    "Host: " ++ r.host ++ "\r\n" ++
    "User-Agent: " ++ a.userAgent ++ "\r\n" ++
    "Encapsulated: null-body=0\r\n\r\n"

/-- An OPTIONS request. -/
def options (a : Agent) (r : Route) : Bytes := Utf8.encode (a.optionsText r)

/-! ## RESPMOD -/

/-- The head of an HTTP request for a file, whose path has one slash in front. -/
def fileRequest (r : Route) (filename : String) : Bytes :=
  Utf8.encode ("GET /" ++ Route.dropSlashes filename ++ " HTTP/1.1\r\n" ++
    "Host: " ++ r.uriHost ++ ":" ++ Text.decimal r.port.toNat ++ "\r\n\r\n")

/-- The head of the HTTP response that carries a file. -/
def fileResponse : Bytes := Utf8.encode "HTTP/1.1 200 OK\r\n\r\n"

/-- The line in front of a chunk. -/
def chunkLine (size : Nat) : Bytes := Utf8.encode (Text.hex size ++ "\r\n")

/-- The head of a RESPMOD request whose HTTP response starts at `resHdr` and whose body starts at
`resBody`. -/
def respmodHead (a : Agent) (r : Route) (keepAlive : Bool) (resHdr resBody : Nat) : Bytes :=
  Utf8.encode ("RESPMOD icap://" ++ r.uriHost ++ ":" ++ Text.decimal r.port.toNat ++ "/" ++
      a.serviceOf r ++ " ICAP/1.0\r\n" ++
    "Host: " ++ r.host ++ "\r\n" ++
    "Connection: " ++ (if keepAlive then "keep-alive" else "close") ++ "\r\n" ++
    "Encapsulated: req-hdr=0, res-hdr=" ++ Text.decimal resHdr ++ ", res-body=" ++
      Text.decimal resBody ++ "\r\n\r\n")

/-- The request to scan a file. -/
def respmod (a : Agent) (r : Route) (filename : String) (payload : Bytes) (keepAlive : Bool) :
    Respmod :=
  let request := fileRequest r filename
  let resHdr := request.length
  let resBody := resHdr + fileResponse.length
  { header :=
      a.respmodHead r keepAlive resHdr resBody ++ request ++ fileResponse ++
        chunkLine payload.length
    payload }

end Agent

end Icap
