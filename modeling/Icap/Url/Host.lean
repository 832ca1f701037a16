import Icap.Url.Domain
import Icap.Url.Escape
import Icap.Url.Fault
import Icap.Url.Ipv4
import Icap.Url.Ipv6

/-!
# Hosts

The host of a URL. Under most schemes it is text of any kind (`Host.readOpaque`); under the schemes
that the standard knows it is a domain name or an address (`Host.readNamed`). In brackets it is an
IPv6 address.
-/

namespace Icap.Url.Host

open Text

/-- Characters that no host may hold. -/
def forbidden : List Char :=
  ['\x00', '\t', '\n', '\r', ' ', '#', '/', ':', '<', '>', '?', '@', '[', '\\', ']', '^', '|']

/-- Reads a host in brackets. -/
def readBracketed (cs : List Char) : Except UrlFault (List Char) :=
  if cs.getLast? = some ']' then
    match Ipv6.read? cs.tail.dropLast with
    | some address => .ok address.print.toList
    | none => .error .ipv6
  else .error .ipv6

/-- Reads a host that is not empty and need not be a name. -/
def readOpaque (cs : List Char) : Except UrlFault (List Char) :=
  if cs.head? = some '[' then readBracketed cs
  else if cs.any (forbidden.contains ·) then .error .hostCharacter
  else .ok (escape [] cs)

/-- Reads a domain name or an IPv4 address. -/
def readName (cs : List Char) : Except UrlFault (List Char) :=
  match Utf8.decodeChars (unescape cs) with
  | .error _ => .error .hostName
  | .ok name =>
    match Domain.read? name with
    | none => .error .hostName
    | some [[]] => .error .emptyHost
    | some labels =>
      if Ipv4.endsInNumber labels then
        match Ipv4.read? labels with
        | some address => .ok (Ipv4.print address).toList
        | none => .error .ipv4
      else .ok (['.'].intercalate labels)

/-- Reads a host that is not empty and has to be a name or an address. -/
def readNamed (cs : List Char) : Except UrlFault (List Char) :=
  if cs.head? = some '[' then readBracketed cs else readName cs

end Icap.Url.Host
