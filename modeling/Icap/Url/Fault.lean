/-!
# Faults of URLs

Why a text is no URL, and the texts of the faults.
-/

namespace Icap

/-- Why a text is no URL. -/
inductive UrlFault
  /-- It has no scheme. -/
  | relative
  /-- Its port is no number below 65536. -/
  | port
  /-- Its host is empty although a user name, a port or the scheme asks for one. -/
  | emptyHost
  /-- Its host holds a character that no host may hold. -/
  | hostCharacter
  /-- Its host should be a name and is none. -/
  | hostName
  /-- Its host ends like an IPv4 address and is none. -/
  | ipv4
  /-- Its host is in brackets and no IPv6 address. -/
  | ipv6
  deriving DecidableEq, Repr

/-- The text of a fault. -/
def UrlFault.message : UrlFault → String
  | .relative => "relative URL without a base"
  | .port => "invalid port number"
  | .emptyHost => "empty host"
  | .hostCharacter => "invalid domain character"
  | .hostName => "invalid international domain name"
  | .ipv4 => "invalid IPv4 address"
  | .ipv6 => "invalid IPv6 address"

end Icap
