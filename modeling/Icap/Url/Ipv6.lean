import Icap.Text.Pieces
import Icap.Text.Numeral

/-!
# IPv6 addresses

The text form of an IPv6 address inside a URL, and back.

An address is its eight pieces of sixteen bits. `Ipv6.read?` accepts up to eight pieces of at most
four hexadecimal digits, one `::` that stands for one or more pieces of zero, and a dotted
quadruple in place of the last two pieces. `Ipv6.print` writes the first of the longest runs of two
or more zeros as `::`, and an IPv4 address that is mapped into IPv6 with a dotted quadruple.
-/

namespace Icap

/-- The eight pieces of an address. -/
abbrev Ipv6 := List Nat

namespace Ipv6

open Text

/-! ## Reading -/

/-- A decimal number of one byte without a leading zero. -/
def octet? (cs : List Char) : Option Nat :=
  if cs.head? = some '0' ∧ cs ≠ ['0'] then none else wholeDecimal? 256 cs

/-- The two pieces that a dotted quadruple writes. -/
def quadruple? (cs : List Char) : Option (Nat × Nat) :=
  match (piecesBy '.' cs).map octet? with
  | [some a, some b, some c, some d] => some (a * 256 + b, c * 256 + d)
  | _ => none

/-- Pieces as far as they are read, the last one first, and the number of them up to and with the
zero of the `::` if one has been met. -/
structure Reading where
  pieces : List Nat
  gap : Option Nat

/-- Reads on after a colon or at the start. -/
def readFrom (r : Reading) : List Char → Option Reading
  | [] => some r
  | c :: cs =>
    if r.pieces.length = 8 then none
    else if c = ':' then
      if r.gap.isSome then none else readFrom ⟨0 :: r.pieces, some (r.pieces.length + 1)⟩ cs
    else
      let digits := digitRun hex? ((c :: cs).take 4)
      let value := leadingValue 16 hex? digits
      match _h : (c :: cs).drop digits.length with
      | [] => some ⟨value :: r.pieces, r.gap⟩
      | '.' :: _ =>
        if digits = [] ∨ 6 < r.pieces.length then none
        else (quadruple? (c :: cs)).map fun (a, b) => ⟨b :: a :: r.pieces, r.gap⟩
      | [':'] => none
      | ':' :: rest => readFrom ⟨value :: r.pieces, r.gap⟩ rest
      | _ => none
termination_by cs => cs.length
decreasing_by
  · simp
  · have := congrArg List.length _h
    simp only [List.length_drop, List.length_cons] at this ⊢
    omega

/-- The eight pieces of what has been read: `::` stands for as many zeros as are missing. -/
def Reading.finish? (r : Reading) : Option Ipv6 :=
  let pieces := r.pieces.reverse
  match r.gap with
  | some g => some (pieces.take g ++ List.replicate (8 - pieces.length) 0 ++ pieces.drop g)
  | none => if pieces.length = 8 then some pieces else none

/-- The address that a text writes. -/
def read? (cs : List Char) : Option Ipv6 :=
  match cs with
  | ':' :: ':' :: rest => (readFrom ⟨[0], some 1⟩ rest).bind Reading.finish?
  | ':' :: _ => none
  | _ => if cs.length < 2 then none else (readFrom ⟨[], none⟩ cs).bind Reading.finish?

/-! ## Printing -/

/-- The start and the length of the first of the longest runs of zeros, where the run that ends
before `index` has length `run` and the best one so far is `best`. -/
def longestZeros (index run : Nat) (best : Nat × Nat) : List Nat → Nat × Nat
  | [] => best
  | p :: ps =>
    if p = 0 then
      longestZeros (index + 1) (run + 1)
        (if best.2 < run + 1 then (index - run, run + 1) else best) ps
    else longestZeros (index + 1) 0 best ps

/-- Pieces in hexadecimal with colons between them. -/
def printPieces (ps : List Nat) : String := String.intercalate ":" (ps.map hex)

/-- Two pieces as a dotted quadruple. -/
def printQuadruple (a b : Nat) : String :=
  String.intercalate "." ([a / 256, a % 256, b / 256, b % 256].map decimal)

/-- The text of an address. -/
def print (ps : Ipv6) : String :=
  match ps with
  | [0, 0, 0, 0, 0, 0xFFFF, a, b] => "::ffff:" ++ printQuadruple a b
  | _ =>
    let (start, length) := longestZeros 0 0 (0, 0) ps
    if 1 < length then
      printPieces (ps.take start) ++ "::" ++ printPieces (ps.drop (start + length))
    else printPieces ps

end Ipv6

end Icap
