import Icap.Unicode.Composed
import Icap.Unicode.Direction
import Icap.Unicode.Joining
import Icap.Url.Mapping
import Icap.Url.Punycode

/-!
# Domain names

The name of a host as a list of labels, each spelled out in Unicode. Reading a name follows the
rules of Unicode for international domain names, but for those on hyphens and on the lengths that
name servers allow: characters are mapped, the text is composed, labels in Punycode are spelled
out, and then each label has to fit, by itself and in its direction.

* `Domain.read?` — the labels of a name.
-/

namespace Icap.Url.Domain

open Text Unicode

/-! ## Labels -/

/-- ASCII characters that no name may hold, besides the blank and controls. -/
def forbidden : List Char :=
  ['%', '#', '/', ':', '<', '>', '?', '@', '[', '\\', ']', '^', '|']

/-- Whether a name may hold a character. -/
def allows (c : Char) : Bool := 0x20 < c.toNat && c.toNat != 0x7F && !forbidden.contains c

/-- Whether a character is an ASCII character. -/
def isAscii (c : Char) : Bool := c.toNat < 0x80

/-- The greatest number of characters of a label beyond ASCII. -/
def labelBound : Nat := 1000

/-- The greatest number of characters of a label in Punycode. -/
def punycodeBound : Nat := 2000

/-- A label without the mark of Punycode in front, if it has it. -/
def punycode? : List Char → Option (List Char)
  | 'x' :: 'n' :: '-' :: '-' :: code => some code
  | _ => none

/-- A label that Punycode spells. It has to need Punycode, and to be what a name is after mapping
and composing. -/
def decode? (code : List Char) : Option (List Char) :=
  if punycodeBound < code.length then none
  else
    (Punycode.read? code).filter fun label =>
      !label.all isAscii && label.all Mapping.keeps && composed label == label &&
        (punycode? label).isNone

/-- A label spelled out. -/
def spelledOut? (label : List Char) : Option (List Char) :=
  match punycode? label with
  | some code => decode? code
  | none => some label

/-! ## Joiners -/

/-- The character that keeps letters from joining. -/
def nonJoiner : Char := '\u200C'

/-- The character that joins letters. -/
def joiner : Char := '\u200D'

/-- Whether the character before, if any, takes the vowel from a letter. -/
def afterVirama (before : List Char) : Bool :=
  before.head?.any fun c => combiningClass c == viramaClass

/-- Whether a non-joiner parts letters that would join. -/
def parts (before rest : List Char) : Bool :=
  (before.dropWhile isTransparent).head?.any joinsNext &&
    (rest.dropWhile isTransparent).head?.any joinsPrevious

/-- Whether each joiner and non-joiner stands where it makes a difference; `before` holds what
precedes, the last character first. -/
def joinersFit (before : List Char) : List Char → Bool
  | [] => true
  | c :: rest =>
    (if c = joiner then afterVirama before
      else if c = nonJoiner then afterVirama before || parts before rest
      else true) && joinersFit (c :: before) rest

/-! ## Directions -/

/-- Whether a label asks for the rule on directions. -/
def isTurned (label : List Char) : Bool :=
  label.any fun c => [.rightToLeft, .arabicNumber].contains (direction c)

/-- The rule on directions: a label begins with a letter, holds letters of one direction only, ends
with a letter or a number but for marks, and does not mix the two kinds of numbers. Letters from
left to right go with European numbers only. -/
def directionFits (label : List Char) : Bool :=
  let directions := label.map direction
  let last := (directions.reverse.dropWhile (· == .mark)).head?
  match directions.head? with
  | none => true
  | some .leftToRight =>
    directions.all (fun d => d != .rightToLeft && d != .arabicNumber) &&
      last.any fun d => d == .leftToRight || d == .europeanNumber
  | some .rightToLeft =>
    directions.all (· != .leftToRight) &&
      (last.any fun d => d == .rightToLeft || d == .arabicNumber || d == .europeanNumber) &&
      !(directions.contains .arabicNumber && directions.contains .europeanNumber)
  | some _ => false

/-! ## Names -/

/-- Whether a label that is spelled out may stand in a name. -/
def labelFits (label : List Char) : Bool :=
  label.all allows && !label.head?.any isMark && joinersFit [] label &&
    (label.all isAscii || label.length ≤ labelBound)

/-- The labels of a name, each spelled out. -/
def read? (name : List Char) : Option (List (List Char)) := do
  let mapped ← name.mapM Mapping.target?
  let labels ← (piecesBy '.' (composed mapped.flatten)).mapM spelledOut?
  if labels.all labelFits && (!labels.any isTurned || labels.all directionFits) then some labels
  else none

end Icap.Url.Domain
