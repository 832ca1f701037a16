import Icap.Unicode.CombiningClass
import Icap.Unicode.Composite

/-!
# Composed text

Texts that look alike may be spelled with composites or with the characters that these stand for,
and with marks in more than one order. `Unicode.composed` gives the one spelling that uses
composites wherever it can. It is the normal form NFC of texts whose characters are each in that
form by themselves, as those of names are.

* `Unicode.takenApart` — all composites are replaced.
* `Unicode.sorted` — the marks on each character are put in the order of their classes.
* `Unicode.joined` — each character is joined with the marks on it.
-/

namespace Icap.Unicode

/-! ## Taking apart -/

/-- What a character stands for, if composites are taken apart so many times. -/
def takenApartFor : Nat → Char → List Char
  | 0, c => [c]
  | n + 1, c =>
    match split? c with
    | some (a, b) => takenApartFor n a ++ [b]
    | none => [c]

/-- A text without composites: none holds more than three others. -/
def takenApart (cs : List Char) : List Char := cs.flatMap (takenApartFor 3)

/-! ## Sorting marks -/

/-- Puts a character in front of sorted ones: a mark goes behind the marks of lower classes. -/
def putMark (c : Char) : List Char → List Char
  | [] => [c]
  | d :: ds =>
    if 0 < combiningClass d ∧ combiningClass d < combiningClass c then d :: putMark c ds
    else c :: d :: ds

/-- A text with its marks in order. -/
def sorted (cs : List Char) : List Char := cs.foldr putMark []

/-! ## Joining -/

/-- A character on which marks may stand, and the marks that it has not been joined with, the last
one first. -/
structure Cluster where
  base : Char
  marks : List Char

/-- The text of a cluster, last character first, in front of what comes before it. -/
def Cluster.onto (done : List Char) (cluster : Cluster) : List Char :=
  cluster.marks ++ cluster.base :: done

/-- Whether a character stands next to the base of a cluster, as no mark of its class or of a
higher one comes between them. -/
def Cluster.reaches (cluster : Cluster) (c : Char) : Bool :=
  match cluster.marks with
  | [] => true
  | mark :: _ => combiningClass mark < combiningClass c

/-- Joins characters; `done` holds those before the cluster, the last one first. -/
def joinedFrom (done : List Char) (cluster? : Option Cluster) : List Char → List Char
  | [] =>
    match cluster? with
    | some cluster => (cluster.onto done).reverse
    | none => done.reverse
  | c :: cs =>
    match cluster? with
    | none =>
      if combiningClass c = 0 then joinedFrom done (some ⟨c, []⟩) cs
      else joinedFrom (c :: done) none cs
    | some cluster =>
      match if cluster.reaches c then join? cluster.base c else none with
      | some both => joinedFrom done (some { cluster with base := both }) cs
      | none =>
        if combiningClass c = 0 then joinedFrom (cluster.onto done) (some ⟨c, []⟩) cs
        else joinedFrom done (some { cluster with marks := c :: cluster.marks }) cs

/-- A sorted text with composites wherever there are any. -/
def joined (cs : List Char) : List Char := joinedFrom [] none cs

/-- A text with its marks in order, and with composites wherever there are any. -/
def composed (cs : List Char) : List Char := joined (sorted (takenApart cs))

example : composed ['e', '\u0301'] = ['é'] := by decide +kernel
example : composed ['\u1E0B', '\u0323'] = ['\u1E0D', '\u0307'] := by decide +kernel
example : composed ['ᄒ', 'ᅡ', 'ᆫ'] = ['한'] := by decide +kernel

end Icap.Unicode
