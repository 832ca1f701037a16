import Icap.Text.Pieces
import Icap.Url.Escape

/-!
# Paths of a URL

A path is the list of its segments. Reading a path resolves its dot segments: one dot stays in the
place, two dots go back over the segment before. A segment that begins like a drive (`C:` or `C|`,
alone or before a backslash) is never gone back over.
-/

namespace Icap.Url

open Text

/-- Whether a segment means the place where it stands. -/
def isSingleDot (s : List Char) : Bool := [".".toList, "%2e".toList].contains (foldDots s)
where
  /-- Folds the letter of an escaped dot. -/
  foldDots (s : List Char) : List Char := s.map fun c => if c = 'E' then 'e' else c

/-- Whether a segment goes back over the segment before it. -/
def isDoubleDot (s : List Char) : Bool :=
  ["..".toList, "%2e%2e".toList, "%2e.".toList, ".%2e".toList].contains
    (isSingleDot.foldDots s)

/-- Whether a segment begins like a drive: a letter with its mark, and then nothing or a
backslash. -/
def isDrive : List Char → Bool
  | a :: b :: rest =>
    a.isAlpha && (b == ':' || b == '|') && (rest.isEmpty || rest.head? == some '\\')
  | _ => false

/-- Goes back over the last of the segments, which come last first. -/
def goBack : List (List Char) → List (List Char)
  | [] => []
  | s :: before => if isDrive s then s :: before else before

/-- Resolves the dot segments among the segments still to come; `done` holds the resolved ones, the
last one first. A dot segment at the end leaves an empty segment there. -/
def resolve (done : List (List Char)) : List (List Char) → List (List Char)
  | [] => done.reverse
  | [s] =>
    if isDoubleDot s then ([] :: goBack done).reverse
    else if isSingleDot s then ([] :: done).reverse
    else (s :: done).reverse
  | s :: t :: more =>
    if isDoubleDot s then resolve (goBack done) (t :: more)
    else if isSingleDot s then resolve done (t :: more)
    else resolve (s :: done) (t :: more)

/-- The text of a path: a slash before every segment. -/
def pathText (segments : List (List Char)) : List Char := segments.flatMap ('/' :: ·)

/-- The path that the text after its first slash writes. -/
def readPath (cs : List Char) : List Char :=
  pathText (resolve [] ((piecesBy '/' cs).map (escape pathReserved)))

end Icap.Url
