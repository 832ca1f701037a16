/-!
# Letters regardless of case

Names of headers, sections and settings are compared without regard to the case of ASCII letters;
all other characters stand for themselves.
-/

namespace Icap.Text

/-- Folds the capital ASCII letters of a list to small ones. -/
def foldCase (cs : List Char) : List Char := cs.map Char.toLower

/-- Whether two texts are equal but for the case of ASCII letters. -/
def sameLetters (s t : String) : Bool := foldCase s.toList == foldCase t.toList

end Icap.Text
