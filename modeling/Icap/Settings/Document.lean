/-!
# Documents

A settings document: a YAML tree whose maps keep the order in which they were written.
-/

namespace Icap

/-- A YAML value. -/
inductive Document
  | null
  | bool (b : Bool)
  | int (i : Int)
  /-- A number with a fraction or an exponent, as it is written. -/
  | real (written : String)
  | text (s : String)
  | list (items : List Document)
  | map (entries : List (Document × Document))
  deriving Repr, Inhabited

end Icap
