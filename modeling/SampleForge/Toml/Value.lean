import SampleForge.Binary64
import SampleForge.KeyMap

/-!
# TOML values

What a TOML document can hold.  A moment is kept as its text in a normal form.  The members of a
table stand in the order of the document until the document is settled, and then in ascending order
of their keys.
-/

namespace SampleForge.Toml

/-- A TOML value. -/
inductive Value where
  | text (s : String)
  | int (n : Int)
  | real (x : Binary64)
  | bool (b : Bool)
  | moment (s : String)
  | list (items : List Value)
  | table (members : List (String × Value))
  deriving Inhabited

end SampleForge.Toml
