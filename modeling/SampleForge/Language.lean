import SampleForge.Error
import SampleForge.Text.Case

/-!
# Target languages

The languages that code samples are generated in.  A language has a word of its own, which data
uses, and `parse` also knows a short name.
-/

namespace SampleForge

open Text (lowerAscii trim)

/-- A target language. -/
inductive Language where
  | java
  | python
  deriving DecidableEq, Repr

namespace Language

/-- The word for a language. -/
def word : Language → String
  | .java => "java"
  | .python => "python"

/-- The name of a language in the form of a constructor. -/
def title : Language → String
  | .java => "Java"
  | .python => "Python"

/-- The words for the languages in data. -/
def words : List (String × Language) := [java, python].map fun l => (l.word, l)

/-- The language with a name, whatever its case and the blanks around it. -/
def parse (name : String) : Except GenerationError Language :=
  let name := lowerAscii (trim name)
  if name = "java" then .ok .java
  else if name = "python" ∨ name = "py" then .ok .python
  else .error (.unsupportedLanguage name)

end Language

end SampleForge
