import SampleForge.Language
import SampleForge.OutputView

/-!
# Import policies

A target language decides what a code sample imports.  An `ImportPolicy` answers three questions:
which statements a type needs (`imports`), whether a printed variable needs one more
(`auxiliary?`), and what a collection is called in terms of its element (`collectionNickname`).

* Java imports every message and enum, `java.util.List` for collections and a class for bytes.  A
  package, if there is one, takes the place of the namespace of each type.
* Python samples work with plain values, so types need no import.  Printing an enum value needs
  the `enums` module of the versioned client.
-/

namespace SampleForge

/-- What decides about imports. -/
inductive ImportPolicy where
  /-- Java, with a package in the place of every namespace if there is one. -/
  | java (package : Option String)
  /-- Python, with the versioned namespace of the client. -/
  | python (client : String)
  deriving DecidableEq, Repr

namespace ImportPolicy

/-- The language of a policy. -/
def language : ImportPolicy → Language
  | .java _ => .java
  | .python _ => .python

/-- The import of Java's lists. -/
def listImport : String := "import java.util.List;"

/-- The import of the class that holds bytes in Java. -/
def bytesImport : String := "import com.google.protobuf.ByteString;"

/-- The name by which Java knows a type. -/
def qualifiedName (package : Option String) (t : TypeRef) : String :=
  match package with
  | some package => package ++ "." ++ t.simpleName
  | none => t.identity

/-- The statements that a type needs.  The element of a collection needs its own. -/
def imports (policy : ImportPolicy) (t : TypeRef) : List String :=
  match policy, t with
  | .python _, _ => []
  | .java _, .collection _ _ => [listImport]
  | .java _, .leaf .primitive identity => if identity = "bytes" then [bytesImport] else []
  | .java package, t => ["import " ++ qualifiedName package t ++ ";"]

/-- The import of the enums of a Python client. -/
def enumsImport (client : String) : String := "from " ++ client ++ " import enums"

/-- The statement that printing a variable needs beyond those of its type. -/
def auxiliary? (policy : ImportPolicy) (v : VariableSegment) : Option String :=
  match policy with
  | .java _ => none
  | .python client => if v.isEnum then some (enumsImport client) else none

/-- What a collection is called, given what its element is called. -/
def collectionNickname (policy : ImportPolicy) (element : String) : String :=
  match policy with
  | .java _ => "List<" ++ element ++ ">"
  | .python _ => "list[" ++ element ++ "]"

section Tests

example : imports (.java none) (.leaf .message "a.B") = ["import a.B;"] := by decide
example : imports (.java (some "x.y")) (.leaf .enumeration "a.B") = ["import x.y.B;"] := by decide
example : imports (.java none) (.leaf .primitive "bytes") = [bytesImport] := by decide

end Tests

end ImportPolicy

end SampleForge
