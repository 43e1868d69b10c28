import SampleForge.Identifier
import SampleForge.Product

/-!
# Where code samples live

Facts that depend on the target language alone or on the product and the name of a sample: how
samples are run, the base path of their manifest, and the file in which a sample lies.

The path of a sample in the manifest starts with a placeholder for the base path.  With the base
path in its place, and for Java with slashes for points, it leads to the file of the sample.
-/

namespace SampleForge

open Text (replaceChar splitLast?)

namespace Language

/-- The environment in which samples run. -/
def environment (language : Language) : String := language.word

/-- The program that runs samples. -/
def runner : Language → String
  | .java => "gradle run"
  | .python => "python3"

/-- The command line that runs a sample, with placeholders. -/
def invocation : Language → String
  | .java => "\x7bbin\x7d -PmainClass=\x7bpath\x7d --args='@args'"
  | .python => "\x7bbin\x7d \x7bpath\x7d @args"

/-- The placeholder for the base path. -/
def basePlaceholder : String := "\x7bbase_path\x7d"

/-- The path of a sample in the manifest. -/
def samplePath (language : Language) (id : String) : String :=
  match language with
  | .java => basePlaceholder ++ "." ++ Identifier.upperCamel id
  | .python => basePlaceholder ++ "/" ++ Identifier.lowerUnderscore id ++ ".py"

end Language

namespace Product

/-- The package of Java's samples. -/
def examplePackage (product : Product) : String := product.package ++ ".examples"

/-- The base path of the manifest. -/
def basePath (product : Product) (language : Language) : String :=
  match language with
  | .java => product.examplePackage
  | .python => "samples"

/-- The file in which a sample lies. -/
def sampleFile (product : Product) (language : Language) (id : String) : String :=
  match language with
  | .java =>
      "samples/src/main/java/" ++ replaceChar '.' '/' product.examplePackage ++ "/" ++
        Identifier.upperCamel id ++ ".java"
  | .python => "samples/" ++ Identifier.lowerUnderscore id ++ ".py"

/-- Whether a segment of a package is a version: a `v` and a digit, whatever follows. -/
def isVersion (segment : String) : Bool :=
  match segment.toList with
  | 'v' :: c :: _ => c.isDigit
  | _ => false

/-- The namespace of the versioned client.  In Python a version at the end of the package is joined
to the segment before it. -/
def versionedNamespace (product : Product) (language : Language) : String :=
  match language with
  | .java => product.packageName
  | .python =>
      match splitLast? '.' product.package with
      | some (head, version) =>
          if isVersion version then head ++ "_" ++ version else product.package
      | none => product.package

/-- What decides about the imports of the product. -/
def importPolicy (product : Product) : ImportPolicy :=
  match product.language with
  | .java => .java product.clientPackage
  | .python => .python (product.versionedNamespace .python)

end Product

end SampleForge
