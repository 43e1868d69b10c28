import SampleForge.Diagnostics
import SampleForge.OutputView
import SampleForge.Policy
import SampleForge.Timestamp

/-!
# Products

A *product* is an API surface that has been resolved and is ready to generate from: its package,
the target language, the code samples of every method of every interface, and packaging files that
are passed on as they are.

`samples` lists the code samples in the order in which they are declared, interface by interface
and method by method, each with the place it belongs to.
-/

namespace SampleForge

/-- A code sample of a method. -/
structure Sample where
  /-- The name by which the sample is known. -/
  id : String
  /-- The tag of its region in documentation. -/
  regionTag : Option String := none
  /-- How the method is called. -/
  callingForm : Option String := none
  /-- What the sample does with the response. -/
  outputs : List OutputView := []

/-- A method and its samples. -/
structure Method where
  /-- The name. -/
  name : String
  /-- The samples. -/
  samples : List Sample := []

/-- An interface and its methods. -/
structure Interface where
  /-- The name. -/
  name : String
  /-- The methods. -/
  methods : List Method := []

/-- A resolved API surface. -/
structure Product where
  /-- The package of the API. -/
  packageName : String
  /-- The target language. -/
  language : Language
  /-- The package of the client, where it has one of its own. -/
  clientPackage : Option String := none
  /-- The moment that generated data carries. -/
  timestamp : Timestamp
  /-- The interfaces. -/
  interfaces : List Interface := []
  /-- Files that are passed on as they are. -/
  packagingFiles : KeyMap String := .empty
  /-- What was noted while the API was resolved. -/
  diagnostics : List Diagnostic := []

/-- A sample with the interface and the method it belongs to. -/
structure PlacedSample where
  /-- The name of the interface. -/
  interface : String
  /-- The name of the method. -/
  method : String
  /-- The sample. -/
  sample : Sample

namespace Product

/-- The samples in the order in which they are declared. -/
def samples (product : Product) : List PlacedSample :=
  product.interfaces.flatMap fun interface =>
    interface.methods.flatMap fun method =>
      method.samples.map fun sample => ⟨interface.name, method.name, sample⟩

/-- The names of the samples in the order in which they are declared. -/
def sampleIds (product : Product) : List String := product.samples.map (·.sample.id)

/-- The package of the client. -/
def package (product : Product) : String := product.clientPackage.getD product.packageName

end Product

end SampleForge
