import SampleForge.OutputView.Json
import SampleForge.Product

/-!
# The wire form of products

A product is a record of records.  A product without a timestamp carries the moment at which it is
read.
-/

namespace SampleForge

open Json (Fault Shape Value)

/-- Reads a timestamp. -/
def Timestamp.read : Value → Except Fault Timestamp
  | .text s =>
      match Timestamp.parse s with
      | .ok t => .ok t
      | .error fault => .error (.refused fault.message)
  | v => .error (.wrongType v "an RFC 3339 formatted date and time string")

namespace Sample

/-- The wire form of a sample. -/
def toJson (s : Sample) : Value :=
  .object [("calling_form", Value.textOrNull s.callingForm), ("id", .text s.id),
    ("outputs", .list (OutputView.toJsonAll s.outputs)),
    ("region_tag", Value.textOrNull s.regionTag)]

/-- A sample as a record. -/
def shape : Shape := ⟨"struct SampleContext", ["id", "region_tag", "calling_form", "outputs"]⟩

/-- The fields read so far. -/
structure Draft where
  /-- The name. -/
  id : Option String := none
  /-- The tag of the region. -/
  regionTag : Option String := none
  /-- How the method is called. -/
  callingForm : Option String := none
  /-- The views. -/
  outputs : List OutputView := []

/-- Takes in a field. -/
def Draft.set (draft : Draft) (field : String) (v : Value) : Except Fault Draft :=
  if field = "id" then do return { draft with id := some (← Json.readText v) }
  else if field = "region_tag" then do
    return { draft with regionTag := ← Json.readOptional Json.readText v }
  else if field = "calling_form" then do
    return { draft with callingForm := ← Json.readOptional Json.readText v }
  else if field = "outputs" then do
    return { draft with outputs := ← Json.readList (OutputView.read .direct) v }
  else return draft

/-- The sample of a complete draft. -/
def Draft.finish (absent : String → Fault) (draft : Draft) : Except Fault Sample := do
  let id ← Json.require absent "id" draft.id
  return ⟨id, draft.regionTag, draft.callingForm, draft.outputs⟩

/-- Reads a sample. -/
def read (v : Value) : Except Fault Sample := shape.read .direct {} Draft.set Draft.finish v

end Sample

namespace Method

/-- The wire form of a method. -/
def toJson (m : Method) : Value :=
  .object [("name", .text m.name), ("samples", .list (m.samples.map Sample.toJson))]

/-- A method as a record. -/
def shape : Shape := ⟨"struct MethodContext", ["name", "samples"]⟩

/-- Reads a method. -/
def read (v : Value) : Except Fault Method :=
  shape.read .direct ((none, []) : Option String × List Sample)
    (fun draft field v =>
      if field = "name" then do return (some (← Json.readText v), draft.2)
      else if field = "samples" then do return (draft.1, ← Json.readList Sample.read v)
      else return draft)
    (fun absent draft => do
      let name ← Json.require absent "name" draft.1
      return ⟨name, draft.2⟩) v

end Method

namespace Interface

/-- The wire form of an interface. -/
def toJson (i : Interface) : Value :=
  .object [("methods", .list (i.methods.map Method.toJson)), ("name", .text i.name)]

/-- An interface as a record. -/
def shape : Shape := ⟨"struct InterfaceContext", ["name", "methods"]⟩

/-- Reads an interface. -/
def read (v : Value) : Except Fault Interface :=
  shape.read .direct ((none, []) : Option String × List Method)
    (fun draft field v =>
      if field = "name" then do return (some (← Json.readText v), draft.2)
      else if field = "methods" then do return (draft.1, ← Json.readList Method.read v)
      else return draft)
    (fun absent draft => do
      let name ← Json.require absent "name" draft.1
      return ⟨name, draft.2⟩) v

end Interface

namespace Product

/-- The wire form of a product. -/
def toJson (p : Product) : Value :=
  .object [("client_package", Value.textOrNull p.clientPackage),
    ("diagnostics", .list (p.diagnostics.map Diagnostic.toJson)),
    ("generation_timestamp", .text p.timestamp.shortText),
    ("interfaces", .list (p.interfaces.map Interface.toJson)),
    ("language", .text p.language.word), ("package_name", .text p.packageName),
    ("packaging_files", .object (p.packagingFiles.mapValues Value.text).toList)]

/-- A product as a record. -/
def shape : Shape :=
  ⟨"struct ProductConfig", ["package_name", "language", "client_package", "generation_timestamp",
    "interfaces", "packaging_files", "diagnostics"]⟩

/-- The fields read so far. -/
structure Draft where
  /-- The package of the API. -/
  packageName : Option String := none
  /-- The target language. -/
  language : Option Language := none
  /-- The package of the client. -/
  clientPackage : Option String := none
  /-- The moment that generated data carries. -/
  timestamp : Option Timestamp := none
  /-- The interfaces. -/
  interfaces : List Interface := []
  /-- The packaging files. -/
  packagingFiles : KeyMap String := .empty
  /-- The diagnostics. -/
  diagnostics : List Diagnostic := []

/-- Takes in a field. -/
def Draft.set (draft : Draft) (field : String) (v : Value) : Except Fault Draft :=
  if field = "package_name" then do
    return { draft with packageName := some (← Json.readText v) }
  else if field = "language" then do
    return { draft with language := some (← Json.readVariant .direct Language.words v) }
  else if field = "client_package" then do
    return { draft with clientPackage := ← Json.readOptional Json.readText v }
  else if field = "generation_timestamp" then do
    return { draft with timestamp := some (← Timestamp.read v) }
  else if field = "interfaces" then do
    return { draft with interfaces := ← Json.readList Interface.read v }
  else if field = "packaging_files" then do
    return { draft with packagingFiles := ← Json.readTextMap v }
  else if field = "diagnostics" then do
    return { draft with diagnostics := ← Json.readList Diagnostic.read v }
  else return draft

/-- The product of a complete draft, read at the given moment. -/
def Draft.finish (now : Timestamp) (absent : String → Fault) (draft : Draft) :
    Except Fault Product := do
  let packageName ← Json.require absent "package_name" draft.packageName
  let language ← Json.require absent "language" draft.language
  return {
    packageName, language, clientPackage := draft.clientPackage
    timestamp := draft.timestamp.getD now, interfaces := draft.interfaces
    packagingFiles := draft.packagingFiles, diagnostics := draft.diagnostics }

/-- Reads a product at the given moment. -/
def read (now : Timestamp) (v : Value) : Except Fault Product :=
  shape.read .direct {} Draft.set (Draft.finish now) v

end Product

end SampleForge
