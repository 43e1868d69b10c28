import SampleForge.Product.Json
import SampleForge.Proofs.OutputView.WireForm

/-!
# Reading products back

The wire form of a product reads back as the very product, if the references in its samples have
identities of their own for all their collections.

The reader puts the fields of a record into a draft, one after another, so each record comes down
to its fields.  Those that may be absent are written as null by samples and products, and left out
by diagnostics.
-/

namespace SampleForge

open Json (Access Shape Value)
open Outcome
open TypeRef (Portable)

/-! ## Words -/

theorem Severity.readVariant_word (access : Access) (severity : Severity) :
    Json.readVariant access words (.text severity.word) = .ok severity := by
  cases severity with
  | error => rfl
  | warning => rfl
  | note => rfl

theorem Language.readVariant_word (access : Access) (language : Language) :
    Json.readVariant access words (.text language.word) = .ok language := by
  cases language with
  | java => rfl
  | python => rfl

/-! ## Records -/

theorem Diagnostic.read_toJson (d : Diagnostic) : read d.toJson = .ok d := by
  obtain ⟨severity, location, message⟩ := d
  have hseverity := Severity.readVariant_word .direct severity
  rw [read, toJson, Shape.read_object]
  cases location with
  | none => simp [Draft.set, Draft.finish, Json.readText, Json.require, hseverity]
  | some location =>
    simp [Draft.set, Draft.finish, Json.readOptional, Json.readText, Json.require, Except.map,
      hseverity]

theorem Sample.read_toJson {sample : Sample}
    (h : ∀ t ∈ OutputView.referencesAll sample.outputs, t.Portable) :
    read sample.toJson = .ok sample := by
  rw [read, toJson, Shape.read_object]
  simp [Draft.set, Draft.finish, Json.readOptional_textOrNull, Json.readText, Json.require,
    OutputView.readList_toJsonAll .direct h]

/-- The references in the samples of a method. -/
def Method.references (method : Method) : List TypeRef :=
  method.samples.flatMap fun sample => OutputView.referencesAll sample.outputs

theorem Method.read_toJson {method : Method} (h : ∀ t ∈ method.references, t.Portable) :
    read method.toJson = .ok method := by
  have hsamples : Json.readList Sample.read (.list (method.samples.map Sample.toJson)) =
      .ok method.samples :=
    Json.readList_map fun sample hsample => Sample.read_toJson fun t ht =>
      h t (List.mem_flatMap.2 ⟨sample, hsample, ht⟩)
  rw [read, toJson, Shape.read_object]
  simp [hsamples, Json.readText, Json.require]

/-- The references in the samples of an interface. -/
def Interface.references (interface : Interface) : List TypeRef :=
  interface.methods.flatMap Method.references

theorem Interface.read_toJson {interface : Interface}
    (h : ∀ t ∈ interface.references, t.Portable) : read interface.toJson = .ok interface := by
  have hmethods : Json.readList Method.read (.list (interface.methods.map Method.toJson)) =
      .ok interface.methods :=
    Json.readList_map fun method hmethod => Method.read_toJson fun t ht =>
      h t (List.mem_flatMap.2 ⟨method, hmethod, ht⟩)
  rw [read, toJson, Shape.read_object]
  simp [hmethods, Json.readText, Json.require]

theorem Timestamp.read_text {time : Timestamp} (h : parse time.shortText = .ok time) :
    read (.text time.shortText) = .ok time := by
  simp [read, h]

/-! ## Products -/

namespace Product

/-- The references in the samples of a product. -/
def references (product : Product) : List TypeRef :=
  product.interfaces.flatMap Interface.references

/-- A product whose references can be obtained and have identities of their own for all their
collections reads back from its wire form, whenever it is read, if its timestamp does. -/
theorem reads_back {product : Product} (hobtainable : ∀ t ∈ product.references, t.Obtainable)
    (hexplicit : ∀ t ∈ product.references, t.Explicit)
    (htime : Timestamp.parse product.timestamp.shortText = .ok product.timestamp)
    (now : Timestamp) : read now product.toJson = .ok product := by
  have hinterfaces : Json.readList Interface.read
      (.list (product.interfaces.map Interface.toJson)) = .ok product.interfaces := by
    refine Json.readList_map fun interface hinterface => Interface.read_toJson fun t ht => ?_
    have hmem : t ∈ product.references := List.mem_flatMap.2 ⟨interface, hinterface, ht⟩
    exact ⟨hobtainable t hmem, hexplicit t hmem⟩
  have hdiagnostics : Json.readList Diagnostic.read
      (.list (product.diagnostics.map Diagnostic.toJson)) = .ok product.diagnostics :=
    Json.readList_map fun d _ => Diagnostic.read_toJson d
  have hlanguage := Language.readVariant_word .direct product.language
  rw [read, toJson, Shape.read_object]
  simp [Draft.set, Draft.finish, Json.readOptional_textOrNull, Json.readText, Json.require,
    Json.readTextMap_mapValues, Timestamp.read_text htime, hinterfaces, hdiagnostics, hlanguage]

end Product

end SampleForge
