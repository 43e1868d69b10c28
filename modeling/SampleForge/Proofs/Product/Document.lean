import SampleForge.Product.Json
import SampleForge.Proofs.Json.Nesting

/-!
# Documents of products

A product is written with the fields of each record in the order of their declaration, and with the
tag of a view or of a part of an argument in front.  Such a *document* arranges the wire form
(`Product.arranges_document`): it becomes the wire form once its fields are in ascending order.
-/

namespace SampleForge

open Json (ArrangeFields Value)

/-! ## References -/

namespace TypeRef

/-- The document of a reference. -/
def document : TypeRef → Value
  | .leaf kind identity =>
      .object [("identity", .text identity), ("kind", .text (TypeKind.leaf kind).word)]
  | .collection identity element =>
      .object [("identity", .text identity), ("kind", .text TypeKind.collection.word),
        ("element", element.document)]

theorem arranges_document (t : TypeRef) : t.document.Arranges t.toJson := by
  induction t with
  | leaf kind identity =>
    have hfields := ArrangeFields.nil
      |>.cons "kind" (.text (TypeKind.leaf kind).word)
      |>.cons "identity" (.text identity)
    refine .record hfields (by simp) ?_
    simp +decide only [Value.ofFields, insertPair, List.foldl, reduceIte]
  | collection identity element ih =>
    have hfields := ArrangeFields.nil
      |>.cons "element" ih
      |>.cons "kind" (.text TypeKind.collection.word)
      |>.cons "identity" (.text identity)
    refine .record hfields (by simp) ?_
    simp +decide only [Value.ofFields, insertPair, List.foldl, reduceIte]

end TypeRef

/-! ## Views -/

namespace ArgSegment

/-- The document of a part of a print argument. -/
def document : ArgSegment → Value
  | .text s => .object [("kind", .text "text"), ("text", .text s)]
  | .variable v =>
      .object [("kind", .text "variable"), ("name", .text v.name), ("type", v.type.document),
        ("enum_value", .bool v.enumValue)]

theorem arranges_document (segment : ArgSegment) : segment.document.Arranges segment.toJson := by
  match segment with
  | .text s =>
    have hfields := ArrangeFields.nil
      |>.cons "text" (.text s)
      |>.cons "kind" (.text "text")
    refine .record hfields (by simp) ?_
    simp +decide only [Value.ofFields, insertPair, List.foldl, reduceIte]
  | .variable v =>
    have hfields := ArrangeFields.nil
      |>.cons "enum_value" (.bool v.enumValue)
      |>.cons "type" v.type.arranges_document
      |>.cons "name" (.text v.name)
      |>.cons "kind" (.text "variable")
    refine .record hfields (by simp) ?_
    simp +decide only [Value.ofFields, insertPair, List.foldl, reduceIte]

end ArgSegment

namespace PrintArg

/-- The document of a print argument. -/
def document (arg : PrintArg) : Value :=
  .object [("segments", .list (arg.segments.map ArgSegment.document))]

theorem arranges_document (arg : PrintArg) : arg.document.Arranges arg.toJson := by
  have hsegments := Value.Arranges.list_map fun segment (_ : segment ∈ arg.segments) =>
    segment.arranges_document
  exact .record (ArrangeFields.nil.cons "segments" hsegments) (by simp) rfl

end PrintArg

namespace OutputView

mutual

/-- The document of a view. -/
def document : OutputView → Value
| .define name type =>
    .object [("kind", .text "define"), ("variable", .text name), ("reference", type.document)]
| .loop name collection body =>
    .object [("kind", .text "loop"), ("variable", .text name), ("collection", collection.document),
      ("body", .list (documents body))]
| .print format args =>
    .object [("kind", .text "print"), ("format", .text format),
      ("args", .list (args.map PrintArg.document))]
| .comment lines => .object [("kind", .text "comment"), ("lines", Value.texts lines)]

/-- The documents of several views. -/
def documents : List OutputView → List Value
| [] => []
| view :: rest => view.document :: documents rest

end

mutual

theorem arranges_document : (view : OutputView) → view.document.Arranges view.toJson
  | .define name type => by
      have hfields := ArrangeFields.nil
        |>.cons "reference" type.arranges_document
        |>.cons "variable" (.text name)
        |>.cons "kind" (.text "define")
      refine .record hfields (by simp) ?_
      simp +decide only [Value.ofFields, insertPair, List.foldl, reduceIte]
  | .loop name collection body => by
      have hfields := ArrangeFields.nil
        |>.cons "body" (arranges_documents body)
        |>.cons "collection" collection.arranges_document
        |>.cons "variable" (.text name)
        |>.cons "kind" (.text "loop")
      refine .record hfields (by simp) ?_
      simp +decide only [Value.ofFields, insertPair, List.foldl, reduceIte]
  | .print format args => by
      have hargs := Value.Arranges.list_map fun arg (_ : arg ∈ args) => arg.arranges_document
      have hfields := ArrangeFields.nil
        |>.cons "args" hargs
        |>.cons "format" (.text format)
        |>.cons "kind" (.text "print")
      refine .record hfields (by simp) ?_
      simp +decide only [Value.ofFields, insertPair, List.foldl, reduceIte]
  | .comment lines => by
      have hlines : (Value.texts lines).Arranges (Value.texts lines) :=
        .list_map fun line _ => .text line
      have hfields := ArrangeFields.nil
        |>.cons "lines" hlines
        |>.cons "kind" (.text "comment")
      refine .record hfields (by simp) ?_
      simp +decide only [Value.ofFields, insertPair, List.foldl, reduceIte]

theorem arranges_documents : (views : List OutputView) →
    Value.Arranges (.list (documents views)) (.list (toJsonAll views))
  | [] => .list_nil
  | view :: rest => .list_cons (arranges_document view) (arranges_documents rest)

end

end OutputView

/-! ## Products -/

namespace Diagnostic

/-- The document of a diagnostic.  A missing location is left out. -/
def document (d : Diagnostic) : Value :=
  .object (("severity", .text d.severity.word) :: (match d.location with
    | some location => [("location", .text location)]
    | none => []) ++ [("message", .text d.message)])

theorem arranges_document (d : Diagnostic) : d.document.Arranges d.toJson := by
  obtain ⟨severity, location, message⟩ := d
  cases location with
  | none =>
    have hfields := ArrangeFields.nil
      |>.cons "message" (.text message)
      |>.cons "severity" (.text severity.word)
    refine .record hfields (by simp) ?_
    simp +decide only [Value.ofFields, insertPair, List.foldl, reduceIte, List.nil_append]
  | some location =>
    have hfields := ArrangeFields.nil
      |>.cons "message" (.text message)
      |>.cons "location" (.text location)
      |>.cons "severity" (.text severity.word)
    refine .record hfields (by simp) ?_
    simp +decide only [Value.ofFields, insertPair, List.foldl, reduceIte, List.cons_append,
      List.nil_append]

end Diagnostic

theorem Json.arranges_textOrNull (s : Option String) :
    (Value.textOrNull s).Arranges (Value.textOrNull s) := by
  cases s with
  | none => exact .null
  | some s => exact .text s

namespace Sample

/-- The document of a sample. -/
def document (s : Sample) : Value :=
  .object [("id", .text s.id), ("region_tag", Value.textOrNull s.regionTag),
    ("calling_form", Value.textOrNull s.callingForm),
    ("outputs", .list (OutputView.documents s.outputs))]

theorem arranges_document (s : Sample) : s.document.Arranges s.toJson := by
  have hfields := ArrangeFields.nil
    |>.cons "outputs" (OutputView.arranges_documents s.outputs)
    |>.cons "calling_form" (Json.arranges_textOrNull s.callingForm)
    |>.cons "region_tag" (Json.arranges_textOrNull s.regionTag)
    |>.cons "id" (.text s.id)
  refine .record hfields (by simp) ?_
  simp +decide only [Value.ofFields, insertPair, List.foldl, reduceIte]

end Sample

namespace Method

/-- The document of a method. -/
def document (m : Method) : Value :=
  .object [("name", .text m.name), ("samples", .list (m.samples.map Sample.document))]

theorem arranges_document (m : Method) : m.document.Arranges m.toJson := by
  have hsamples := Value.Arranges.list_map fun s (_ : s ∈ m.samples) => s.arranges_document
  have hfields := ArrangeFields.nil
    |>.cons "samples" hsamples
    |>.cons "name" (.text m.name)
  refine .record hfields (by simp) ?_
  simp +decide only [Value.ofFields, insertPair, List.foldl, reduceIte]

end Method

namespace Interface

/-- The document of an interface. -/
def document (i : Interface) : Value :=
  .object [("name", .text i.name), ("methods", .list (i.methods.map Method.document))]

theorem arranges_document (i : Interface) : i.document.Arranges i.toJson := by
  have hmethods := Value.Arranges.list_map fun m (_ : m ∈ i.methods) => m.arranges_document
  have hfields := ArrangeFields.nil
    |>.cons "methods" hmethods
    |>.cons "name" (.text i.name)
  refine .record hfields (by simp) ?_
  simp +decide only [Value.ofFields, insertPair, List.foldl, reduceIte]

end Interface

namespace Product

/-- The document of a product. -/
def document (p : Product) : Value :=
  .object [("package_name", .text p.packageName), ("language", .text p.language.word),
    ("client_package", Value.textOrNull p.clientPackage),
    ("generation_timestamp", .text p.timestamp.shortText),
    ("interfaces", .list (p.interfaces.map Interface.document)),
    ("packaging_files", .object (p.packagingFiles.mapValues Value.text).toList),
    ("diagnostics", .list (p.diagnostics.map Diagnostic.document))]

theorem arranges_document (p : Product) : p.document.Arranges p.toJson := by
  have hinterfaces := Value.Arranges.list_map fun i (_ : i ∈ p.interfaces) => i.arranges_document
  have hdiagnostics := Value.Arranges.list_map fun d (_ : d ∈ p.diagnostics) =>
    d.arranges_document
  have hfiles : Value.Arranges (.object (p.packagingFiles.mapValues Value.text).toList)
      (.object (p.packagingFiles.mapValues Value.text).toList) :=
    .object (p.packagingFiles.mapValues Value.text).ascending
      (List.forall_mem_map.2 fun pair _ => .text pair.2)
  have hfields := ArrangeFields.nil
    |>.cons "diagnostics" hdiagnostics
    |>.cons "packaging_files" hfiles
    |>.cons "interfaces" hinterfaces
    |>.cons "generation_timestamp" (.text p.timestamp.shortText)
    |>.cons "client_package" (Json.arranges_textOrNull p.clientPackage)
    |>.cons "language" (.text p.language.word)
    |>.cons "package_name" (.text p.packageName)
  refine .record hfields (by simp) ?_
  simp +decide only [Value.ofFields, insertPair, List.foldl, reduceIte]

end Product

end SampleForge
