import SampleForge.OutputView.Json
import SampleForge.Proofs.Json.Records
import SampleForge.Proofs.SymbolTable.OrderFree
import SampleForge.Proofs.TypeRef.WireForm

/-!
# Reading views back

The wire form of a view reads back as the very view, at every depth, if the references in it do.  A
reference reads back if its collections all have identities of their own that a reader accepts
(`TypeRef.Explicit`).

The tag of a view and that of a part of an argument stand in fields named `kind`, as the kind of a
reference does.  They do not get in each other's way, since a reference is a record of its own in
the field that holds it.
-/

namespace SampleForge

open Json (Access Fault Shape Value)
open Outcome

/-! ## References -/

namespace TypeRef

/-- Every collection of an element chain has an identity of its own, one that a reader accepts. -/
def Explicit : TypeRef → Prop
  | .leaf _ _ => True
  | .collection identity element =>
      element.Explicit ∧ collectionNamed identity element = .ok (.collection identity element)

theorem Explicit.derived?_eq_none {t : TypeRef} (h : t.Explicit) : t.derived? = none := by
  induction t with
  | leaf kind identity => rfl
  | collection identity element ih =>
    obtain ⟨helement, haccepted⟩ := h
    have hown : identity ≠ derivedIdentity element := by
      rintro rfl
      rw [collectionNamed_derivedIdentity] at haccepted
      cases haccepted
    rw [derived?, ih helement]
    exact if_neg hown

/-- A reference that can be obtained and whose collections have identities of their own. -/
structure Portable (t : TypeRef) : Prop where
  /-- It can be obtained. -/
  obtainable : t.Obtainable
  /-- Its collections have identities of their own. -/
  explicit : t.Explicit

theorem Portable.read_toJson {t : TypeRef} (h : t.Portable) (access : Access) :
    read access t.toJson = .ok t := by
  rw [TypeRef.read_toJson h.obtainable.wellFormed access, h.explicit.derived?_eq_none]

end TypeRef

/-! ## Print arguments -/

open TypeRef (Portable)

theorem VariableSegment.read_toJson {v : VariableSegment} (h : v.type.Portable)
    (access : Access) : read access v.toJson = .ok v := by
  rw [read, toJson, Shape.read_object]
  simp [Draft.set, Draft.finish, Json.readText, Json.readBool, Json.require, h.read_toJson]

namespace ArgSegment

theorem read_toJson_text (s : String) : read (toJson (.text s)) = .ok (.text s) := rfl

theorem read_toJson_variable {v : VariableSegment} (h : v.type.Portable) :
    read (toJson (.variable v)) = .ok (.variable v) := by
  have huntagged : Json.untagged (toJson (.variable v)) = v.toJson := rfl
  have hcase : Json.readCase .buffered "ArgSegment" [("text", true), ("variable", false)]
      (toJson (.variable v)) = .ok false := rfl
  rw [read, hcase, huntagged, VariableSegment.read_toJson h]
  rfl

end ArgSegment

/-- A print argument reads back if the types of its variables do. -/
theorem PrintArg.read_toJson {arg : PrintArg}
    (h : ∀ v ∈ arg.segments.filterMap ArgSegment.variable?, v.type.Portable) :
    read arg.toJson = .ok arg := by
  have hsegments : Json.readList ArgSegment.read (.list (arg.segments.map ArgSegment.toJson)) =
      .ok arg.segments := by
    refine Json.readList_map fun segment hmem => ?_
    match segment with
    | .text s => exact ArgSegment.read_toJson_text s
    | .variable v =>
      exact ArgSegment.read_toJson_variable (h v (List.mem_filterMap.2 ⟨_, hmem, rfl⟩))
  rw [read, toJson, Shape.read_object]
  simp [hsegments, Json.require, Except.map]

/-! ## Views -/

namespace OutputView

theorem readLoopFields_cons_body (draft : LoopDraft) (body : List Value)
    (rest : List (String × Value)) :
    readLoopFields draft (("body", .list body) :: rest) =
      (readAll body >>= fun body => readLoopFields { draft with body } rest) := by
  rw [readLoopFields, if_pos rfl, bind_map, readBody]

theorem readDefine_toJson (name : String) {type : TypeRef} (h : type.Portable) :
    readDefine (Json.untagged (toJson (.define name type))) = .ok (.define name type) := by
  have huntagged : Json.untagged (toJson (.define name type)) =
      .object [("reference", type.toJson), ("variable", .text name)] := rfl
  rw [huntagged, readDefine, Shape.read_object]
  simp [h.read_toJson, Json.readText, Json.require]

theorem readPrint_toJson (format : String) {args : List PrintArg}
    (h : ∀ v ∈ variablesOf args, v.type.Portable) :
    readPrint (Json.untagged (toJson (.print format args))) = .ok (.print format args) := by
  have huntagged : Json.untagged (toJson (.print format args)) =
      .object [("args", .list (args.map PrintArg.toJson)), ("format", .text format)] := rfl
  have hargs : Json.readList PrintArg.read (.list (args.map PrintArg.toJson)) = .ok args :=
    Json.readList_map fun arg harg => PrintArg.read_toJson fun v hv =>
      h v (List.mem_flatMap.2 ⟨arg, harg, hv⟩)
  rw [huntagged, readPrint, Shape.read_object]
  simp [hargs, Json.readText]

theorem readComment_toJson (lines : List String) :
    readComment (Json.untagged (toJson (.comment lines))) = .ok (.comment lines) := by
  have huntagged : Json.untagged (toJson (.comment lines)) =
      .object [("lines", Value.texts lines)] := rfl
  rw [huntagged, readComment, Shape.read_object]
  simp [Json.readList_texts]

mutual

/-- A view reads back if the references in it do. -/
theorem read_toJson (access : Access) : (view : OutputView) →
    (∀ t ∈ references view, t.Portable) → read access view.toJson = .ok view
  | .define name type, h => readDefine_toJson name (h type List.mem_cons_self)
  | .print format args, h =>
      readPrint_toJson format fun v hv => h v.type (List.mem_map_of_mem hv)
  | .comment lines, _ => readComment_toJson lines
  | .loop name collection body, h => by
      have hcollection : collection.Portable := h collection List.mem_cons_self
      have hbody : readAll (toJsonAll body) = .ok body :=
        readAll_toJsonAll body fun t ht => h t (List.mem_cons_of_mem collection ht)
      have hcase : ∀ b c, Json.readCase access "OutputView" caseWords
          (.object [("body", b), ("collection", c), ("kind", .text "loop"),
            ("variable", .text name)]) = .ok .loop := fun b c => rfl
      -- A loop is read field by field, the tag among the fields that change nothing.
      rw [toJson, read, hcase, bind_ok]
      show (readLoopFields {} _ >>= _) = _
      rw [readLoopFields_cons_body, hbody]
      simp [readLoopFields, LoopDraft.set, LoopDraft.finish, hcollection.read_toJson,
        Json.readText, Json.require]

/-- Several views read back if the references in them do. -/
theorem readAll_toJsonAll : (views : List OutputView) →
    (∀ t ∈ referencesAll views, t.Portable) → readAll (toJsonAll views) = .ok views
  | [], _ => rfl
  | view :: rest, h => by
      have hview : read .buffered view.toJson = .ok view :=
        read_toJson .buffered view fun t ht => h t (List.mem_append_left _ ht)
      have hrest : readAll (toJsonAll rest) = .ok rest :=
        readAll_toJsonAll rest fun t ht => h t (List.mem_append_right _ ht)
      rw [toJsonAll, readAll, hview, bind_ok, hrest]
      rfl

end

theorem toJsonAll_eq_map (views : List OutputView) : toJsonAll views = views.map toJson := by
  induction views with
  | nil => rfl
  | cons view rest ih => rw [toJsonAll, ih, List.map_cons]

theorem referencesAll_eq_flatMap (views : List OutputView) :
    referencesAll views = views.flatMap references := by
  induction views with
  | nil => rfl
  | cons view rest ih => rw [referencesAll, ih, List.flatMap_cons]

theorem readList_toJsonAll (access : Access) {views : List OutputView}
    (h : ∀ t ∈ referencesAll views, t.Portable) :
    Json.readList (read access) (.list (toJsonAll views)) = .ok views := by
  rw [toJsonAll_eq_map]
  refine Json.readList_map fun view hview => read_toJson access view fun t ht => h t ?_
  rw [referencesAll_eq_flatMap]
  exact List.mem_flatMap.2 ⟨view, hview, ht⟩

end OutputView

end SampleForge
