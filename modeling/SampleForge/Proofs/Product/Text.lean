import SampleForge.Proofs.Product.Document
import SampleForge.Proofs.Product.WireForm

/-!
# Reading products back from text

A product reads back from the text of its document, in either layout, since that reads as its wire
form, and this as the product (`Product.reads_back_from_text`).  The order of the fields does not
matter.  The one condition is that no more lists and objects are open at once than a reader takes.

Each loop opens two, an object for itself and a list for its body, so loops cannot stand inside one
another to any depth (`Product.loopDepth_le_nesting`).  With 59 of them a text can still be read,
with 60 it never can.
-/

namespace SampleForge

open Json (Value)

/-! ## Loops inside loops -/

namespace OutputView

mutual

/-- The number of loops around the innermost place of a view. -/
def loopDepth : OutputView → Nat
| .loop _ _ body => loopDepthAll body + 1
| .define _ _ | .print _ _ | .comment _ => 0

/-- The number of loops around the innermost place of several views. -/
def loopDepthAll : List OutputView → Nat
| [] => 0
| view :: rest => max view.loopDepth (loopDepthAll rest)

end

mutual

theorem loopDepth_le_nesting : (view : OutputView) → 2 * view.loopDepth ≤ view.toJson.nesting
  | .define _ _ => Nat.zero_le _
  | .print _ _ => Nat.zero_le _
  | .comment _ => Nat.zero_le _
  | .loop name collection body => by
      have hbody := loopDepthAll_le_nesting body
      have hlist : (Value.list (toJsonAll body)).nesting <
          (toJson (.loop name collection body)).nesting :=
        Json.nesting_lt_object (k := "body") (by simp)
      rw [Value.nesting] at hlist
      rw [loopDepth]
      omega

theorem loopDepthAll_le_nesting : (views : List OutputView) →
    2 * loopDepthAll views ≤ Json.nestingOfItems (toJsonAll views)
  | [] => Nat.le_refl _
  | view :: rest => by
      have hview := loopDepth_le_nesting view
      have hrest := loopDepthAll_le_nesting rest
      rw [loopDepthAll, toJsonAll, Json.nestingOfItems]
      omega

end

end OutputView

namespace Product

/-- Around the loops of a sample there are eight more lists and objects. -/
theorem loopDepth_le_nesting {product : Product} {placed : PlacedSample}
    (h : placed ∈ product.samples) :
    2 * OutputView.loopDepthAll placed.sample.outputs + 8 ≤ product.toJson.nesting := by
  obtain ⟨interface, hinterface, h⟩ := List.mem_flatMap.1 h
  obtain ⟨method, hmethod, h⟩ := List.mem_flatMap.1 h
  obtain ⟨sample, hsample, rfl⟩ := List.mem_map.1 h
  have hloops := OutputView.loopDepthAll_le_nesting sample.outputs
  have houtputs : (Value.list (OutputView.toJsonAll sample.outputs)).nesting <
      sample.toJson.nesting := Json.nesting_lt_object (k := "outputs") (by simp)
  have hsamples : sample.toJson.nesting < (Value.list (method.samples.map Sample.toJson)).nesting :=
    Json.nesting_lt_list (List.mem_map_of_mem hsample)
  have hmethod' : (Value.list (method.samples.map Sample.toJson)).nesting < method.toJson.nesting :=
    Json.nesting_lt_object (k := "samples") (by simp)
  have hmethods : method.toJson.nesting <
      (Value.list (interface.methods.map Method.toJson)).nesting :=
    Json.nesting_lt_list (List.mem_map_of_mem hmethod)
  have hinterface' : (Value.list (interface.methods.map Method.toJson)).nesting <
      interface.toJson.nesting := Json.nesting_lt_object (k := "methods") (by simp)
  have hinterfaces : interface.toJson.nesting <
      (Value.list (product.interfaces.map Interface.toJson)).nesting :=
    Json.nesting_lt_list (List.mem_map_of_mem hinterface)
  have hproduct : (Value.list (product.interfaces.map Interface.toJson)).nesting <
      product.toJson.nesting := Json.nesting_lt_object (k := "interfaces") (by simp)
  rw [Value.nesting] at houtputs
  show 2 * OutputView.loopDepthAll sample.outputs + 8 ≤ _
  omega

/-! ## Texts of a product -/

/-- A product whose references can be obtained and have identities of their own for all their
collections reads back from its wire form, however deep, if its timestamp does.  It reads back from
the text of its document, or of any other that arranges the wire form, exactly when this opens no
more lists and objects at once than a reader takes.  Otherwise the text is refused. -/
theorem reads_back_from_text {product : Product}
    (hobtainable : ∀ t ∈ product.references, t.Obtainable)
    (hexplicit : ∀ t ∈ product.references, t.Explicit)
    (htime : Timestamp.parse product.timestamp.shortText = .ok product.timestamp)
    (now : Timestamp) :
    read now product.toJson = .ok product ∧
      product.document.Arranges product.toJson ∧
      ∀ doc : Value, doc.Arranges product.toJson →
        ∀ text, text = doc.compact ∨ text = doc.pretty →
          (Json.read? text).map (read now) =
            if product.toJson.nesting ≤ Json.depthLimit then some (.ok product) else none := by
  have hread := reads_back hobtainable hexplicit htime now
  refine ⟨hread, product.arranges_document, fun doc hdoc text htext => ?_⟩
  rw [hdoc.read?_eq htext]
  split
  · rw [Option.map_some, hread]
  · rfl

end Product

/-! ## The deepest loops -/

/-- Loops over books, so many of them inside one another. -/
def OutputView.loops : Nat → List OutputView
  | 0 => []
  | count + 1 => [.loop "book" (.collection "a.Books" (.leaf .message "a.Book")) (loops count)]

theorem OutputView.mem_referencesAll_loops {count : Nat} {t : TypeRef}
    (h : t ∈ referencesAll (loops count)) :
    t = .collection "a.Books" (.leaf .message "a.Book") := by
  induction count with
  | zero => cases h
  | succ count ih =>
    rw [loops, referencesAll, references, referencesAll, List.append_nil] at h
    exact (List.mem_cons.1 h).elim id ih

theorem OutputView.loopDepthAll_loops (count : Nat) : loopDepthAll (loops count) = count := by
  induction count with
  | zero => rfl
  | succ count ih => simp [loops, loopDepthAll, loopDepth, ih]

namespace Product

/-- A product with a sample that has so many loops inside one another. -/
def nested (count : Nat) : Product where
  packageName := "a"
  language := .python
  timestamp := ⟨0, 500000000⟩
  interfaces := [⟨"Library", [⟨"List", [⟨"books", none, some "paged",
    .comment ["Each book", ""] ::
      .print "%s" [⟨[.text "is ", .variable ⟨"state", .leaf .primitive "string", true⟩]⟩] ::
      OutputView.loops count⟩]⟩, ⟨"Get", []⟩]⟩]
  packagingFiles := KeyMap.ofList [("setup.cfg", "x"), ("LICENSE", "")]
  diagnostics := [⟨.warning, none, "old"⟩, ⟨.note, some "a.proto", "new"⟩]

theorem portable_of_mem_nested {count : Nat} {t : TypeRef} (h : t ∈ (nested count).references) :
    t.Portable := by
  have hcases : .leaf .primitive "string" = t ∨
      t ∈ OutputView.referencesAll (OutputView.loops count) := by
    simpa [nested, references, Interface.references, Method.references, OutputView.referencesAll,
      OutputView.references, OutputView.variablesOf, ArgSegment.variable?] using h
  rcases hcases with rfl | h
  · have hread : TypeRef.read .direct (TypeRef.leaf .primitive "string").toJson =
        .ok (.leaf .primitive "string") := rfl
    exact ⟨.read hread, trivial⟩
  · rw [OutputView.mem_referencesAll_loops h]
    have hread : TypeRef.read .direct
        (TypeRef.collection "a.Books" (.leaf .message "a.Book")).toJson =
        .ok (.collection "a.Books" (.leaf .message "a.Book")) := rfl
    exact ⟨.read hread, trivial, rfl⟩

theorem le_nesting_nested (count : Nat) : 2 * count + 8 ≤ (nested count).toJson.nesting := by
  obtain ⟨placed, hplaced, hloops⟩ : ∃ placed ∈ (nested count).samples,
      OutputView.loopDepthAll placed.sample.outputs = count := by
    simp [nested, samples, OutputView.loopDepthAll, OutputView.loopDepth,
      OutputView.loopDepthAll_loops]
  have hnesting := loopDepth_le_nesting hplaced
  rw [hloops] at hnesting
  exact hnesting

theorem parse_shortText_nested (count : Nat) :
    Timestamp.parse (nested count).timestamp.shortText = .ok (nested count).timestamp := by
  have hparse : Timestamp.parse (Timestamp.shortText ⟨0, 500000000⟩) = .ok ⟨0, 500000000⟩ := by
    decide +kernel
  exact hparse

/-- With 59 loops inside one another the text of a product still reads back. -/
theorem reads_back_from_text_nested :
    let product := nested 59
    (∀ t ∈ product.references, t.Obtainable) ∧ (∀ t ∈ product.references, t.Explicit) ∧
      Timestamp.parse product.timestamp.shortText = .ok product.timestamp ∧
      (Json.read? product.document.compact).map (read ⟨7, 0⟩) = some (.ok product) ∧
      (Json.read? product.toJson.pretty).map (read ⟨7, 0⟩) = some (.ok product) := by
  intro product
  have hobtainable : ∀ t ∈ product.references, t.Obtainable := fun t ht =>
    (portable_of_mem_nested ht).obtainable
  have hexplicit : ∀ t ∈ product.references, t.Explicit := fun t ht =>
    (portable_of_mem_nested ht).explicit
  have htime := parse_shortText_nested 59
  have hdepth : product.toJson.nesting ≤ Json.depthLimit := by decide +kernel
  obtain ⟨-, hdocument, htexts⟩ := reads_back_from_text hobtainable hexplicit htime ⟨7, 0⟩
  have hcompact := htexts product.document hdocument _ (.inl rfl)
  have hpretty := htexts product.toJson hdocument.self _ (.inr rfl)
  rw [if_pos hdepth] at hcompact hpretty
  exact ⟨hobtainable, hexplicit, htime, hcompact, hpretty⟩

/-- With 60 loops inside one another the wire form of a product reads back, but no text of it can
be read. -/
theorem not_reads_back_from_text_nested :
    let product := nested 60
    (∀ t ∈ product.references, t.Obtainable) ∧ (∀ t ∈ product.references, t.Explicit) ∧
      Timestamp.parse product.timestamp.shortText = .ok product.timestamp ∧
      read ⟨7, 0⟩ product.toJson = .ok product ∧
      Json.read? product.document.compact = none ∧ Json.read? product.document.pretty = none := by
  intro product
  have hobtainable : ∀ t ∈ product.references, t.Obtainable := fun t ht =>
    (portable_of_mem_nested ht).obtainable
  have hexplicit : ∀ t ∈ product.references, t.Explicit := fun t ht =>
    (portable_of_mem_nested ht).explicit
  have htime := parse_shortText_nested 60
  have hdepth : Json.depthLimit < product.toJson.nesting := le_nesting_nested 60
  have htext : ∀ text, text = product.document.compact ∨ text = product.document.pretty →
      Json.read? text = none := by
    intro text htext
    rw [product.arranges_document.read?_eq htext, if_neg (Nat.not_le.2 hdepth)]
  exact ⟨hobtainable, hexplicit, htime, reads_back hobtainable hexplicit htime ⟨7, 0⟩,
    htext _ (.inl rfl), htext _ (.inr rfl)⟩

end Product

end SampleForge
