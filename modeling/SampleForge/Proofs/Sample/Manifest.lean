import SampleForge.Proofs.Sample.ImportSection
import SampleForge.Proofs.Sample.Locator
import SampleForge.Proofs.Text.Replaced

/-!
# The manifest and the import sections

The manifest gives the place of a sample in terms of its base path (`Manifest.resolve`).  In Java
this makes the name of a class, whose points stand for slashes, and in Python it makes the path of
the file (`Manifest.fileOf`).  An import section has the file of its sample in its own path, and
that file is worked out apart from the manifest.

The two agree for every sample (`fileOf_resolve_samplePath`).  In Java this is because an identifier
is spelled without points, so none but those of the package become slashes.
-/

namespace SampleForge

open Text (hasStart replaceChar replaceChar_append replaceChar_of_not_mem)
open Toml (Document Plain)

/-! ## From the manifest to a file -/

namespace Manifest

/-- A path of the manifest with the base path for the placeholder that it starts with. -/
def resolve (base path : String) : String :=
  match path.toList.dropPrefix? Language.basePlaceholder.toList with
  | some rest => base ++ String.ofList rest
  | none => path

/-- The file that a resolved path of the manifest means. -/
def fileOf (language : Language) (resolved : String) : String :=
  match language with
  | .java => "samples/src/main/java/" ++ replaceChar '.' '/' resolved ++ ".java"
  | .python => resolved

theorem resolve_placeholder (base rest : String) :
    resolve base (Language.basePlaceholder ++ rest) = base ++ rest := by
  have hdrop : (Language.basePlaceholder ++ rest).toList.dropPrefix?
      Language.basePlaceholder.toList = some rest.toList := by
    rw [List.dropPrefix?_eq_some_iff, String.toList_append]
    exact ⟨_, rfl, beq_self_eq_true _⟩
  rw [resolve, hdrop]
  simp only [String.ofList_toList]

example : resolve "library.v1.examples" "\x7bbase_path\x7d.ListBooks" =
    "library.v1.examples.ListBooks" := by decide

theorem resolve_samplePath_java (product : Product) (id : String) :
    resolve (product.basePath .java) (Language.java.samplePath id) =
      product.examplePackage ++ "." ++ Identifier.upperCamel id := by
  rw [Language.samplePath, String.append_assoc, resolve_placeholder, ← String.append_assoc]
  rfl

theorem resolve_samplePath_python (product : Product) (id : String) :
    resolve (product.basePath .python) (Language.python.samplePath id) =
      "samples/" ++ Identifier.lowerUnderscore id ++ ".py" := by
  rw [Language.samplePath, String.append_assoc, String.append_assoc, resolve_placeholder,
    ← String.append_assoc, ← String.append_assoc]
  rfl

theorem hasStart_samplePath (language : Language) (id : String) :
    hasStart Language.basePlaceholder (language.samplePath id) = true := by
  cases language with
  | java =>
    rw [hasStart, Language.samplePath, String.append_assoc, String.toList_append,
      List.isPrefixOf_iff_prefix]
    exact List.prefix_append _ _
  | python =>
    rw [hasStart, Language.samplePath, String.append_assoc, String.append_assoc,
      String.toList_append, List.isPrefixOf_iff_prefix]
    exact List.prefix_append _ _

/-- The path of a sample in the manifest leads to the file of the sample. -/
theorem fileOf_resolve_samplePath (product : Product) (language : Language) (id : String) :
    fileOf language (resolve (product.basePath language) (language.samplePath id)) =
      product.sampleFile language id := by
  cases language with
  | java =>
    have hpoint : replaceChar '.' '/' "." = "/" := by decide
    have hslashed :
        replaceChar '.' '/' (product.examplePackage ++ "." ++ Identifier.upperCamel id) =
          replaceChar '.' '/' product.examplePackage ++ "/" ++ Identifier.upperCamel id := by
      rw [replaceChar_append, replaceChar_append, hpoint,
        replaceChar_of_not_mem '/' (Identifier.point_not_mem_upperCamel id)]
    rw [resolve_samplePath_java]
    unfold fileOf Product.sampleFile
    dsimp only
    rw [hslashed]
    simp only [String.append_assoc]
  | python => exact resolve_samplePath_python product id

/-- An entry for a sample, which leads to the file of the sample from a base path. -/
structure EntryOf (product : Product) (base : String) (sample : PlacedSample)
    (entry : List (String × Plain)) : Prop where
  id : findPair? "sample" entry = some (.text sample.sample.id)
  interface : findPair? "interface" entry = some (.text sample.interface)
  method : findPair? "method" entry = some (.text sample.method)
  file : ∃ path, findPair? "path" entry = some (.text path) ∧
    hasStart Language.basePlaceholder path = true ∧
    fileOf product.language (resolve base path) =
      product.sampleFile product.language sample.sample.id

theorem entryOf_entry (product : Product) (sample : PlacedSample) :
    EntryOf product (product.basePath product.language) sample (entry product.language sample) where
  id := rfl
  interface := rfl
  method := rfl
  file := ⟨_, rfl, hasStart_samplePath _ _, fileOf_resolve_samplePath product _ _⟩

end Manifest

/-- The manifest lists the samples of a product in their order, with one entry for each.  From its
base path, each entry leads to the file of its sample, and the import section of the sample stands
beside that file. -/
theorem manifest_leads_to_sections (product : Product) :
    ∃ (manifest : Document) (base : String),
      (Manifest.generator product).generate product =
          .ok (KeyMap.empty.insert (Manifest.path product.language) (.text manifest.write)) ∧
        findPair? "base_path" manifest.fields = some (.text base) ∧
        manifest.listName = "samples" ∧
        List.Forall₂ (Manifest.EntryOf product base) product.samples manifest.tables ∧
        ∀ files, (ImportSection.generator product).generate product = .ok files →
          ∀ sample ∈ product.samples, ∃ table,
            ImportSection.table product.importPolicy sample.sample = .ok table ∧
              files.get? (product.sampleFile product.language sample.sample.id ++ ".imports.toml") =
                some (.text (ImportSection.document sample table).write) := by
  refine ⟨Manifest.document product.language product, product.basePath product.language, rfl, rfl,
    rfl, ?entries, fun files hfiles sample hsample => ImportSection.get?_of_mem hfiles hsample⟩
  case entries =>
    rw [Manifest.document, List.forall₂_map_right_iff, List.forall₂_same]
    intro sample _
    exact Manifest.entryOf_entry product sample

/-- The section of a sample in Java stands beside the class that the manifest names. -/
theorem section_beside_class :
    let product := ImportSection.library [ImportSection.binding "show_book" "library.v1.Book"]
    ∃ files, (ImportSection.generator product).generate product = .ok files ∧
      ∃ content, files.get? "samples/src/main/java/library/v1/examples/ShowBook.java.imports.toml" =
        some content := by
  intro product
  let sample : PlacedSample :=
    ⟨"Library", "GetBook", ImportSection.binding "show_book" "library.v1.Book"⟩
  obtain ⟨files, hfiles⟩ :
      ∃ files, (ImportSection.generator product).generate product = .ok files :=
    ImportSection.generate_library
      (List.forall_mem_singleton.2 (ImportSection.checkAll_binding _ _)) (List.nodup_singleton _)
  obtain ⟨_, _, _, _, _, _, hsections⟩ := manifest_leads_to_sections product
  obtain ⟨table, _, hcontent⟩ := hsections files hfiles sample (List.mem_singleton_self sample)
  have hpath : product.sampleFile .java "show_book" ++ ".imports.toml" =
      "samples/src/main/java/library/v1/examples/ShowBook.java.imports.toml" := by
    decide +kernel
  exact ⟨files, hfiles, _, hpath ▸ hcontent⟩

end SampleForge
