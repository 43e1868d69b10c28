import SampleForge.Proofs.KeyMap
import SampleForge.Proofs.Sample.Locator
import SampleForge.Proofs.SymbolTable.Walk

/-!
# The import sections of samples

Import sections are made sample by sample.  A sample needs outputs that are in order and a path that
no sample before it has.  So sections are made for all samples exactly if the outputs of every
sample are in order and their paths are distinct (`sectionsFrom_eq_ok`, `generate_eq_ok`), and then
there is one section for each sample (`toList_generate`).

The paths are compared as they are given here, and not by their normal forms.

Every sample has a table of its own, which starts out empty.  Its section therefore does not depend
on the samples around it (`section_eq_of_alike`).
-/

namespace SampleForge.ImportSection

open OutputView (checkAll)
open Toml (Document)

section Sections

variable (product : Product) (policy : ImportPolicy)

/-- A sample's section by its path. -/
def placed (sample : PlacedSample) : String × String × Document :=
  (path product sample.sample.id, sample.sample.id,
    document sample ((SymbolTable.empty policy).flat policy sample.sample.outputs))

/-- The file of a section. -/
def file (sample : PlacedSample) : String × Content :=
  (path product sample.sample.id, .text (placed product policy sample).2.2.write)

variable {product policy}

theorem table_eq_ok {sample : Sample} {table : SymbolTable} :
    ImportSection.table policy sample = .ok table ↔
      checkAll sample.outputs = .ok () ∧
        table = (SymbolTable.empty policy).flat policy sample.outputs := by
  rw [← SymbolTable.collect_eq_ok, ImportSection.table]
  cases (SymbolTable.empty policy).collect policy sample.outputs with
  | error e => simp
  | ok after => simp

/-- Sections are made exactly for samples whose outputs are in order and whose paths are fresh. -/
theorem sectionsFrom_eq_ok {sections result : Sections} {samples : List PlacedSample} :
    sectionsFrom product policy sections samples = .ok result ↔
      (∀ sample ∈ samples, checkAll sample.sample.outputs = .ok ()) ∧
        sections.Fresh ((samples.map (placed product policy)).map (·.1)) ∧
        result = sections.insertAll (samples.map (placed product policy)) := by
  induction samples generalizing sections with
  | nil => simp [sectionsFrom, KeyMap.fresh_nil, KeyMap.insertAll, eq_comm]
  | cons sample rest ih =>
    rw [sectionsFrom, Outcome.bind_eq_ok, List.forall_mem_cons, List.map_cons, List.map_cons,
      KeyMap.fresh_cons (placed product policy sample).2, KeyMap.insertAll_cons]
    simp only [table_eq_ok]
    constructor
    · rintro ⟨_, ⟨hcheck, rfl⟩, hrest⟩
      cases hget : sections.get? (path product sample.sample.id) with
      | some entry =>
        rw [hget] at hrest
        cases hrest
      | none =>
        rw [hget] at hrest
        obtain ⟨hchecks, hfresh, rfl⟩ := ih.1 hrest
        exact ⟨⟨hcheck, hchecks⟩, ⟨hget, hfresh⟩, rfl⟩
    · rintro ⟨⟨hcheck, hchecks⟩, ⟨hget, hfresh⟩, rfl⟩
      have hnone : sections.get? (path product sample.sample.id) = none := hget
      refine ⟨_, ⟨hcheck, rfl⟩, ?_⟩
      rw [hnone]
      exact ih.2 ⟨hchecks, hfresh, rfl⟩

end Sections

section Generate

variable {product : Product} {policy : ImportPolicy} {files : ArtifactMap}

theorem paths_placed (samples : List PlacedSample) :
    (samples.map (placed product policy)).map (·.1) =
      samples.map fun sample => path product sample.sample.id :=
  List.map_map

/-- The generator succeeds exactly if the outputs of every sample are in order and no two samples
have one path. -/
theorem generate_eq_ok :
    generate policy product = .ok files ↔
      (∀ sample ∈ product.samples, checkAll sample.sample.outputs = .ok ()) ∧
        (product.samples.map fun sample => path product sample.sample.id).Nodup ∧
        files = (KeyMap.empty.insertAll (product.samples.map (placed product policy))).mapValues
          fun entry => .text entry.2.write := by
  rw [generate, Outcome.map_eq_ok]
  simp only [sectionsFrom_eq_ok, KeyMap.fresh_empty, paths_placed]
  constructor
  · rintro ⟨_, ⟨hchecks, hnodup, rfl⟩, rfl⟩
    exact ⟨hchecks, hnodup, rfl⟩
  · rintro ⟨hchecks, hnodup, rfl⟩
    exact ⟨_, ⟨hchecks, hnodup, rfl⟩, rfl⟩

/-- There is one section for each sample. -/
theorem toList_generate (h : generate policy product = .ok files) :
    files.toList.Perm (product.samples.map (file product policy)) := by
  obtain ⟨_, hnodup, rfl⟩ := generate_eq_ok.1 h
  rw [← paths_placed] at hnodup
  have hperm := (KeyMap.toList_insertAll_empty_perm hnodup).map
    fun entry => (entry.1, Content.text entry.2.2.write)
  rw [List.map_map] at hperm
  exact hperm

/-- The section of a sample is found at its path. -/
theorem get?_of_mem (h : generate policy product = .ok files) {sample : PlacedSample}
    (hsample : sample ∈ product.samples) :
    ∃ table, ImportSection.table policy sample.sample = .ok table ∧
      files.get? (path product sample.sample.id) = some (.text (document sample table).write) := by
  have hchecked := (generate_eq_ok.1 h).1 sample hsample
  refine ⟨_, table_eq_ok.2 ⟨hchecked, rfl⟩, ?_⟩
  rw [KeyMap.get?_eq_some, (toList_generate h).mem_iff]
  exact List.mem_map_of_mem (f := file product policy) hsample

end Generate

/-! ## Samples apart from one another -/

/-- Sections are made for samples under paths that the client decides. -/
theorem sectionsFrom_congr {p q : Product} (hclient : SameClient p q) (policy : ImportPolicy)
    (samples : List PlacedSample) (sections : Sections) :
    sectionsFrom p policy sections samples = sectionsFrom q policy sections samples := by
  induction samples generalizing sections with
  | nil => rfl
  | cons sample rest ih => simp only [sectionsFrom, hclient.sectionPath, ih]

/-- The sections of a product depend on the client and the samples. -/
theorem generate_congr {p q : Product} (hclient : SameClient p q)
    (hsamples : p.samples = q.samples) :
    generate p.importPolicy p = generate q.importPolicy q := by
  rw [generate, generate, hclient.importPolicy, hsamples, sectionsFrom_congr hclient]

/-- Samples of two products that occur in the same place and do the same. -/
structure Alike (a b : PlacedSample) : Prop where
  interface : a.interface = b.interface
  method : a.method = b.method
  id : a.sample.id = b.sample.id
  outputs : a.sample.outputs = b.sample.outputs

theorem Alike.document {a b : PlacedSample} (h : Alike a b) (table : SymbolTable) :
    document a table = document b table := by
  rw [ImportSection.document, ImportSection.document, h.interface, h.method, h.id]

theorem Alike.table {a b : PlacedSample} (h : Alike a b) (policy : ImportPolicy) :
    table policy a.sample = table policy b.sample := by
  rw [ImportSection.table, ImportSection.table, h.outputs]

/-- The import section of a sample depends on the client and the sample.  Nothing else that a
product contains shows in it. -/
theorem section_eq_of_alike {p q : Product} (hclient : SameClient p q)
    {files files' : ArtifactMap} (hfiles : (generator p).generate p = .ok files)
    (hfiles' : (generator q).generate q = .ok files') {a b : PlacedSample}
    (ha : a ∈ p.samples) (hb : b ∈ q.samples) (halike : Alike a b) :
    path p a.sample.id = path q b.sample.id ∧
      ∃ table, ImportSection.table p.importPolicy a.sample = .ok table ∧
        files.get? (path p a.sample.id) = some (.text (document a table).write) ∧
        files'.get? (path q b.sample.id) = some (.text (document a table).write) := by
  obtain ⟨table, htable, hsection⟩ := get?_of_mem hfiles ha
  obtain ⟨table', htable', hsection'⟩ := get?_of_mem hfiles' hb
  -- Both tables are collected from the same outputs under the same policy.
  have hsame : table' = table := by
    rw [← hclient.importPolicy, ← halike.table, htable] at htable'
    exact (Except.ok.inj htable').symm
  subst hsame
  refine ⟨?path, table', htable, hsection, ?content⟩
  case path => rw [hclient.sectionPath, halike.id]
  case content => rw [halike.document, hsection']

/-- A sample that binds a variable of a type. -/
def binding (id type : String) : Sample where
  id
  outputs := [.define "x" (.leaf .message type)]

/-- A product with these samples. -/
def library (samples : List Sample) : Product where
  packageName := "library.v1"
  language := .java
  timestamp := ⟨0, 0⟩
  interfaces := [⟨"Library", [⟨"GetBook", samples⟩]⟩]

theorem samples_library (samples : List Sample) :
    (library samples).samples = samples.map (⟨"Library", "GetBook", ·⟩) := by
  simp only [Product.samples, library, List.flatMap_singleton]

theorem generate_library {samples : List Sample}
    (hchecks : ∀ sample ∈ samples, checkAll sample.outputs = .ok ())
    (hpaths : (samples.map fun sample => path (library samples) sample.id).Nodup) :
    ∃ files, (generator (library samples)).generate (library samples) = .ok files := by
  refine ⟨_, generate_eq_ok.2 ⟨?_, ?_, rfl⟩⟩
  · rw [samples_library]
    exact List.forall_mem_map.2 hchecks
  · rw [samples_library, List.map_map]
    exact hpaths

theorem checkAll_binding (id type : String) : checkAll (binding id type).outputs = .ok () := rfl

/-- A name that one sample gives to a type is still free in the next. -/
theorem section_eq_of_other :
    let a : PlacedSample := ⟨"Library", "GetBook", binding "show_book" "library.v1.Book"⟩
    let p := library [a.sample]
    let q := library [binding "show_record" "archive.v1.Book", a.sample]
    ∃ files files', (generator p).generate p = .ok files ∧ (generator q).generate q = .ok files' ∧
      ∃ table, ImportSection.table p.importPolicy a.sample = .ok table ∧
        files.get? (path p a.sample.id) = some (.text (document a table).write) ∧
        files'.get? (path q a.sample.id) = some (.text (document a table).write) := by
  intro a p q
  have hcheck : ∀ sample ∈ [a.sample], checkAll sample.outputs = .ok () :=
    List.forall_mem_singleton.2 (checkAll_binding _ _)
  obtain ⟨files, hfiles⟩ := generate_library hcheck (List.nodup_singleton _)
  obtain ⟨files', hfiles'⟩ : ∃ files, (generator q).generate q = .ok files :=
    generate_library (List.forall_mem_cons.2 ⟨checkAll_binding _ _, hcheck⟩) (by decide +kernel)
  have hmem : a ∈ p.samples := List.mem_singleton_self a
  have hmem' : a ∈ q.samples := List.mem_cons_of_mem _ (List.mem_singleton_self a)
  have hsame := section_eq_of_alike (p := p) (q := q) ⟨rfl, rfl, rfl⟩ hfiles hfiles' hmem hmem'
    ⟨rfl, rfl, rfl, rfl⟩
  exact ⟨files, files', hfiles, hfiles', hsame.2⟩

end SampleForge.ImportSection
