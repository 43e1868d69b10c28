import SampleForge.Proofs.Artifact.Write
import SampleForge.Proofs.Orchestrator.DisjointMerge
import SampleForge.Proofs.Sample.ImportSection

/-!
# Runs for samples

Of the generators that every product has, two take part in a run for samples alone
(`admitted_builtIn`): one makes an import section for each sample, the other makes the manifest.
What names anyone has chosen does not matter to most of what could stand in the way of the run.  All
paths have a normal form, and that of the manifest is apart from the others.  What is left are
outputs that are not in order and samples that lie in one file (`Generable`).

The files of a run never stand in each other's way, so only the file system can keep them from being
written.  It does so if a name is too long for it (`not_accepts_longNamed`).
-/

namespace SampleForge.Orchestrator

open ArtifactMap (Accepts EmptyRoot IsWriting Writable)
open OutputPath (Apart Normalizes normalize)
open OutputView (checkAll)

/-! ## The specification -/

section Specification

variable (product : Product)

/-- Samples for which files can be generated. -/
structure Generable : Prop where
  /-- The outputs of every sample are in order. -/
  checked : ∀ sample ∈ product.samples, checkAll sample.sample.outputs = .ok ()
  /-- No two samples lie in one file. -/
  apart : product.samples.Pairwise fun a b =>
    Apart (product.sampleFile product.language a.sample.id)
      (product.sampleFile product.language b.sample.id)

/-- The files for samples: an import section for each of them, and the manifest. -/
structure HoldsSamples (artifacts : ArtifactMap) : Prop where
  /-- The files are the manifest and the import sections under their normal paths. -/
  files : ∀ path content, artifacts.get? path = some content ↔
    (path = Manifest.path product.language ∧
        content = .text (Manifest.document product.language product).write) ∨
      ∃ sample ∈ product.samples,
        normalize (ImportSection.path product sample.sample.id) = .ok path ∧
          ∃ table, ImportSection.table product.importPolicy sample.sample = .ok table ∧
            content = .text (ImportSection.document sample table).write
  /-- There is one import section for each sample. -/
  size : artifacts.size = product.samples.length + 1
  /-- Every import section has a path with a normal form. -/
  normalizes : ∀ sample ∈ product.samples, Normalizes (ImportSection.path product sample.sample.id)
  /-- Every path is its own normal form. -/
  normal : ∀ path ∈ artifacts.keys, normalize path = .ok path
  /-- Every path lies below `samples`. -/
  below : ∀ path ∈ artifacts.keys, Text.hasStart "samples/" path = true
  /-- The files can stand beside one another. -/
  writable : artifacts.Writable

end Specification

/-! ## What is emitted -/

section Emitted

variable (product : Product)

/-- The file of the manifest. -/
def manifestFile : String × Content :=
  (Manifest.path product.language, .text (Manifest.document product.language product).write)

/-- The files for samples, each under the path that it is emitted with. -/
def sampleFiles : List (String × Content) :=
  product.samples.map (ImportSection.file product product.importPolicy) ++ [manifestFile product]

theorem mem_sampleFiles {file : String × Content} :
    file ∈ sampleFiles product ↔
      file = manifestFile product ∨ ∃ sample ∈ product.samples,
        ImportSection.file product product.importPolicy sample = file := by
  rw [sampleFiles, List.mem_append, List.mem_singleton, List.mem_map, or_comm]

theorem isSamplePath_of_mem {file : String × Content} (h : file ∈ sampleFiles product) :
    IsSamplePath file.1 := by
  rcases (mem_sampleFiles product).1 h with rfl | ⟨sample, _, rfl⟩
  · exact Manifest.isSamplePath_path product.language
  · exact ImportSection.isSamplePath_path product sample.sample.id

/-- The files for samples are apart exactly if the files of the samples are. -/
theorem pairwise_sampleFiles_iff :
    ((sampleFiles product).Pairwise fun a b => Apart a.1 b.1) ↔
      product.samples.Pairwise fun a b =>
        Apart (product.sampleFile product.language a.sample.id)
          (product.sampleFile product.language b.sample.id) := by
  rw [sampleFiles, List.pairwise_append, List.pairwise_map]
  constructor
  · rintro ⟨hsections, _, _⟩
    exact hsections.imp fun {a b} => (ImportSection.apart_path_iff product _ _).1
  · intro h
    refine ⟨h.imp fun {a b} => (ImportSection.apart_path_iff product _ _).2,
      List.pairwise_singleton _ _, ?_⟩
    intro file hfile other hother
    obtain ⟨sample, _, rfl⟩ := List.mem_map.1 hfile
    rw [List.mem_singleton.1 hother]
    exact Manifest.apart_path product sample.sample.id product.language

/-- Two generators take part in a run for samples. -/
theorem admitted_builtIn :
    (builtIn product).admitted [.samples] none =
      [⟨.samples, ImportSection.generator product⟩, ⟨.samples, Manifest.generator product⟩] := by
  have hwalk : (builtIn product).walk [.samples] =
      [⟨.samples, ImportSection.generator product⟩, ⟨.samples, Manifest.generator product⟩] := by
    rw [walk, builtIn]
    cases Generator.packaging? product with
    | none => rfl
    | some packaging => rfl
  rw [admitted, hwalk]
  rfl

theorem emission_manifest :
    emission product ⟨.samples, Manifest.generator product⟩ = [manifestFile product] := rfl

theorem emission_sections {files : ArtifactMap}
    (h : ImportSection.generate product.importPolicy product = .ok files) :
    emission product ⟨.samples, ImportSection.generator product⟩ = files.toList := by
  have hgenerate : (ImportSection.generator product).generate product = .ok files := h
  rw [emission, hgenerate]

theorem emitted_perm {files : ArtifactMap}
    (h : ImportSection.generate product.importPolicy product = .ok files) :
    ((builtIn product).emitted [.samples] none).Perm (sampleFiles product) := by
  rw [emitted, admitted_builtIn, List.flatMap_cons, List.flatMap_singleton]
  have hproduct : (builtIn product).product = product := rfl
  rw [hproduct, emission_sections product h, emission_manifest]
  exact (ImportSection.toList_generate h).append_right _

end Emitted

/-! ## The run -/

section Run

variable {product : Product} {diagnostics : List Diagnostic}

theorem Generable.generate (h : Generable product) :
    ∃ files, ImportSection.generate product.importPolicy product = .ok files := by
  refine ⟨_, ImportSection.generate_eq_ok.2 ⟨h.checked, ?_, rfl⟩⟩
  rw [List.Nodup, List.pairwise_map]
  refine h.apart.imp fun {a b} hapart => ?_
  exact ((ImportSection.apart_path_iff product _ _).2 hapart).ne
    (ImportSection.isSamplePath_path product _).normalizes

/-- Nothing but diagnostics and the samples stands in the way of a run for samples. -/
theorem mergeable_iff_generable :
    (builtIn product).Mergeable [.samples] none diagnostics ↔
      (∀ d ∈ diagnostics, d.severity ≠ .error) ∧ Generable product := by
  constructor
  · intro h
    obtain ⟨files, hfiles⟩ :=
      h.succeeds ⟨.samples, ImportSection.generator product⟩
        (by rw [admitted_builtIn]; exact List.mem_cons_self)
    have hapart := h.disjoint.perm (emitted_perm product hfiles) Apart.symm
    exact ⟨h.noError, (ImportSection.generate_eq_ok.1 hfiles).1,
      (pairwise_sampleFiles_iff product).1 hapart⟩
  · rintro ⟨hnone, h⟩
    obtain ⟨files, hfiles⟩ := h.generate
    have hperm := emitted_perm product hfiles
    refine ⟨hnone, ?_, ?_, ?_⟩
    · rw [admitted_builtIn]
      exact List.forall_mem_cons.2 ⟨⟨files, hfiles⟩, List.forall_mem_singleton.2 ⟨_, rfl⟩⟩
    · intro file hfile
      exact (isSamplePath_of_mem product (hperm.subset hfile)).normalizes
    · exact ((pairwise_sampleFiles_iff product).2 h.apart).perm hperm.symm Apart.symm

/-- What is emitted for samples under a normal path. -/
theorem exists_sampleFile_iff (h : Generable product) {path : String} {content : Content} :
    (∃ file ∈ sampleFiles product, normalize file.1 = .ok path ∧ file.2 = content) ↔
      (path = Manifest.path product.language ∧
          content = .text (Manifest.document product.language product).write) ∨
        ∃ sample ∈ product.samples,
          normalize (ImportSection.path product sample.sample.id) = .ok path ∧
            ∃ table, ImportSection.table product.importPolicy sample.sample = .ok table ∧
              content = .text (ImportSection.document sample table).write := by
  have hmanifest := Manifest.normalize_path product.language
  constructor
  · rintro ⟨file, hfile, hpath, rfl⟩
    rcases (mem_sampleFiles product).1 hfile with rfl | ⟨sample, hsample, rfl⟩
    · exact .inl ⟨Except.ok.inj (hpath.symm.trans hmanifest), rfl⟩
    · exact .inr ⟨sample, hsample, hpath, _,
        ImportSection.table_eq_ok.2 ⟨h.checked sample hsample, rfl⟩, rfl⟩
  · rintro (⟨rfl, rfl⟩ | ⟨sample, hsample, hpath, table, htable, rfl⟩)
    · exact ⟨manifestFile product, (mem_sampleFiles product).2 (.inl rfl), hmanifest, rfl⟩
    · obtain ⟨_, rfl⟩ := ImportSection.table_eq_ok.1 htable
      exact ⟨_, (mem_sampleFiles product).2 (.inr ⟨sample, hsample, rfl⟩), hpath, rfl⟩

/-- A run for samples that succeeds gives their files. -/
theorem holdsSamples {report : Report}
    (hrun : (builtIn product).run (.named [.samples] none) diagnostics = .ok report) :
    HoldsSamples product report.artifacts := by
  obtain ⟨hmergeable, rfl⟩ := run_eq_ok.1 hrun
  have hmerge := isMerge_final hmergeable
  have hgenerable := (mergeable_iff_generable.1 hmergeable).2
  obtain ⟨files, hfiles⟩ := hgenerable.generate
  have hperm := emitted_perm product hfiles
  have hemitted : ∀ path content,
      (final (builtIn product) [.samples] none).report.artifacts.get? path = some content ↔
        ∃ file ∈ sampleFiles product, normalize file.1 = .ok path ∧ file.2 = content := by
    intro path content
    rw [hmerge.artifacts]
    simp only [hperm.mem_iff]
  have hfrom : ∀ path ∈ (final (builtIn product) [.samples] none).report.artifacts.keys,
      ∃ file, IsSamplePath file ∧ normalize file = .ok path := by
    intro path hpath
    obtain ⟨content, hcontent⟩ := KeyMap.mem_keys.1 hpath
    obtain ⟨file, hfile, hnormal, _⟩ := (hemitted path content).1 hcontent
    exact ⟨file.1, isSamplePath_of_mem product hfile, hnormal⟩
  refine ⟨?files, ?size, ?normalizes, hmerge.normal, ?below, ?writable⟩
  case files =>
    intro path content
    rw [hemitted, exists_sampleFile_iff hgenerable]
  case size =>
    rw [hmerge.size, hperm.length_eq, sampleFiles, List.length_append, List.length_map,
      List.length_singleton]
  case normalizes =>
    intro sample _
    exact (ImportSection.isSamplePath_path product sample.sample.id).normalizes
  case below =>
    intro path hpath
    obtain ⟨file, hfile, hnormal⟩ := hfrom path hpath
    exact hfile.hasStart hnormal
  case writable =>
    refine ArtifactMap.writable_of_normal hmerge.normal fun a ha b hb => ?_
    obtain ⟨file, hfile, hnormal⟩ := hfrom a ha
    obtain ⟨other, hother, hnormal'⟩ := hfrom b hb
    exact hfile.not_directoryOf hother hnormal hnormal'

end Run

/-- A run for samples succeeds exactly if no diagnostic is an error, the outputs of every sample are
in order and no two samples lie in one file.  Its files are one import section for each sample and
the manifest, all of them below `samples`.  In an empty directory they are written exactly if the
file system accepts their paths. -/
theorem run_samples (product : Product) (diagnostics : List Diagnostic) :
    ((∃ report, (builtIn product).run (.named [.samples] none) diagnostics = .ok report) ↔
        (∀ d ∈ diagnostics, d.severity ≠ .error) ∧ Generable product) ∧
      ∀ report, (builtIn product).run (.named [.samples] none) diagnostics = .ok report →
        HoldsSamples product report.artifacts ∧
          ∀ tree root place, EmptyRoot tree root place →
            ((∃ count, (report.artifacts.writeTo tree root).2 = .ok count) ↔
              ∀ path ∈ report.artifacts.keys, Accepts root path) ∧
            ∀ count, (report.artifacts.writeTo tree root).2 = .ok count →
              count = product.samples.length + 1 ∧
                report.artifacts.IsWriting tree root place
                  (report.artifacts.writeTo tree root).1 := by
  refine ⟨exists_run_iff.trans mergeable_iff_generable, fun report hrun => ?_⟩
  have hholds := holdsSamples hrun
  refine ⟨hholds, fun tree root place hroot => ?_⟩
  have hpaths : (∀ key ∈ report.artifacts.keys, ∀ path, normalize key = .ok path →
      Accepts root path) ↔ ∀ path ∈ report.artifacts.keys, Accepts root path := by
    constructor
    · intro h path hpath
      exact h path hpath path (hholds.normal path hpath)
    · intro h key hkey path hpath
      rw [hholds.normal key hkey] at hpath
      cases hpath
      exact h key hkey
  refine ⟨(hholds.writable.writeTo_eq_ok_iff hroot).trans hpaths, fun count hcount => ?_⟩
  have haccepts := ArtifactMap.accepts_of_writeTo hcount
  obtain ⟨after, hwrite, hwriting⟩ := hholds.writable.writeTo_eq hroot haccepts
  rw [hwrite] at hcount ⊢
  cases hcount
  exact ⟨hholds.size, hwriting⟩

/-- Names that differ may lead to one file. -/
example :
    let product : Product := {
      packageName := "library.v1", language := .python, timestamp := ⟨0, 0⟩
      interfaces := [{ name := "Library", methods := [{ name := "GetBook", samples :=
        [{ id := "a/b" }, { id := "a//b" }] }] }] }
    ((builtIn product).run (.named [.samples] none) []).toOption.isSome = false := by
  decide +kernel

/-! ## A name that is too long -/

/-- A name of 240 letters. -/
def longName : String := String.ofList (List.replicate 240 'a')

/-- A product with one sample, which bears this name. -/
def longNamed : Product where
  packageName := "library.v1"
  language := .python
  timestamp := ⟨0, 0⟩
  interfaces := [{ name := "Library", methods := [{ name := "GetBook", samples :=
    [{ id := longName }] }] }]

theorem toList_longName : longName.toList = List.replicate 240 'a' := String.toList_ofList

theorem generable_longNamed : Generable longNamed where
  checked := List.forall_mem_singleton.2 rfl
  apart := List.pairwise_singleton _ _

theorem sampleStem_longNamed :
    longNamed.sampleStem longNamed.language longName = longName := by
  have hletter : Identifier.Kept 'a' := ⟨by decide, by decide +kernel, by decide +kernel⟩
  have hkept : ∀ c ∈ longName.toList, Identifier.Kept c := by
    intro c hc
    rw [toList_longName] at hc
    rw [List.eq_of_mem_replicate hc]
    exact hletter
  exact Identifier.lowerUnderscore_of_kept hkept

/-- With the ending that import sections have, it is too long for a file. -/
theorem not_accepts_longNamed {root path : String}
    (hpath : normalize (ImportSection.path longNamed longName) = .ok path) :
    ¬ Accepts root path := by
  intro haccepts
  have hslash : '/' ∉ longName.toList := by
    rw [toList_longName, List.mem_replicate]
    decide
  rw [ImportSection.path_eq, sampleStem_longNamed] at hpath
  have hmem : longName ++ ".py.imports.toml" ∈ Text.split '/' path := by
    rw [split_of_normalize_samplePath (isEnding_section longNamed.language) hpath,
      SampleForge.names, lastName_of_not_mem hslash]
    exact List.mem_concat_self
  have hsize := haccepts.names _ hmem
  have htooLong : 255 < (longName ++ ".py.imports.toml").utf8ByteSize := by decide +kernel
  omega

/-- The files of this product are made, and they are not written. -/
theorem not_written_longNamed :
    Generable longNamed ∧ EmptyRoot ArtifactMap.sampleTree "/out" (.ofNames ["out"]) ∧
      ∃ report, (builtIn longNamed).run (.named [.samples] none) [] = .ok report ∧
        ∀ count, (report.artifacts.writeTo ArtifactMap.sampleTree "/out").2 ≠ .ok count := by
  have hnone : ∀ d ∈ ([] : List Diagnostic), d.severity ≠ .error := List.forall_mem_nil _
  obtain ⟨report, hrun⟩ := exists_run_iff.2
    (mergeable_iff_generable.2 ⟨hnone, generable_longNamed⟩)
  refine ⟨generable_longNamed, ArtifactMap.emptyRoot_sampleTree, report, hrun, ?_⟩
  intro count hcount
  have hholds := holdsSamples hrun
  obtain ⟨path, hpath⟩ := hholds.normalizes _ (List.mem_singleton_self _)
  have hkey : path ∈ report.artifacts.keys := by
    obtain ⟨table, htable⟩ : ∃ table, ImportSection.table longNamed.importPolicy
        { id := longName } = .ok table := ⟨_, rfl⟩
    exact KeyMap.mem_keys.2 ⟨_, (hholds.files path _).2
      (.inr ⟨_, List.mem_singleton_self _, hpath, table, htable, rfl⟩)⟩
  exact not_accepts_longNamed hpath
    (ArtifactMap.accepts_of_writeTo hcount path hkey path (hholds.normal path hkey))

end SampleForge.Orchestrator
