import SampleForge.Proofs.Orchestrator.DisjointMerge
import SampleForge.Report

/-!
# What is shown of a run

A report of a run is shown as a text or as JSON.  Both tell about the same files: the text has a row
for each of them and counts them, and the JSON holds what each of them contains.  The fingerprint in
both is that of these files.
-/

namespace SampleForge

open Json (Value)

/-- The rows of a table that has one row for each file, with its path and its size. -/
structure ListsFiles (rows : List Table.Row) (files : ArtifactMap) : Prop where
  row : ∀ row ∈ rows, ∃ path generator kind content, files.get? path = some content ∧
    row = [path, generator, kind, Nat.repr content.bytes.length]
  paths : (rows.map (·.headD "")).Perm files.keys

/-- A text that lists files, counts them and tells their fingerprint. -/
def ShownAsText (files : ArtifactMap) (shown : String) : Prop :=
  ∃ rows rest, ListsFiles rows files ∧ (rest = "" ∨ Text.hasStart "\nSkipped: " rest = true) ∧
    shown =
      (if files.isEmpty then "No files generated.\n"
        else Table.render ["Path", "Generator", "Artifact", "Bytes"] rows ++ "\n") ++
      Nat.repr files.size ++ " file(s), fingerprint " ++ files.fingerprint ++ rest

/-- A JSON text that tells for each file what is shown for it, and their fingerprint. -/
def ShownAsJson (files : ArtifactMap) (shown : String) : Prop :=
  ∃ fields, shown = (Value.object fields).pretty ∧
    findPair? "files" fields = some (.object (files.shown.mapValues .text).toList) ∧
    findPair? "fingerprint" fields = some (.text files.fingerprint)

namespace Orchestrator.IsMerge

variable {o : Orchestrator} {kinds : List ArtifactKind} {inputs : Option NameSet}
  {report : Report} (h : o.IsMerge kinds inputs report)

include h

theorem paths_perm : (report.contributions.flatMap (·.paths)).Perm report.artifacts.keys :=
  (List.perm_ext_iff_of_nodup h.distinct report.artifacts.nodup_keys).2 h.covered

theorem listsFiles : ListsFiles report.rows report.artifacts where
  row := by
    intro row hrow
    obtain ⟨c, hc, hrow⟩ := List.mem_flatMap.1 hrow
    obtain ⟨path, hpath, rfl⟩ := List.mem_map.1 hrow
    have hkey : path ∈ report.artifacts.keys :=
      (h.covered path).1 (List.mem_flatMap.2 ⟨c, hc, hpath⟩)
    obtain ⟨content, hcontent⟩ := KeyMap.mem_keys.1 hkey
    refine ⟨path, c.generator, c.kind.word, content, hcontent, ?_⟩
    rw [Report.fileSize, hcontent]
    rfl
  paths := by
    have hheads : report.rows.map (·.headD "") = report.contributions.flatMap (·.paths) := by
      rw [Report.rows, List.map_flatMap]
      simp only [List.map_map]
      refine congrArg (fun f => report.contributions.flatMap f) (funext fun c => ?_)
      exact List.map_id _
    rw [hheads]
    exact h.paths_perm

theorem shownAsText : ShownAsText report.artifacts report.renderText := by
  refine ⟨report.rows, if report.skipped.isEmpty then "" else
    "\nSkipped: " ++ Text.joinWith ", " report.skipped, h.listsFiles, ?_, rfl⟩
  split
  · exact .inl rfl
  · refine .inr ?_
    rw [Text.hasStart, String.toList_append, List.isPrefixOf_iff_prefix]
    exact List.prefix_append _ _

end Orchestrator.IsMerge

theorem Report.shownAsJson (report : Report) : ShownAsJson report.artifacts report.renderJson :=
  ⟨_, rfl, rfl, rfl⟩

end SampleForge
