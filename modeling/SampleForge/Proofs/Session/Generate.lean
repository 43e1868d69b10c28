import SampleForge.Proofs.Artifact.BlankRoot
import SampleForge.Proofs.Report
import SampleForge.Proofs.Settings.Validation
import SampleForge.Session

/-!
# Generating is all or nothing

All of the work that can fail for another reason than the files themselves comes before the first
file is written (`plan_eq_ok`).  Writing the files is all or nothing in turn.  So `generate` fails
without a trace, or it leaves exactly the files of the run that it reports on.
-/

namespace SampleForge

open ArtifactMap (Accepts BlankRoot)
open CommandLine (GenerateOptions)
open Orchestrator (builtIn)
open Outcome

/-- The selection of settings is one of named kinds. -/
theorem GenerationSettings.exists_named {settings : GenerationSettings} {selection : Selection}
    (h : settings.selection = .ok selection) :
    ∃ kinds inputs, selection = .named kinds inputs := by
  obtain ⟨parsed, hparsed, hselection⟩ := map_eq_ok.1 h
  obtain ⟨kinds, _, rfl⟩ := map_eq_ok.1 hparsed
  split at hselection
  · exact ⟨kinds, none, hselection.symm⟩
  · exact ⟨kinds, some _, hselection.symm⟩

/-- A report in one of the output formats. -/
inductive ShownAs (files : ArtifactMap) : String → String → Prop where
  | text {shown : String} (h : ShownAsText files shown) : ShownAs files "text" shown
  | json {shown : String} (h : ShownAsJson files shown) : ShownAs files "json" shown

namespace Session

variable (s : Session) (around : Surroundings) (o : GenerateOptions)

/-- The directory that `generate` writes to, if there is one. -/
def outputDirectory : Option String := (s.settingsFor o).generation.outputDir.map s.resolve

/-- The run that `generate` asks for has this report. -/
structure Ran (report : Report) : Prop where
  format : o.format = "text" ∨ o.format = "json"
  settings : (s.settingsFor o).problems = []
  run : ∃ product selection,
    s.readProduct around (s.settingsFor o).generation o.product = .ok product ∧
      (s.settingsFor o).generation.selection = .ok selection ∧
      (builtIn product).run selection product.diagnostics = .ok report

variable {s around o} {p : Plan}

theorem checkFormat_eq_ok {format : String} :
    checkFormat format = .ok () ↔ format = "text" ∨ format = "json" := by
  rw [checkFormat]
  split
  · rename_i h
    simp only [h]
  · rename_i h
    simp only [h, reduceCtorEq]

/-- A plan is made exactly if the generators ran. -/
theorem plan_eq_ok :
    s.plan around o = .ok p ↔ s.Ran around o p.report ∧ p.directory = s.outputDirectory o := by
  rw [plan, check_bind_eq_ok, checkFormat_eq_ok]
  simp only [bind_eq_ok, Settings.validated_eq_ok, pure_eq, Except.ok.injEq]
  constructor
  · rintro ⟨hformat, _, ⟨hproblems, rfl⟩, product, hproduct, selection, hselection, report, hrun,
      rfl⟩
    exact ⟨⟨hformat, hproblems, product, selection, hproduct, hselection, hrun⟩, rfl⟩
  · rintro ⟨⟨hformat, hproblems, product, selection, hproduct, hselection, hrun⟩, hdirectory⟩
    refine ⟨hformat, _, ⟨hproblems, rfl⟩, product, hproduct, selection, hselection, _, hrun, ?_⟩
    rw [← outputDirectory, ← hdirectory]

/-- A `generate` that cannot be planned changes nothing. -/
theorem generate_of_error {e : GenerationError} (h : s.plan around o = .error e) :
    s.generate around o = (around.tree, .error e) := by
  rw [generate, h]

theorem generate_of_plan (h : s.plan around o = .ok p) :
    s.generate around o = ((p.carryOut around.tree).1,
      (p.carryOut around.tree).2.map fun _ => render o.format p.report) := by
  rw [generate, h]

/-- A `generate` that succeeds prints the report of its plan. -/
theorem exists_plan_of_generate {shown : String} (h : (s.generate around o).2 = .ok shown) :
    ∃ p, s.plan around o = .ok p ∧ shown = render o.format p.report := by
  cases hplan : s.plan around o with
  | error e =>
    rw [generate_of_error hplan] at h
    cases h
  | ok p =>
    rw [generate_of_plan hplan] at h
    obtain ⟨_, _, hshown⟩ := map_eq_ok.1 h
    exact ⟨p, rfl, hshown.symm⟩

/-- Without a directory nothing is written. -/
theorem carryOut_of_none (h : p.directory = none) (tree : FileTree) :
    p.carryOut tree = (tree, .ok ()) := by
  rw [Plan.carryOut, h]

theorem carryOut_of_some {directory : String} (h : p.directory = some directory)
    (tree : FileTree) :
    p.carryOut tree = ((p.report.artifacts.writeTo tree directory).1,
      (p.report.artifacts.writeTo tree directory).2.map fun _ => ()) := by
  rw [Plan.carryOut, h]

/-- The report of a run is the merge of what generators emit. -/
theorem Ran.isMerge {report : Report} (h : s.Ran around o report) :
    ∃ (orchestrator : Orchestrator) (kinds : List ArtifactKind) (inputs : Option NameSet),
      orchestrator.IsMerge kinds inputs report := by
  obtain ⟨product, selection, _, hselection, hrun⟩ := h.run
  obtain ⟨kinds, inputs, rfl⟩ := GenerationSettings.exists_named hselection
  obtain ⟨hmergeable, rfl⟩ := Orchestrator.run_eq_ok.1 hrun
  exact ⟨_, kinds, inputs, Orchestrator.isMerge_final hmergeable⟩

/-- It is shown with its files, their number and their fingerprint. -/
theorem Ran.shownAs {report : Report} (h : s.Ran around o report) :
    ShownAs report.artifacts o.format (render o.format report) := by
  obtain ⟨_, _, _, hmerge⟩ := h.isMerge
  rcases h.format with hformat | hformat
  · rw [hformat]
    exact .text hmerge.shownAsText
  · rw [hformat]
    exact .json report.shownAsJson

section AllOrNothing

variable {made : FileTree} {place : Place}
  (hroot : ∀ directory, s.outputDirectory o = some directory →
    BlankRoot around.tree directory made place)
  (haccepts : ∀ report, s.Ran around o report → ∀ directory,
    s.outputDirectory o = some directory → ∀ path ∈ report.artifacts.keys, Accepts directory path)

include hroot haccepts

/-- Writing the files of a plan is all or nothing. -/
theorem carryOut_all_or_nothing (hplan : s.plan around o = .ok p) :
    (∀ e, (p.carryOut around.tree).2 = .error e → (p.carryOut around.tree).1 = around.tree) ∧
      ((p.carryOut around.tree).2 = .ok () → ∀ directory, s.outputDirectory o = some directory →
        ∃ before, (before = made ∨ p.report.artifacts.toList = [] ∧ before = around.tree) ∧
          p.report.artifacts.IsWriting before directory place (p.carryOut around.tree).1) := by
  obtain ⟨hran, hdirectory⟩ := plan_eq_ok.1 hplan
  cases houtput : s.outputDirectory o with
  | none =>
    rw [carryOut_of_none (hdirectory.trans houtput)]
    exact ⟨fun _ _ => rfl, by rintro _ _ ⟨⟩⟩
  | some directory =>
    -- The paths of a merge are their own normal forms.
    have hpaths : ∀ key ∈ p.report.artifacts.keys, ∀ path,
        OutputPath.normalize key = .ok path → Accepts directory path := by
      obtain ⟨_, _, _, hmerge⟩ := hran.isMerge
      intro key hkey path hpath
      rw [hmerge.normal key hkey] at hpath
      cases hpath
      exact haccepts _ hran directory houtput key hkey
    obtain ⟨hwritten, hrefused⟩ := ArtifactMap.writeTo_blank (hroot directory houtput) hpaths
    rw [carryOut_of_some (hdirectory.trans houtput)]
    constructor
    · intro e he
      exact hrefused e (map_eq_error.1 he)
    · rintro hok _ ⟨⟩
      obtain ⟨count, hcount, _⟩ := map_eq_ok.1 hok
      exact hwritten count hcount

/-- With an empty output directory, or one that is not there yet, `generate` is all or nothing.  If
it fails, whatever the reason, then nothing has changed.  If it succeeds, then the directory holds
the files of the run that it reports on, and nothing else. -/
theorem generate_all_or_nothing :
    (∀ e, (s.execute around (.generate o)).2 = .error e →
        (s.execute around (.generate o)).1 = around.tree ∧
          ∀ directory, s.outputDirectory o = some directory → ∀ names, names ≠ [] →
            (s.execute around (.generate o)).1.node? (place.below names) = none) ∧
      ∀ shown, (s.execute around (.generate o)).2 = .ok shown →
        ∃ report, s.Ran around o report ∧ ShownAs report.artifacts o.format shown ∧
          (∀ directory, s.outputDirectory o = some directory →
            ∃ before, (before = made ∨ report.artifacts.toList = [] ∧ before = around.tree) ∧
              report.artifacts.IsWriting before directory place
                (s.execute around (.generate o)).1) ∧
          (s.outputDirectory o = none → (s.execute around (.generate o)).1 = around.tree) := by
  rw [execute]
  cases hplan : s.plan around o with
  | error fault =>
    rw [generate_of_error hplan]
    refine ⟨fun e _ => ⟨rfl, fun directory houtput names hne => ?_⟩, by rintro _ ⟨⟩⟩
    exact (hroot directory houtput).nothing hne
  | ok p =>
    obtain ⟨hran, hdirectory⟩ := plan_eq_ok.1 hplan
    obtain ⟨hrefused, hwritten⟩ := carryOut_all_or_nothing hroot haccepts hplan
    rw [generate_of_plan hplan]
    constructor
    · intro e he
      have hsame := hrefused e (map_eq_error.1 he)
      refine ⟨hsame, fun directory houtput names hne => ?_⟩
      rw [hsame]
      exact (hroot directory houtput).nothing hne
    · intro shown hshown
      obtain ⟨_, hok, rfl⟩ := map_eq_ok.1 hshown
      refine ⟨p.report, hran, hran.shownAs, hwritten hok, fun hnone => ?_⟩
      rw [carryOut_of_none (hdirectory.trans hnone)]

end AllOrNothing

/-- A workspace with a product file. -/
def workspaceTree (product : String) : FileTree where
  nodes := [(.ofNames ["w"], .directory),
    (.ofNames ["w", "product.json"], .file (textBytes product))]

/-- A directory of another name is not there yet. -/
theorem missingRoot_workspaceTree (product : String) :
    ArtifactMap.MissingRoot (workspaceTree product) "/w/out" (.ofNames ["w"]) "out" [] where
  leads := ⟨["w"], by decide, rfl⟩
  directory := rfl
  plain name hname := by
    rw [List.mem_singleton.1 hname]
    decide
  nothing rest := by
    have hnames : ((Place.ofNames ["w"]).below ("out" :: rest)).names = "w" :: "out" :: rest := by
      rw [Place.names_below, Place.names_ofNames]
      rfl
    have hother : ∀ entry ∈ (workspaceTree product).nodes,
        entry.1 ≠ (Place.ofNames ["w"]).below ("out" :: rest) := by
      intro entry hentry heq
      have hentryNames := congrArg Place.names heq
      rw [hnames] at hentryNames
      rcases List.mem_cons.1 hentry with rfl | hentry
      · rw [Place.names_ofNames] at hentryNames
        cases hentryNames
      · rw [List.mem_singleton.1 hentry, Place.names_ofNames] at hentryNames
        simp at hentryNames
    rw [FileTree.node?, if_neg (Place.below_ne_root _ (List.cons_ne_nil _ _)),
      List.find?_eq_none.2 fun entry hentry => by simpa using hother entry hentry]
    rfl

/-- The files for a product without samples, in a directory that is not there yet. -/
theorem generate_into_missing :
    let around : Surroundings := {
      tree := workspaceTree "\x7b\"package_name\": \"library.v1\"\x7d" }
    let o : GenerateOptions := { product := "product.json", out := some "out" }
    let s : Session := ⟨"/w", {}⟩
    let made := around.tree.pave (.ofNames ["w"]) ["out"]
    BlankRoot around.tree "/w/out" made (.ofNames ["w", "out"]) ∧
      ∃ report, s.Ran around o report ∧ report.artifacts.keys = ["samples/java.manifest.toml"] ∧
        report.artifacts.IsWriting made "/w/out" (.ofNames ["w", "out"])
          (s.execute around (.generate o)).1 := by
  intro around o s made
  have hblank : BlankRoot around.tree "/w/out" made (.ofNames ["w", "out"]) :=
    .missing (missingRoot_workspaceTree _)
  have houtput : s.outputDirectory o = some "/w/out" := by decide
  have hplanned : (s.plan around o).toOption.map (·.report.artifacts.keys) =
      some ["samples/java.manifest.toml"] := by decide +kernel
  have hsucceeds : (s.execute around (.generate o)).2.toOption.isSome = true := by decide +kernel
  have hkeys : ∀ report, s.Ran around o report →
      report.artifacts.keys = ["samples/java.manifest.toml"] := by
    intro report hran
    have hplan : s.plan around o = .ok ⟨report, s.outputDirectory o⟩ := plan_eq_ok.2 ⟨hran, rfl⟩
    rw [hplan] at hplanned
    exact Option.some.inj hplanned
  have hroot : ∀ directory, s.outputDirectory o = some directory →
      BlankRoot around.tree directory made (.ofNames ["w", "out"]) := by
    intro directory hdirectory
    rw [houtput] at hdirectory
    cases hdirectory
    exact hblank
  have haccepts : ∀ report, s.Ran around o report → ∀ directory,
      s.outputDirectory o = some directory → ∀ path ∈ report.artifacts.keys,
        Accepts directory path := by
    intro report hran directory hdirectory path hpath
    rw [houtput] at hdirectory
    cases hdirectory
    rw [hkeys report hran, List.mem_singleton] at hpath
    rw [hpath]
    decide +kernel
  refine ⟨hblank, ?_⟩
  obtain ⟨_, hwritten⟩ := generate_all_or_nothing hroot haccepts
  cases hshown : (s.execute around (.generate o)).2 with
  | error e =>
    rw [hshown] at hsucceeds
    cases hsucceeds
  | ok shown =>
    obtain ⟨report, hran, _, hfiles, _⟩ := hwritten shown hshown
    obtain ⟨before, rfl | ⟨hnil, _⟩, hwriting⟩ := hfiles "/w/out" houtput
    · exact ⟨report, hran, hkeys report hran, hwriting⟩
    · have hempty := hkeys report hran
      rw [KeyMap.keys, hnil] at hempty
      cases hempty

end Session

end SampleForge
