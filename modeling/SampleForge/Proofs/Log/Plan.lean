import SampleForge.Log.Plan
import SampleForge.Proofs.KeyMap
import SampleForge.Proofs.Log.Directive
import SampleForge.Proofs.Outcome
import SampleForge.Proofs.Settings.Validation

/-!
# Whether valid settings give a plan for logging

Validation checks the level, the format and the output of logging, and the plan takes what it has
checked.  It does not check the modules, though, and a module whose directive cannot be read stops
the work when logging starts.  So valid settings give a plan exactly if each of their modules can be
read or nothing is logged at all (`exists_choose_iff`).  No other refusal is left.
-/

namespace SampleForge

open Directive (IsKnownLevel IsPartName)

/-- No variable of an environment decides about logging. -/
structure Environment.LeavesLogging (env : Environment) : Prop where
  filter : env.get? "SAMPLEGEN_LOG" = none
  format : env.get? "SAMPLEGEN_LOG_FORMAT" = none
  output : env.get? "SAMPLEGEN_LOG_OUTPUT" = none
  modules : env.get? "SAMPLEGEN_LOG_MODULES" = none

namespace LogPlan

open Outcome (bind_ok foldlM_eq_error map_eq_error map_eq_ok mapError_eq_error mapError_eq_ok)

variable {env : Environment} {s : LoggingSettings}

/-- Whether the directive for a module can be read. -/
def IsReadable (m : String × String) : Prop := ∃ d, Directive.parse (m.1 ++ "=" ++ m.2) = .ok d

/-! ## Modules -/

theorem addModule_eq (filter : LogFilter) (part level : String) :
    addModule filter part level = (Directive.parse (part ++ "=" ++ level)).map filter.add := by
  rw [addModule]
  cases Directive.parse (part ++ "=" ++ level) <;> rfl

/-- Directives are added for modules exactly if each of them can be read. -/
theorem exists_addModules_iff {filter : LogFilter} {modules : KeyMap String} :
    (∃ next, addModules filter modules = .ok next) ↔ ∀ m ∈ modules.toList, IsReadable m := by
  simp only [addModules, mapError_eq_ok]
  -- Whether a directive can be read does not depend on the filter that it is added to.
  induction modules.toList generalizing filter with
  | nil => simp
  | cons m ms ih =>
    rw [List.forall_mem_cons, List.foldlM_cons, addModule_eq]
    cases hparse : Directive.parse (m.1 ++ "=" ++ m.2) with
    | error fault => simp [IsReadable, hparse, Except.map]
    | ok d =>
      have hm : IsReadable m := ⟨d, hparse⟩
      rw [Except.map, bind_ok, ih]
      exact (and_iff_right hm).symm

/-- Where no directives are added, one of them cannot be read. -/
theorem of_addModules_eq_error {filter : LogFilter} {modules : KeyMap String} {fault : LogFault}
    (h : addModules filter modules = .error fault) :
    ∃ m ∈ modules.toList, ∃ why, Directive.parse (m.1 ++ "=" ++ m.2) = .error why ∧
      fault = .badDirective why := by
  obtain ⟨why, hfold, rfl⟩ := mapError_eq_error.1 h
  obtain ⟨before, m, after, middle, hms, -, hm⟩ := foldlM_eq_error.1 hfold
  rw [addModule_eq, map_eq_error] at hm
  exact ⟨m, by simp [hms], why, hm, rfl⟩

/-! ## Choices -/

theorem filterOf_eq (henv : env.LeavesLogging) :
    filterOf env s =
      if s.level = "off" then .ok (LogFilter.ofText "off")
      else addModules (LogFilter.ofText s.level) s.modules := by
  have hnone : environmentFilter? env = none := by rw [environmentFilter?, henv.filter]; rfl
  rw [filterOf, hnone]
  simp only [settingsFilter, henv.modules]
  split
  · rfl
  · cases addModules (LogFilter.ofText s.level) s.modules <;> rfl

/-- Validation allows the names of the formats and of the outputs, and no others. -/
theorem names_eq :
    formats.map (·.1) = LoggingSettings.formats ∧ outputs.map (·.1) = LoggingSettings.outputs :=
  ⟨rfl, rfl⟩

theorem formatOf_of_find {format : LogFormat} (henv : env.LeavesLogging)
    (h : findPair? s.format formats = some format) : formatOf env s = .ok format := by
  rw [formatOf, henv.format, Option.bind_none, Option.none_or, h]

theorem outputOf_of_find {output : LogOutput} (henv : env.LeavesLogging)
    (h : findPair? s.output outputs = some output) : outputOf env s = .ok output := by
  rw [outputOf, henv.output, Option.getD_none, h]

/-- Of valid settings only the filter is left to be chosen. -/
theorem choose_eq (henv : env.LeavesLogging) (hvalid : s.problem? = none) :
    ∃ format output, findPair? s.format formats = some format ∧
      findPair? s.output outputs = some output ∧
      choose env s = (filterOf env s).map fun filter => ⟨filter, format, output⟩ := by
  obtain ⟨-, hformat, houtput⟩ := LoggingSettings.problem?_eq_none_iff.1 hvalid
  rw [← names_eq.1, ← exists_findPair?_iff] at hformat
  rw [← names_eq.2, ← exists_findPair?_iff] at houtput
  obtain ⟨format, hformat⟩ := hformat
  obtain ⟨output, houtput⟩ := houtput
  refine ⟨format, output, hformat, houtput, ?_⟩
  rw [choose, formatOf_of_find henv hformat, outputOf_of_find henv houtput]
  cases filterOf env s <;> rfl

/-- Nothing in a valid level is ignored. -/
theorem complaints_of_mem_levels {level : String} (h : level ∈ LoggingSettings.levels) :
    LogFilter.complaints level = [] := by
  have hall : (LoggingSettings.levels.all fun level => (LogFilter.complaints level).isEmpty) =
      true := by
    decide +kernel
  exact List.isEmpty_iff.1 (List.all_eq_true.1 hall level h)

/-! ## Plans -/

theorem exists_filterOf_iff (henv : env.LeavesLogging) :
    (∃ filter, filterOf env s = .ok filter) ↔
      s.level = "off" ∨ ∀ m ∈ s.modules.toList, IsReadable m := by
  rw [filterOf_eq henv]
  by_cases hoff : s.level = "off"
  · simp [hoff]
  · rw [if_neg hoff, exists_addModules_iff, or_iff_right hoff]

/-- A filter is refused for a module. -/
theorem of_filterOf_eq_error (henv : env.LeavesLogging) {fault : LogFault}
    (h : filterOf env s = .error fault) :
    ∃ m ∈ s.modules.toList, ∃ why, Directive.parse (m.1 ++ "=" ++ m.2) = .error why ∧
      fault = .badDirective why := by
  rw [filterOf_eq henv] at h
  split at h
  · cases h
  · exact of_addModules_eq_error h

/-- Valid settings give a plan, in an environment that says nothing about logging, exactly if the
directive for each module can be read or nothing is logged.  For plain names that is so if the
levels are known.  The plan has the format and the output of the settings, nothing in their level is
ignored, and all that is ever refused is a module. -/
theorem exists_choose_iff (henv : env.LeavesLogging) (hvalid : s.problem? = none) :
    ((∃ plan, choose env s = .ok plan) ↔
        s.level = "off" ∨ ∀ m ∈ s.modules.toList, IsReadable m) ∧
      ((∀ m ∈ s.modules.toList, IsPartName m.1 ∧ ',' ∉ m.2.toList) →
        ((∃ plan, choose env s = .ok plan) ↔
          s.level = "off" ∨ ∀ m ∈ s.modules.toList, IsKnownLevel m.2)) ∧
      (∀ plan, choose env s = .ok plan →
        findPair? s.format formats = some plan.format ∧
          findPair? s.output outputs = some plan.output) ∧
      (∀ fault, choose env s = .error fault →
        ∃ m ∈ s.modules.toList, ∃ why, Directive.parse (m.1 ++ "=" ++ m.2) = .error why ∧
          fault = .badDirective why) ∧
      complaints env s = [] := by
  obtain ⟨format, output, hformat, houtput, hchoose⟩ := choose_eq henv hvalid
  have hok : (∃ plan, choose env s = .ok plan) ↔
      s.level = "off" ∨ ∀ m ∈ s.modules.toList, IsReadable m := by
    rw [← exists_filterOf_iff henv, hchoose]
    simp only [map_eq_ok]
    constructor
    · rintro ⟨-, filter, hfilter, -⟩
      exact ⟨filter, hfilter⟩
    · rintro ⟨filter, hfilter⟩
      exact ⟨_, filter, hfilter, rfl⟩
  refine ⟨hok, fun hplain => ?plain, fun plan hplan => ?kept, fun fault hfault => ?refused, ?level⟩
  case plain =>
    rw [hok]
    refine or_congr_right (forall₂_congr fun m hm => ?_)
    obtain ⟨hname, hlevel⟩ := hplain m hm
    exact Directive.exists_parse_part_iff hname hlevel
  case kept =>
    rw [hchoose] at hplan
    obtain ⟨filter, -, rfl⟩ := map_eq_ok.1 hplan
    exact ⟨hformat, houtput⟩
  case refused =>
    rw [hchoose, map_eq_error] at hfault
    exact of_filterOf_eq_error henv hfault
  case level =>
    obtain ⟨hlevel, -, -⟩ := LoggingSettings.problem?_eq_none_iff.1 hvalid
    rw [complaints, environmentFilter?, henv.filter]
    exact complaints_of_mem_levels hlevel

/-- An environment without a variable. -/
def emptyEnvironment : Environment := {}

theorem emptyEnvironment_leavesLogging : emptyEnvironment.LeavesLogging := ⟨rfl, rfl, rfl, rfl⟩

/-- Settings with a known level for one module. -/
def quietModule : LoggingSettings := { modules := KeyMap.empty.insert "samplegen::output" "Warn" }

theorem isPartName_samplegenOutput : IsPartName "samplegen::output" where
  start := ⟨'s', _, rfl, by decide⟩
  noEquals := by decide
  noBracket := by decide
  noComma := by decide

/-- Settings with a known level for a module give a plan. -/
theorem exists_choose_quietModule :
    emptyEnvironment.LeavesLogging ∧ quietModule.problem? = none ∧
      (∀ m ∈ quietModule.modules.toList, IsPartName m.1 ∧ ',' ∉ m.2.toList) ∧
      ∃ plan, choose emptyEnvironment quietModule = .ok plan := by
  have hvalid : quietModule.problem? = none := by decide +kernel
  have hmodules : quietModule.modules.toList = [("samplegen::output", "Warn")] := rfl
  have hplain : ∀ m ∈ quietModule.modules.toList, IsPartName m.1 ∧ ',' ∉ m.2.toList := by
    rw [hmodules, List.forall_mem_singleton]
    exact ⟨isPartName_samplegenOutput, by decide⟩
  have hknown : ∀ m ∈ quietModule.modules.toList, IsKnownLevel m.2 := by
    rw [hmodules, List.forall_mem_singleton]
    decide +kernel
  exact ⟨emptyEnvironment_leavesLogging, hvalid, hplain,
    ((exists_choose_iff emptyEnvironment_leavesLogging hvalid).2.1 hplain).2 (.inr hknown)⟩

/-- Settings with a level for one module that no one knows. -/
def loudModule : LoggingSettings := { modules := KeyMap.empty.insert "a" "loud" }

/-- Settings that validate need not give a plan. -/
theorem not_forall_exists_choose :
    ¬∀ (env : Environment) (s : LoggingSettings), env.LeavesLogging →
      Settings.problems { logging := s } = [] → s.problem? = none →
        ∃ plan, choose env s = .ok plan := by
  intro h
  have hproblems : Settings.problems { logging := loudModule } = [] := by decide +kernel
  have hvalid : loudModule.problem? = none := by decide +kernel
  obtain ⟨plan, hplan⟩ := h _ _ emptyEnvironment_leavesLogging hproblems hvalid
  have hrefused : (choose emptyEnvironment loudModule).toOption.isSome = false := by decide +kernel
  rw [hplan] at hrefused
  cases hrefused

end LogPlan

end SampleForge
