import SampleForge.Proofs.Outcome
import SampleForge.Settings

/-!
# What validation tells

`Settings.Wrong` says what is wrong with settings.  It takes each setting, and each name in the list
of artifacts, for itself.

Validation comes on less.  It goes through the names of the artifacts and stops at the first that it
does not know, and it checks the level, the format and the output of logging in this order and stops
at the first that cannot be used.  `Settings.Told` says what that leaves: validation tells what is
wrong and told, and nothing else (`mem_problems_iff`).

So it accepts exactly the settings with nothing wrong.  It tells all that is wrong only of settings
with at most one unknown name and at most one wrong setting of logging (`problems_complete_iff`).
-/

namespace SampleForge

open Text (lowerAscii trim)
open Outcome

/-! ## Names of kinds and languages -/

/-- A name whatever its case and the blanks around it. -/
def plainName (name : String) : String := lowerAscii (trim name)

namespace ArtifactKind

/-- The names of the kinds. -/
def names : List String := all.map word

theorem mem_names_iff {name : String} :
    name ∈ names ↔ name = "surface" ∨ name = "test" ∨ name = "samples" := by
  simp [names, all, word]

theorem parse_of_mem {name : String} (h : plainName name ∈ names) :
    ∃ kind, parse name = .ok kind := by
  rw [parse, ← plainName]
  obtain h | h | h := mem_names_iff.1 h
  · exact ⟨.surface, by simp [h]⟩
  · exact ⟨.test, by simp [h]⟩
  · exact ⟨.samples, by simp [h]⟩

theorem parse_of_notMem {name : String} (h : plainName name ∉ names) :
    parse name = .error (.unknownArtifact (plainName name)) := by
  rw [mem_names_iff, not_or, not_or] at h
  rw [parse, ← plainName, if_neg h.1, if_neg h.2.1, if_neg h.2.2]

theorem exists_parse_eq_ok_iff {name : String} :
    (∃ kind, parse name = .ok kind) ↔ plainName name ∈ names := by
  refine ⟨fun ⟨kind, hkind⟩ => ?_, parse_of_mem⟩
  by_contra h
  rw [parse_of_notMem h] at hkind
  cases hkind

theorem parse_eq_error_iff {name : String} {e : GenerationError} :
    parse name = .error e ↔
      plainName name ∉ names ∧ .unknownArtifact (plainName name) = e := by
  constructor
  · intro h
    have hname : plainName name ∉ names :=
      fun hname => exists_error_iff.1 ⟨e, h⟩ (parse_of_mem hname)
    exact ⟨hname, Except.error.inj ((parse_of_notMem hname).symm.trans h)⟩
  · rintro ⟨hname, rfl⟩
    exact parse_of_notMem hname

end ArtifactKind

namespace Language

/-- The names of the languages. -/
def names : List String := ["java", "python", "py"]

theorem parse_of_mem {name : String} (h : plainName name ∈ names) :
    ∃ language, parse name = .ok language := by
  rw [parse, ← plainName]
  obtain h | h | h : plainName name = "java" ∨ plainName name = "python" ∨
    plainName name = "py" := by simpa [names] using h
  · exact ⟨.java, by simp [h]⟩
  · exact ⟨.python, by simp [h]⟩
  · exact ⟨.python, by simp [h]⟩

theorem parse_of_notMem {name : String} (h : plainName name ∉ names) :
    parse name = .error (.unsupportedLanguage (plainName name)) := by
  obtain ⟨hjava, hpython⟩ : plainName name ≠ "java" ∧
    ¬ (plainName name = "python" ∨ plainName name = "py") := by simpa [names] using h
  rw [parse, ← plainName, if_neg hjava, if_neg hpython]

end Language

namespace Selection

/-- The first name of no kind. -/
def firstUnknown? (names : List String) : Option String :=
  (names.map plainName).find? (· ∉ ArtifactKind.names)

theorem firstUnknown?_isSome_iff {names : List String} :
    (firstUnknown? names).isSome ↔ ∃ name ∈ names.map plainName, name ∉ ArtifactKind.names := by
  rw [firstUnknown?, List.find?_isSome]
  simp only [decide_eq_true_eq]

theorem firstUnknown?_unknown {names : List String} {name : String}
    (h : firstUnknown? names = some name) :
    name ∈ names.map plainName ∧ name ∉ ArtifactKind.names := by
  rw [firstUnknown?] at h
  exact ⟨List.mem_of_find?_eq_some h, by simpa using List.find?_some h⟩

/-- A selection fails with the first name of no kind. -/
theorem parse_eq_error_iff {names : List String} {e : GenerationError} :
    parse names = .error e ↔
      ∃ name, firstUnknown? names = some name ∧ .unknownArtifact name = e := by
  simp only [parse, map_eq_error, mapM_eq_error, ArtifactKind.exists_parse_eq_ok_iff,
    ArtifactKind.parse_eq_error_iff, firstUnknown?, List.find?_map, Option.map_eq_some_iff,
    List.find?_eq_some_iff_append]
  constructor
  · rintro ⟨before, name, after, rfl, hbefore, hname, rfl⟩
    exact ⟨_, ⟨name, ⟨by simpa using hname, before, after, rfl, by simpa using hbefore⟩, rfl⟩, rfl⟩
  · rintro ⟨_, ⟨name, ⟨hname, before, after, rfl, hbefore⟩, rfl⟩, rfl⟩
    exact ⟨before, name, after, rfl, by simpa using hbefore, by simpa using hname, rfl⟩

end Selection

/-! ## What is wrong and what is told -/

/-- Problems of which validation tells only one: those of artifact names, and those of logging. -/
inductive Problem.Rival : Problem → Problem → Prop where
  | artifacts (name other : String) : Rival (.unknownArtifact name) (.unknownArtifact other)
  | logging {p q : Problem} (hp : p.section = "Logging") (hq : q.section = "Logging") : Rival p q

namespace Settings

/-- What is wrong with settings, each of them taken for itself. -/
def Wrong (s : Settings) : Problem → Prop
  | .unsupportedLanguage name =>
      name = plainName s.generation.language ∧ name ∉ Language.names
  | .noArtifact => s.generation.artifacts = []
  | .unknownArtifact name =>
      name ∈ s.generation.artifacts.map plainName ∧ name ∉ ArtifactKind.names
  | .emptyOutputDirectory => s.generation.outputDir = some ""
  | .badLogLevel level => level = s.logging.level ∧ level ∉ LoggingSettings.levels
  | .badLogFormat format => format = s.logging.format ∧ format ∉ LoggingSettings.formats
  | .badLogOutput output => output = s.logging.output ∧ output ∉ LoggingSettings.outputs

/-- What validation comes on before it stops. -/
def Told (s : Settings) : Problem → Prop
  | .unknownArtifact name => Selection.firstUnknown? s.generation.artifacts = some name
  | .badLogFormat _ => s.logging.level ∈ LoggingSettings.levels
  | .badLogOutput _ =>
      s.logging.level ∈ LoggingSettings.levels ∧ s.logging.format ∈ LoggingSettings.formats
  | _ => True

end Settings

namespace GenerationSettings

variable {s : GenerationSettings} {p : Problem}

theorem mem_languageProblems_iff :
    p ∈ s.languageProblems ↔
      plainName s.language ∉ Language.names ∧ p = .unsupportedLanguage (plainName s.language) := by
  rw [languageProblems, targetLanguage]
  by_cases h : plainName s.language ∈ Language.names
  · obtain ⟨language, hlanguage⟩ := Language.parse_of_mem h
    simp [hlanguage, h]
  · simp [Language.parse_of_notMem h, h]

theorem mem_artifactProblems_iff :
    p ∈ s.artifactProblems ↔
      s.artifacts = [] ∧ p = .noArtifact ∨
        ∃ name, Selection.firstUnknown? s.artifacts = some name ∧ p = .unknownArtifact name := by
  rw [artifactProblems, List.mem_append]
  apply or_congr
  · cases s.artifacts with
    | nil => simp
    | cons name rest => simp
  · cases hparse : Selection.parse s.artifacts with
    | error e =>
      obtain ⟨name, hname, rfl⟩ := Selection.parse_eq_error_iff.1 hparse
      simp [hname]
    | ok selection =>
      have hnone : Selection.firstUnknown? s.artifacts = none := by
        rw [Option.eq_none_iff_forall_ne_some]
        intro name hname
        rw [Selection.parse_eq_error_iff.2 ⟨name, hname, rfl⟩] at hparse
        cases hparse
      simp [hnone]

theorem mem_problems_iff :
    p ∈ s.problems ↔
      (plainName s.language ∉ Language.names ∧
        p = .unsupportedLanguage (plainName s.language)) ∨
      s.artifacts = [] ∧ p = .noArtifact ∨
      (∃ name, Selection.firstUnknown? s.artifacts = some name ∧ p = .unknownArtifact name) ∨
      s.outputDir = some "" ∧ p = .emptyOutputDirectory := by
  have hdir : p ∈ (if s.outputDir = some "" then [Problem.emptyOutputDirectory] else []) ↔
      s.outputDir = some "" ∧ p = .emptyOutputDirectory := by
    split <;> simp [*]
  rw [problems, List.mem_append, List.mem_append, mem_languageProblems_iff,
    mem_artifactProblems_iff, hdir, or_assoc, or_assoc]

/-- What is wrong with generation is told as a problem of generation. -/
theorem section_of_mem (h : p ∈ s.problems) : p.section = "Generation" := by
  obtain ⟨-, rfl⟩ | ⟨-, rfl⟩ | ⟨name, -, rfl⟩ | ⟨-, rfl⟩ := mem_problems_iff.1 h
  all_goals rfl

end GenerationSettings

theorem LoggingSettings.problem?_eq_some_iff {s : LoggingSettings} {p : Problem} :
    s.problem? = some p ↔
      s.level ∉ levels ∧ p = .badLogLevel s.level ∨
      s.level ∈ levels ∧ s.format ∉ formats ∧ p = .badLogFormat s.format ∨
      s.level ∈ levels ∧ s.format ∈ formats ∧ s.output ∉ outputs ∧ p = .badLogOutput s.output := by
  rw [problem?]
  by_cases hlevel : s.level ∈ levels
  · by_cases hformat : s.format ∈ formats
    · by_cases houtput : s.output ∈ outputs
      · simp [hlevel, hformat, houtput]
      · simp [hlevel, hformat, houtput, eq_comm]
    · simp [hlevel, hformat, eq_comm]
  · simp [hlevel, eq_comm]

theorem LoggingSettings.problem?_eq_none_iff {s : LoggingSettings} :
    s.problem? = none ↔ s.level ∈ levels ∧ s.format ∈ formats ∧ s.output ∈ outputs := by
  rw [problem?]
  by_cases hlevel : s.level ∈ levels
  · by_cases hformat : s.format ∈ formats
    · by_cases houtput : s.output ∈ outputs
      · simp [hlevel, hformat, houtput]
      · simp [hlevel, hformat, houtput]
    · simp [hlevel, hformat]
  · simp [hlevel]

/-- What is wrong with logging is told as a problem of logging. -/
theorem LoggingSettings.section_of_problem? {s : LoggingSettings} {p : Problem}
    (h : s.problem? = some p) : p.section = "Logging" := by
  obtain ⟨-, rfl⟩ | ⟨-, -, rfl⟩ | ⟨-, -, -, rfl⟩ := problem?_eq_some_iff.1 h
  all_goals rfl

namespace Settings

variable {s : Settings} {p : Problem}

theorem mem_problems_iff_mem_or :
    p ∈ s.problems ↔ p ∈ s.generation.problems ∨ s.logging.problem? = some p := by
  rw [problems, List.mem_append, Option.mem_toList]

/-- Validation tells what is wrong as far as it comes on it. -/
theorem mem_problems_iff : p ∈ s.problems ↔ s.Wrong p ∧ s.Told p := by
  rw [mem_problems_iff_mem_or, GenerationSettings.mem_problems_iff,
    LoggingSettings.problem?_eq_some_iff]
  cases p with
  | unknownArtifact name =>
    -- Only here what is told does not by itself say that it is wrong.
    have hunknown := @Selection.firstUnknown?_unknown s.generation.artifacts name
    simp only [Wrong, Told]
    grind
  | _ =>
    simp only [Wrong, Told]
    grind

/-- A problem of logging is what logging is refused for. -/
theorem mem_problems_iff_of_logging (h : p.section = "Logging") :
    p ∈ s.problems ↔ s.logging.problem? = some p := by
  rw [mem_problems_iff_mem_or, or_iff_right]
  intro hp
  rw [GenerationSettings.section_of_mem hp] at h
  exact absurd h (by decide)

/-- Logging is refused for something if anything is wrong with it. -/
theorem exists_problem?_of_wrong (h : s.Wrong p) (hp : p.section = "Logging") :
    ∃ q, s.logging.problem? = some q := by
  rw [← Option.ne_none_iff_exists', ne_eq, LoggingSettings.problem?_eq_none_iff]
  rintro ⟨hlevel, hformat, houtput⟩
  cases p with
  | badLogLevel level => exact h.2 (h.1 ▸ hlevel)
  | badLogFormat format => exact h.2 (h.1 ▸ hformat)
  | badLogOutput output => exact h.2 (h.1 ▸ houtput)
  | _ => exact absurd hp (by simp [Problem.section])

/-- Only one of two rivals is told. -/
theorem eq_of_rival {q : Problem} (h : p.Rival q) (hp : p ∈ s.problems) (hq : q ∈ s.problems) :
    p = q := by
  cases h with
  | artifacts name other =>
    have hname : Selection.firstUnknown? s.generation.artifacts = some name :=
      (mem_problems_iff.1 hp).2
    have hother : Selection.firstUnknown? s.generation.artifacts = some other :=
      (mem_problems_iff.1 hq).2
    rw [Option.some.inj (hname.symm.trans hother)]
  | logging hpl hql =>
    rw [mem_problems_iff_of_logging hpl] at hp
    rw [mem_problems_iff_of_logging hql] at hq
    exact Option.some.inj (hp.symm.trans hq)

/-- What is wrong is told, or a rival of it is. -/
theorem mem_problems_or_rival (h : s.Wrong p) :
    p ∈ s.problems ∨ ∃ q ∈ s.problems, s.Wrong q ∧ p.Rival q := by
  rw [mem_problems_iff, or_iff_not_imp_left]
  intro htold
  by_cases hp : p.section = "Logging"
  · obtain ⟨q, hq⟩ := exists_problem?_of_wrong h hp
    have hsection := LoggingSettings.section_of_problem? hq
    have hmem := (mem_problems_iff_of_logging hsection).2 hq
    exact ⟨q, hmem, (mem_problems_iff.1 hmem).1, .logging hp hsection⟩
  · cases p with
    | unknownArtifact name =>
      obtain ⟨first, hfirst⟩ := Option.isSome_iff_exists.1
        (Selection.firstUnknown?_isSome_iff.2 ⟨name, h⟩)
      have hwrong : s.Wrong (.unknownArtifact first) := Selection.firstUnknown?_unknown hfirst
      exact ⟨_, mem_problems_iff.2 ⟨hwrong, hfirst⟩, hwrong, .artifacts name first⟩
    | unsupportedLanguage name => exact absurd ⟨h, trivial⟩ htold
    | noArtifact => exact absurd ⟨h, trivial⟩ htold
    | emptyOutputDirectory => exact absurd ⟨h, trivial⟩ htold
    | _ => exact absurd rfl hp

/-- Settings are valid exactly if nothing is wrong with them. -/
theorem problems_eq_nil_iff : s.problems = [] ↔ ∀ p, ¬ s.Wrong p := by
  rw [List.eq_nil_iff_forall_not_mem]
  constructor
  · intro h p hp
    obtain hmem | ⟨q, hq, -⟩ := mem_problems_or_rival hp
    · exact h p hmem
    · exact h q hq
  · intro h p hp
    exact h p (mem_problems_iff.1 hp).1

theorem validated_eq_ok {settings valid : Settings} :
    settings.validated = .ok valid ↔ settings.problems = [] ∧ valid = settings := by
  rw [validated]
  split
  · rename_i h
    simp only [List.isEmpty_iff.1 h, Except.ok.injEq, true_and, eq_comm]
  · rename_i h
    have hne : settings.problems ≠ [] := fun heq => h (List.isEmpty_iff.2 heq)
    simp only [hne, reduceCtorEq, false_and]

/-- Validation accepts settings with nothing wrong, and refuses all others with what is wrong, as
far as it comes on it.  That is all of it exactly if no two rivals are wrong. -/
theorem problems_complete_iff (s : Settings) :
    (s.validated = .ok s ↔ ∀ p, ¬ s.Wrong p) ∧
      (∀ e, s.validated = .error e → e = .settings (.invalid s.problems)) ∧
      (∀ p, p ∈ s.problems ↔ s.Wrong p ∧ s.Told p) ∧
      ((∀ p, s.Wrong p → p ∈ s.problems) ↔
        ∀ p q, p.Rival q → s.Wrong p → s.Wrong q → p = q) := by
  refine ⟨?_, ?_, fun p => mem_problems_iff, ?_, ?_⟩
  · rw [validated_eq_ok, problems_eq_nil_iff, and_iff_left rfl]
  · intro e he
    rw [validated] at he
    split at he
    · cases he
    · exact (Except.error.inj he).symm
  · intro h p q hrival hp hq
    exact eq_of_rival hrival (h p hp) (h q hq)
  · intro h p hp
    obtain hmem | ⟨q, hq, hwrong, hrival⟩ := mem_problems_or_rival hp
    · exact hmem
    · rwa [h p q hrival hp hwrong]

/-- Of two unknown names the second is not told, and after a wrong level of logging neither a wrong
format nor a wrong output is. -/
theorem not_all_told :
    let s : Settings :=
      { generation := { artifacts := ["docs", "samples", "Notes"] }
        logging := { level := "loud", format := "xml", output := "tape" } }
    s.problems = [.unknownArtifact "docs", .badLogLevel "loud"] ∧
      ∀ p ∈ [.unknownArtifact "notes", .badLogFormat "xml", .badLogOutput "tape"],
        s.Wrong p ∧ p ∉ s.problems := by
  refine ⟨by decide +kernel, ?_⟩
  intro p hp
  obtain rfl | rfl | rfl : p = .unknownArtifact "notes" ∨ p = .badLogFormat "xml" ∨
    p = .badLogOutput "tape" := by simpa using hp
  · exact ⟨⟨by decide +kernel, by decide +kernel⟩, by decide +kernel⟩
  · exact ⟨⟨rfl, by decide +kernel⟩, by decide +kernel⟩
  · exact ⟨⟨rfl, by decide +kernel⟩, by decide +kernel⟩

end Settings

end SampleForge
