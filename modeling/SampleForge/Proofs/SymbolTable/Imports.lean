import SampleForge.Proofs.SymbolTable.OrderFree
import SampleForge.Proofs.SymbolTable.Permanence

/-!
# What is imported

Collecting views imports what the newly recorded types need, and the auxiliary statement if a print
shows a variable that needs it (`collect_imports`).  Everything else that a table imports was there
before.

`Shows` says which variables a view prints, at whatever depth.  Bindings and loops show nothing.

For a fresh table this tells the imports of each language.  Python imports its enums or nothing
(`imports_python`).  Java has a statement for each message and enum, one for lists and one for bytes
(`imports_java`).
-/

namespace SampleForge

open Outcome

/-! ## Shown variables -/

namespace OutputView

/-- A print of the view, at whatever depth, shows a variable. -/
inductive Shows (v : VariableSegment) : OutputView → Prop where
  /-- A print shows the variables of its arguments. -/
  | print {format : String} {args : List PrintArg} {arg : PrintArg} :
      arg ∈ args → .variable v ∈ arg.segments → Shows v (.print format args)
  /-- A loop shows what its body shows. -/
  | loop {name : String} {collection : TypeRef} {body : List OutputView} {view : OutputView} :
      view ∈ body → Shows v view → Shows v (.loop name collection body)

/-- One of several views shows a variable. -/
def AnyShows (views : List OutputView) (v : VariableSegment) : Prop :=
  ∃ view ∈ views, view.Shows v

theorem mem_variablesOf {args : List PrintArg} {v : VariableSegment} :
    v ∈ variablesOf args ↔ ∃ arg ∈ args, .variable v ∈ arg.segments := by
  have hpart : ∀ part : ArgSegment, ArgSegment.variable? part = some v ↔ part = .variable v := by
    intro part
    match part with
    | .text s =>
      constructor
      · rintro ⟨⟩
      · rintro ⟨⟩
    | .variable w =>
      show some w = some v ↔ ArgSegment.variable w = .variable v
      rw [Option.some.injEq, ArgSegment.variable.injEq]
  simp only [variablesOf, List.mem_flatMap, List.mem_filterMap, hpart, exists_eq_right]

theorem shows_print {format : String} {args : List PrintArg} {v : VariableSegment} :
    (OutputView.print format args).Shows v ↔ v ∈ variablesOf args := by
  rw [mem_variablesOf]
  constructor
  · rintro (⟨harg, hv⟩ | _)
    exact ⟨_, harg, hv⟩
  · rintro ⟨arg, harg, hv⟩
    exact .print harg hv

theorem shows_loop {name : String} {collection : TypeRef} {body : List OutputView}
    {v : VariableSegment} : (OutputView.loop name collection body).Shows v ↔ AnyShows body v := by
  constructor
  · rintro (_ | ⟨hview, hshows⟩)
    exact ⟨_, hview, hshows⟩
  · rintro ⟨view, hview, hshows⟩
    exact .loop hview hshows

theorem anyShows_cons {view : OutputView} {rest : List OutputView} {v : VariableSegment} :
    AnyShows (view :: rest) v ↔ view.Shows v ∨ AnyShows rest v := by
  simp [AnyShows]

mutual

theorem mem_auxiliaries (policy : ImportPolicy) {statement : String} : (view : OutputView) →
    (statement ∈ auxiliaries policy view ↔
      ∃ v, view.Shows v ∧ policy.auxiliary? v = some statement)
  | .define _ _ => by
      constructor
      · rintro ⟨⟩
      · rintro ⟨v, ⟨⟩, _⟩
  | .loop _ _ body => by
      rw [auxiliaries, mem_auxiliariesAll policy body]
      simp only [shows_loop]
  | .print _ args => by
      simp only [auxiliaries, statements, List.mem_filterMap, shows_print]
  | .comment _ => by
      constructor
      · rintro ⟨⟩
      · rintro ⟨v, ⟨⟩, _⟩

/-- The auxiliary statements of views are those of the variables that they show. -/
theorem mem_auxiliariesAll (policy : ImportPolicy) {statement : String} :
    (views : List OutputView) →
    (statement ∈ auxiliariesAll policy views ↔
      ∃ v, AnyShows views v ∧ policy.auxiliary? v = some statement)
  | [] => by
      constructor
      · rintro ⟨⟩
      · rintro ⟨v, ⟨view, ⟨⟩, _⟩, _⟩
  | view :: rest => by
      rw [auxiliariesAll, List.mem_append, mem_auxiliaries policy view,
        mem_auxiliariesAll policy rest]
      simp only [anyShows_cons, or_and_right, exists_or]

end

end OutputView

/-! ## The statements of a type -/

namespace ImportPolicy

/-- The import of a type that Java knows by name. -/
def typeImport (package : Option String) (t : TypeRef) : String :=
  "import " ++ qualifiedName package t ++ ";"

theorem typeImport_inj {package : Option String} {t u : TypeRef} :
    typeImport package t = typeImport package u ↔
      qualifiedName package t = qualifiedName package u := by
  rw [typeImport, typeImport, String.append_left_inj, String.append_right_inj]

/-- Whether Java knows a type by name: messages and enums. -/
def IsNamed (t : TypeRef) : Prop := t.kind = .leaf .message ∨ t.kind = .leaf .enumeration

theorem mem_imports_java {package : Option String} {t : TypeRef} {statement : String} :
    statement ∈ imports (.java package) t ↔
      (IsNamed t ∧ statement = typeImport package t) ∨
        (t.kind = .collection ∧ statement = listImport) ∨
        (t.kind = .leaf .primitive ∧ t.identity = "bytes" ∧ statement = bytesImport) := by
  cases t with
  | collection identity element => simp [imports, IsNamed, TypeRef.kind]
  | leaf kind identity =>
    cases kind with
    | message => simp [imports, IsNamed, TypeRef.kind, typeImport]
    | enumeration => simp [imports, IsNamed, TypeRef.kind, typeImport]
    | primitive =>
      by_cases hbytes : identity = "bytes"
      · simp [imports, IsNamed, TypeRef.kind, TypeRef.identity, hbytes]
      · simp [imports, IsNamed, TypeRef.kind, TypeRef.identity, hbytes]

theorem auxiliary?_python {client : String} {v : VariableSegment} {statement : String} :
    auxiliary? (.python client) v = some statement ↔
      v.isEnum = true ∧ statement = enumsImport client := by
  rw [auxiliary?, Option.ite_none_right_eq_some, Option.some.injEq, eq_comm (a := statement)]

end ImportPolicy

namespace SymbolTable

open ImportPolicy (IsNamed bytesImport enumsImport listImport qualifiedName typeImport)
open OutputView (AnyShows)

/-! ## Collecting -/

/-- Collecting views imports what the new entries need and the auxiliary statements of the variables
that are shown, and nothing else. -/
theorem mem_imports_collect {table after : SymbolTable} {policy : ImportPolicy}
    {views : List OutputView} (h : table.collect policy views = .ok after) :
    ∃ new, after.entries = table.entries ++ new ∧ ∀ statement, statement ∈ after.imports ↔
      statement ∈ table.imports ∨ (∃ entry ∈ new, statement ∈ table.policy.imports entry.1) ∨
        ∃ v, AnyShows views v ∧ policy.auxiliary? v = some statement := by
  obtain ⟨_, rfl⟩ := collect_eq_ok.1 h
  obtain ⟨types, htypes, himports⟩ :=
    imports_reserveAll table (OutputView.reservationsAll views)
  obtain ⟨new, hnew⟩ := (keeps_reserveAll table (OutputView.reservationsAll views)).entries
  have hsame : types = new.map (·.1) := by
    rw [SymbolTable.types, SymbolTable.types, ← hnew, List.map_append] at htypes
    exact (List.append_cancel_left htypes).symm
  rw [flat, addImports_eq_plus]
  refine ⟨new, hnew.symm, fun statement => ?_⟩
  have hplus : statement ∈ ((table.reserveAll (OutputView.reservationsAll views)).plus
        (OutputView.auxiliariesAll policy views)).imports ↔
      statement ∈ OutputView.auxiliariesAll policy views ∨
        statement ∈ (table.reserveAll (OutputView.reservationsAll views)).imports :=
    NameSet.mem_insertAll
  rw [hplus, himports, NameSet.mem_insertAll, List.mem_flatMap, hsame,
    OutputView.mem_auxiliariesAll, or_comm, or_assoc, or_left_comm]
  simp only [List.mem_map, exists_exists_and_eq_and]

/-- The imports of a fresh table are those of its types and of the variables that are shown. -/
theorem mem_imports_of_fresh {policy : ImportPolicy} {views : List OutputView}
    {after : SymbolTable} (h : (empty policy).collect policy views = .ok after)
    {statement : String} :
    statement ∈ after.imports ↔ (∃ t ∈ after.types, statement ∈ policy.imports t) ∨
      ∃ v, AnyShows views v ∧ policy.auxiliary? v = some statement := by
  obtain ⟨new, hentries, himports⟩ := mem_imports_collect h
  have hempty : (empty policy).entries = [] := rfl
  have hnone : statement ∉ (empty policy).imports := by rintro ⟨⟩
  rw [hempty, List.nil_append] at hentries
  rw [himports, or_iff_right hnone, types, hentries]
  simp only [List.mem_map, exists_exists_and_eq_and]
  rfl

/-! ## The languages -/

/-- For Python, a fresh table imports the enums if an enum value is shown, and nothing otherwise. -/
theorem imports_python {client : String} {views : List OutputView} {after : SymbolTable}
    (h : (empty (.python client)).collect (.python client) views = .ok after) :
    ((∃ v, AnyShows views v ∧ v.isEnum = true) →
        after.imports = NameSet.ofList [enumsImport client]) ∧
      ((¬ ∃ v, AnyShows views v ∧ v.isEnum = true) → after.imports = ∅) := by
  have hmem : ∀ statement, statement ∈ after.imports ↔
      (∃ v, AnyShows views v ∧ v.isEnum = true) ∧ statement = enumsImport client := by
    intro statement
    have hnone : ¬ ∃ t ∈ after.types, statement ∈ ImportPolicy.imports (.python client) t := by
      rintro ⟨t, _, ⟨⟩⟩
    rw [mem_imports_of_fresh h, or_iff_right hnone]
    simp only [ImportPolicy.auxiliary?_python, ← and_assoc, exists_and_right]
  constructor
  · intro hshown
    apply NameSet.ext
    intro statement
    rw [hmem, and_iff_right hshown, NameSet.ofList, NameSet.mem_insertAll, List.mem_singleton]
    exact (or_iff_left (by rintro ⟨⟩)).symm
  · intro hshown
    apply NameSet.ext
    intro statement
    rw [hmem]
    constructor
    · rintro ⟨hv, _⟩
      exact absurd hv hshown
    · rintro ⟨⟩

/-- For Java, a fresh table imports its messages and enums by name, lists if it holds a collection,
and bytes if it holds those. -/
theorem imports_java {package : Option String} {views : List OutputView} {after : SymbolTable}
    (h : (empty (.java package)).collect (.java package) views = .ok after) {statement : String} :
    statement ∈ after.imports ↔
      (∃ t ∈ after.types, IsNamed t ∧ statement = typeImport package t) ∨
        ((∃ t ∈ after.types, t.kind = .collection) ∧ statement = listImport) ∨
        ((∃ t ∈ after.types, t.kind = .leaf .primitive ∧ t.identity = "bytes") ∧
          statement = bytesImport) := by
  have hnone : ¬ ∃ v, AnyShows views v ∧
      ImportPolicy.auxiliary? (.java package) v = some statement := by
    rintro ⟨v, _, ⟨⟩⟩
  rw [mem_imports_of_fresh h, or_iff_left hnone]
  simp only [ImportPolicy.mem_imports_java, and_or_left, exists_or, ← and_assoc, exists_and_right]

/-- Collecting views adds to the imports of a table those of the entries that are new and the
auxiliary statements of the variables that are shown, and nothing else.

On a fresh table, Python imports its enums exactly if an enum value is shown.  Java imports each
message and enum that has an entry, one statement for each name, and lists and bytes exactly if they
have entries, unless another of these statements reads the same. -/
theorem collect_imports {table after : SymbolTable} {views : List OutputView}
    (h : table.collect table.policy views = .ok after) :
    (∃ new, after.entries = table.entries ++ new ∧ ∀ statement, statement ∈ after.imports ↔
        statement ∈ table.imports ∨ (∃ entry ∈ new, statement ∈ table.policy.imports entry.1) ∨
          ∃ v, AnyShows views v ∧ table.policy.auxiliary? v = some statement) ∧
      (∀ client, table = empty (.python client) →
        ((∃ v, AnyShows views v ∧ v.isEnum = true) →
            after.imports = NameSet.ofList [enumsImport client]) ∧
          ((¬ ∃ v, AnyShows views v ∧ v.isEnum = true) → after.imports = ∅)) ∧
      ∀ package, table = empty (.java package) →
        (∀ statement, statement ∈ after.imports ↔
          (∃ t ∈ after.types, IsNamed t ∧ statement = typeImport package t) ∨
            ((∃ t ∈ after.types, t.kind = .collection) ∧ statement = listImport) ∨
            ((∃ t ∈ after.types, t.kind = .leaf .primitive ∧ t.identity = "bytes") ∧
              statement = bytesImport)) ∧
          ∀ t u, typeImport package t = typeImport package u ↔
            qualifiedName package t = qualifiedName package u := by
  refine ⟨mem_imports_collect h, ?_, ?_⟩
  · rintro client rfl
    exact imports_python h
  · rintro package rfl
    exact ⟨fun statement => imports_java h, fun t u => ImportPolicy.typeImport_inj⟩

/-- A loop over shelves that binds a state and prints it: Java imports the shelf and the state. -/
theorem collect_imports_shelves :
    let shelf := TypeRef.leaf .message "a.Shelf"
    let state : VariableSegment := ⟨"state", .leaf .enumeration "a.State", false⟩
    let views : List OutputView :=
      [.loop "s" (.collection "a.Shelves" shelf)
        [.define "t" state.type, .print "%s" [⟨[.text "state ", .variable state]⟩]]]
    ∃ after, (empty (.java none)).collect (empty (.java none)).policy views = .ok after ∧
      "import a.Shelf;" ∈ after.imports ∧ "import a.State;" ∈ after.imports ∧
      listImport ∉ after.imports := by
  intro shelf state views
  have hcollect : (empty (.java none)).collect (empty (.java none)).policy views =
      .ok ((empty (.java none)).flat (.java none) views) := collect_of_checked rfl
  obtain ⟨himports, _⟩ := (collect_imports hcollect).2.2 none rfl
  refine ⟨_, hcollect, ?_, ?_, ?_⟩
  · rw [himports]
    exact .inl ⟨shelf, by decide +kernel, .inl rfl, rfl⟩
  · rw [himports]
    exact .inl ⟨state.type, by decide +kernel, .inr rfl, rfl⟩
  · decide +kernel

end SymbolTable

end SampleForge
