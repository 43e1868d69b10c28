import SampleForge.Proofs.NameSet
import SampleForge.Proofs.Outcome
import SampleForge.Proofs.SymbolTable.Reservation
import SampleForge.SymbolTable.Collect

/-!
# The walk as a list

Walking checked views has the same effect on a table as a flat list of reservations followed by a
flat list of import statements (`visitAll_eq`).  The types are those of `reservationsAll`.  The
statements are those of all printed variables that need one, in the order of the views, although a
print adds only the first of its own.

* An import statement changes nothing that a reservation looks at (`reserveAll_plus`), so all of
  them can wait until the end.
* A policy has only one auxiliary statement (`auxiliary?_unique`), so the first one of a print
  stands for all of them.
-/

namespace SampleForge

open Outcome

/-! ## Parts of views -/

namespace OutputView

/-- The auxiliary statements of variables, in order. -/
def statements (policy : ImportPolicy) (shown : List VariableSegment) : List String :=
  shown.filterMap policy.auxiliary?

mutual

/-- The auxiliary statements of the variables that a view prints, in order. -/
def auxiliaries (policy : ImportPolicy) : OutputView → List String
| .define _ _ => []
| .loop _ _ body => auxiliariesAll policy body
| .print _ args => statements policy (variablesOf args)
| .comment _ => []

/-- The auxiliary statements of the variables that several views print, in order. -/
def auxiliariesAll (policy : ImportPolicy) : List OutputView → List String
| [] => []
| view :: rest => auxiliaries policy view ++ auxiliariesAll policy rest

end

mutual

/-- The number of bindings, loops and printed variables of a view. -/
def mentions : OutputView → Nat
| .define _ _ => 1
| .loop _ _ body => 1 + mentionsAll body
| .print _ args => (variablesOf args).length
| .comment _ => 0

/-- The number of bindings, loops and printed variables of several views. -/
def mentionsAll : List OutputView → Nat
| [] => 0
| view :: rest => mentions view + mentionsAll rest

end

mutual

/-- A view without its names, format, texts and comments. -/
def bare : OutputView → List OutputView
| .define _ type => [.define "" type]
| .loop _ collection body => [.loop "" collection (bareAll body)]
| .print _ args => [.print "" [⟨(variablesOf args).map fun v => .variable { v with name := "" }⟩]]
| .comment _ => []

/-- Several views without their names, formats, texts and comments. -/
def bareAll : List OutputView → List OutputView
| [] => []
| view :: rest => bare view ++ bareAll rest

end

end OutputView

/-- A policy has one auxiliary statement at most. -/
theorem ImportPolicy.auxiliary?_unique {policy : ImportPolicy} {v w : VariableSegment}
    {a b : String} (ha : policy.auxiliary? v = some a) (hb : policy.auxiliary? w = some b) :
    a = b := by
  cases policy with
  | java package => cases ha
  | python client =>
    simp only [auxiliary?, Option.ite_none_right_eq_some, Option.some.injEq] at ha hb
    rw [← ha.2, ← hb.2]

/-! ## Import statements can wait -/

namespace SymbolTable

/-- The table with several import statements added. -/
def plus (table : SymbolTable) (names : List String) : SymbolTable :=
  { table with imports := table.imports.insertAll names }

theorem plus_nil (table : SymbolTable) : table.plus [] = table := rfl

theorem plus_plus (table : SymbolTable) (first rest : List String) :
    (table.plus first).plus rest = table.plus (first ++ rest) := by
  simp [plus, NameSet.insertAll_append]

theorem addImport_eq_plus (table : SymbolTable) (statement : String) :
    (table.addImport statement).2 = table.plus [statement] := rfl

theorem plus_congr {first rest : List String} (table : SymbolTable)
    (h : ∀ name, name ∈ first ↔ name ∈ rest) : table.plus first = table.plus rest := by
  rw [plus, plus, NameSet.insertAll_congr table.imports h]

theorem record_plus (table : SymbolTable) (names : List String) (t : TypeRef) (nickname : String) :
    (table.plus names).record t nickname = (table.record t nickname).plus names := by
  simp only [plus, record, NameSet.insertAll_comm table.imports names]

theorem assign_plus (table : SymbolTable) (names : List String) (t : TypeRef) :
    (table.plus names).assign t = ((table.assign t).1, (table.assign t).2.plus names) := by
  have hnickname : ∀ t, (table.plus names).nickname? t = table.nickname? t := fun _ => rfl
  induction t with
  | leaf kind identity =>
    rw [assign, assign, hnickname]
    cases table.nickname? (.leaf kind identity) with
    | some nickname => rfl
    | none => simp only [record_plus]; rfl
  | collection identity element ih =>
    rw [assign, assign, hnickname, ih]
    cases table.nickname? (.collection identity element) with
    | some nickname => rfl
    | none => simp only [record_plus]; rfl

theorem reserve_plus (table : SymbolTable) (names : List String) (t : TypeRef) :
    ((table.plus names).reserve t).2 = (table.reserve t).2.plus names :=
  congrArg Prod.snd (assign_plus { table with requests := table.requests + 1 } names t)

theorem reserveAll_plus (table : SymbolTable) (names : List String) (types : List TypeRef) :
    (table.plus names).reserveAll types = (table.reserveAll types).plus names := by
  induction types generalizing table with
  | nil => rfl
  | cons t rest ih => rw [reserveAll_cons, reserve_plus, ih, reserveAll_cons]

/-! ## The walk -/

/-- The table after several import statements, one after another. -/
def addImports (table : SymbolTable) (names : List String) : SymbolTable :=
  names.foldl (fun table name => (table.addImport name).2) table

theorem addImports_eq_plus (table : SymbolTable) (names : List String) :
    table.addImports names = table.plus names := by
  induction names generalizing table with
  | nil => rfl
  | cons name rest ih =>
    have hstep : table.addImports (name :: rest) = (table.plus [name]).addImports rest := rfl
    rw [hstep, ih, plus_plus]
    rfl

/-- The first auxiliary statement of a print stands for all of them. -/
theorem visitPrint_eq (table : SymbolTable) (policy : ImportPolicy) (args : List PrintArg) :
    table.visitPrint policy args =
      (table.reserveAll ((OutputView.variablesOf args).map (·.type))).plus
        (OutputView.statements policy (OutputView.variablesOf args)) := by
  rw [visitPrint]
  cases hfirst : (OutputView.variablesOf args).findSome? policy.auxiliary? with
  | none =>
    have hnone : OutputView.statements policy (OutputView.variablesOf args) = [] := by
      rw [OutputView.statements, List.filterMap_eq_nil_iff]
      exact List.findSome?_eq_none_iff.1 hfirst
    simp only [hnone, plus_nil]
  | some statement =>
    obtain ⟨v, hv, hstatement⟩ := List.exists_of_findSome?_eq_some hfirst
    simp only [addImport_eq_plus]
    apply plus_congr
    intro name
    rw [List.mem_singleton, OutputView.statements, List.mem_filterMap]
    constructor
    · rintro rfl
      exact ⟨v, hv, hstatement⟩
    · rintro ⟨w, _, hname⟩
      exact ImportPolicy.auxiliary?_unique hname hstatement

/-- Two flat passes are one. -/
theorem plus_reserveAll_plus (table : SymbolTable) (types types' : List TypeRef)
    (names names' : List String) :
    (((table.reserveAll types).plus names).reserveAll types').plus names' =
      (table.reserveAll (types ++ types')).plus (names ++ names') := by
  rw [reserveAll_plus, plus_plus, reserveAll_append]

mutual

theorem visit_eq (policy : ImportPolicy) (table : SymbolTable) : (view : OutputView) →
    visit policy table view =
      (table.reserveAll view.reservations).plus (view.auxiliaries policy)
  | .define _ _ => rfl
  | .loop _ collection body => by
      rw [visit, visitAll_eq policy _ body, OutputView.reservations, OutputView.auxiliaries,
        reserveAll_append]
  | .print _ args => visitPrint_eq table policy args
  | .comment _ => rfl

/-- The walk of several views is one pass over their types and then one over their auxiliary
statements. -/
theorem visitAll_eq (policy : ImportPolicy) (table : SymbolTable) : (views : List OutputView) →
    visitAll policy table views =
      (table.reserveAll (OutputView.reservationsAll views)).plus
        (OutputView.auxiliariesAll policy views)
  | [] => rfl
  | view :: rest => by
      rw [visitAll, visit_eq policy table view, visitAll_eq policy _ rest, plus_reserveAll_plus,
        OutputView.reservationsAll, OutputView.auxiliariesAll]

end

end SymbolTable

/-! ## Checked views -/

namespace OutputView

theorem loopElement_eq_ok {name : String} {collection element : TypeRef} :
    loopElement name collection = .ok element ↔ collection.element? = some element := by
  cases h : collection.element? with
  | none => simp [loopElement, h]
  | some found => simp [loopElement, h]

theorem check_loop {name : String} {collection : TypeRef} {body : List OutputView} :
    check (.loop name collection body) = .ok () ↔
      collection.element?.isSome ∧ checkAll body = .ok () := by
  rw [check, bind_eq_ok, Option.isSome_iff_exists]
  simp [loopElement_eq_ok]

theorem checkAll_cons {view : OutputView} {rest : List OutputView} :
    checkAll (view :: rest) = .ok () ↔ check view = .ok () ∧ checkAll rest = .ok () := by
  rw [checkAll, check_bind_eq_ok]

theorem checkAll_append {first rest : List OutputView} :
    checkAll (first ++ rest) = .ok () ↔ checkAll first = .ok () ∧ checkAll rest = .ok () := by
  induction first with
  | nil => simp [checkAll]
  | cons view first ih => rw [List.cons_append, checkAll_cons, checkAll_cons, ih, and_assoc]

mutual

/-- Checked views reserve one type for each binding, loop and printed variable. -/
theorem length_reservations : (view : OutputView) → check view = .ok () →
    (reservations view).length = mentions view
  | .define _ _, _ => rfl
  | .loop _ collection body, h => by
      obtain ⟨hsome, hbody⟩ := check_loop.1 h
      obtain ⟨element, helement⟩ := Option.isSome_iff_exists.1 hsome
      rw [reservations, mentions, helement, List.length_append, length_reservationsAll body hbody]
      rfl
  | .print _ _, _ => List.length_map _
  | .comment _, _ => rfl

theorem length_reservationsAll : (views : List OutputView) → checkAll views = .ok () →
    (reservationsAll views).length = mentionsAll views
  | [], _ => rfl
  | view :: rest, h => by
      obtain ⟨hview, hrest⟩ := checkAll_cons.1 h
      rw [reservationsAll, mentionsAll, List.length_append, length_reservations view hview,
        length_reservationsAll rest hrest]

end

/-! ## Bare views -/

theorem variablesOf_singleton (shown : List VariableSegment) :
    variablesOf [⟨shown.map .variable⟩] = shown := by
  simp [variablesOf, List.filterMap_map, Function.comp_def, ArgSegment.variable?]

theorem reservationsAll_append (first rest : List OutputView) :
    reservationsAll (first ++ rest) = reservationsAll first ++ reservationsAll rest := by
  induction first with
  | nil => rfl
  | cons view first ih =>
    rw [List.cons_append, reservationsAll, reservationsAll, ih, List.append_assoc]

theorem auxiliariesAll_append (policy : ImportPolicy) (first rest : List OutputView) :
    auxiliariesAll policy (first ++ rest) =
      auxiliariesAll policy first ++ auxiliariesAll policy rest := by
  induction first with
  | nil => rfl
  | cons view first ih =>
    rw [List.cons_append, auxiliariesAll, auxiliariesAll, ih, List.append_assoc]

/-- The variables of a bare print are those of the print, without their names. -/
theorem variablesOf_bare (shown : List VariableSegment) :
    variablesOf [⟨shown.map fun v => .variable { v with name := "" }⟩] =
      shown.map fun v => { v with name := "" } := by
  rw [← variablesOf_singleton (shown.map fun v => { v with name := "" }), List.map_map]
  rfl

mutual

theorem reservationsAll_bare : (view : OutputView) →
    reservationsAll (bare view) = reservations view
  | .define _ _ => rfl
  | .loop _ collection body => by
      rw [bare, reservationsAll, reservations, reservationsAll_bareAll body, reservationsAll,
        List.append_nil, reservations]
  | .print _ args => by
      rw [bare, reservationsAll, reservations, variablesOf_bare, reservationsAll, List.append_nil,
        List.map_map, reservations]
      rfl
  | .comment _ => rfl

/-- Bare views reserve the same types. -/
theorem reservationsAll_bareAll : (views : List OutputView) →
    reservationsAll (bareAll views) = reservationsAll views
  | [] => rfl
  | view :: rest => by
      rw [bareAll, reservationsAll_append, reservationsAll_bare view,
        reservationsAll_bareAll rest, reservationsAll]

end

mutual

theorem auxiliariesAll_bare (policy : ImportPolicy) : (view : OutputView) →
    auxiliariesAll policy (bare view) = auxiliaries policy view
  | .define _ _ => rfl
  | .loop _ _ body => by
      rw [bare, auxiliariesAll, auxiliaries, auxiliariesAll_bareAll policy body, auxiliariesAll,
        List.append_nil, auxiliaries]
  | .print _ args => by
      rw [bare, auxiliariesAll, auxiliaries, variablesOf_bare, auxiliariesAll, List.append_nil,
        auxiliaries, statements, statements, List.filterMap_map]
      rfl
  | .comment _ => rfl

/-- Bare views need the same statements. -/
theorem auxiliariesAll_bareAll (policy : ImportPolicy) : (views : List OutputView) →
    auxiliariesAll policy (bareAll views) = auxiliariesAll policy views
  | [] => rfl
  | view :: rest => by
      rw [bareAll, auxiliariesAll_append, auxiliariesAll_bare policy view,
        auxiliariesAll_bareAll policy rest, auxiliariesAll]

end

mutual

theorem checkAll_bare : (view : OutputView) →
    (checkAll (bare view) = .ok () ↔ check view = .ok ())
  | .define _ _ => by simp [bare, checkAll, check]
  | .loop _ collection body => by
      rw [bare, checkAll_cons, check_loop, check_loop, checkAll_bareAll body]
      simp [checkAll]
  | .print _ _ => by simp [bare, checkAll, check]
  | .comment _ => by simp [bare, checkAll, check]

/-- Bare views pass the check together with the views. -/
theorem checkAll_bareAll : (views : List OutputView) →
    (checkAll (bareAll views) = .ok () ↔ checkAll views = .ok ())
  | [] => by simp [bareAll]
  | view :: rest => by
      rw [bareAll, checkAll_append, checkAll_cons, checkAll_bare view, checkAll_bareAll rest]

end

end OutputView

/-! ## Collecting -/

namespace SymbolTable

/-- The table after a flat pass: the types that views reserve, one after another, and then the
auxiliary statements of the variables that they print. -/
def flat (table : SymbolTable) (policy : ImportPolicy) (views : List OutputView) : SymbolTable :=
  (table.reserveAll (OutputView.reservationsAll views)).addImports
    (OutputView.auxiliariesAll policy views)

theorem collect_of_checked {policy : ImportPolicy} {table : SymbolTable}
    {views : List OutputView} (h : OutputView.checkAll views = .ok ()) :
    table.collect policy views = .ok (table.flat policy views) := by
  rw [collect, h, bind_ok, visitAll_eq, flat, addImports_eq_plus]
  rfl

theorem collect_eq_ok {policy : ImportPolicy} {table after : SymbolTable}
    {views : List OutputView} :
    table.collect policy views = .ok after ↔
      OutputView.checkAll views = .ok () ∧ after = table.flat policy views := by
  constructor
  · intro h
    obtain ⟨_, hcheck, _⟩ := bind_eq_ok.1 h
    rw [collect_of_checked hcheck] at h
    cases h
    exact ⟨hcheck, rfl⟩
  · rintro ⟨hcheck, rfl⟩
    exact collect_of_checked hcheck

theorem flat_append (table : SymbolTable) (policy : ImportPolicy)
    (first rest : List OutputView) :
    table.flat policy (first ++ rest) = (table.flat policy first).flat policy rest := by
  simp only [flat, addImports_eq_plus, plus_reserveAll_plus, OutputView.reservationsAll_append,
    OutputView.auxiliariesAll_append]

theorem requests_flat (table : SymbolTable) (policy : ImportPolicy) {views : List OutputView}
    (h : OutputView.checkAll views = .ok ()) :
    (table.flat policy views).requests = table.requests + OutputView.mentionsAll views := by
  rw [flat, addImports_eq_plus]
  exact (requests_reserveAll table _).trans
    (congrArg (table.requests + ·) (OutputView.length_reservationsAll views h))

theorem flat_congr (table : SymbolTable) (policy : ImportPolicy) {views others : List OutputView}
    (h : OutputView.bareAll others = OutputView.bareAll views) :
    table.flat policy others = table.flat policy views := by
  have hreservations : OutputView.reservationsAll others = OutputView.reservationsAll views := by
    rw [← OutputView.reservationsAll_bareAll others, h, OutputView.reservationsAll_bareAll]
  have hauxiliaries : OutputView.auxiliariesAll policy others =
      OutputView.auxiliariesAll policy views := by
    rw [← OutputView.auxiliariesAll_bareAll policy others, h, OutputView.auxiliariesAll_bareAll]
  rw [flat, flat, hreservations, hauxiliaries]

/-- Collecting the imports of checked views is a flat pass over them.  It counts one request for
each binding, loop and printed variable, it may be done in two parts, and only what is left of the
views when they are bare plays a part in it. -/
theorem collect_eq_flat (policy : ImportPolicy) (table : SymbolTable) {views : List OutputView}
    (h : OutputView.checkAll views = .ok ()) :
    table.collect policy views = .ok (table.flat policy views) ∧
      (table.flat policy views).requests = table.requests + OutputView.mentionsAll views ∧
      (∀ first rest, views = first ++ rest →
        ∃ middle, table.collect policy first = .ok middle ∧
          middle.collect policy rest = table.collect policy views) ∧
      ∀ others, OutputView.bareAll others = OutputView.bareAll views →
        table.collect policy others = table.collect policy views := by
  refine ⟨collect_of_checked h, requests_flat table policy h, ?_, ?_⟩
  · rintro first rest rfl
    obtain ⟨hfirst, hrest⟩ := OutputView.checkAll_append.1 h
    refine ⟨table.flat policy first, collect_of_checked hfirst, ?_⟩
    rw [collect_of_checked hrest, collect_of_checked h, flat_append]
  · intro others hbare
    have hothers : OutputView.checkAll others = .ok () := by
      rw [← OutputView.checkAll_bareAll, hbare, OutputView.checkAll_bareAll]
      exact h
    rw [collect_of_checked hothers, collect_of_checked h, flat_congr table policy hbare]

/-- A loop over shelves that binds one and prints its state makes three reservations and one
auxiliary import. -/
theorem collect_eq_flat_shelves :
    let shelf := TypeRef.leaf .message "a.Shelf"
    let state : VariableSegment := ⟨"state", .leaf .enumeration "a.State", false⟩
    let views : List OutputView :=
      [.comment ["Shelves"], .loop "s" (.collection "a.Shelves" shelf)
        [.define "t" shelf, .print "%s" [⟨[.text "state ", .variable state]⟩]]]
    OutputView.checkAll views = .ok () ∧
      ∃ table, (empty (.python "p")).collect (.python "p") views = .ok table ∧
        table.requests = 3 ∧ "from p import enums" ∈ table.imports := by
  intro shelf state views
  have hchecked : OutputView.checkAll views = .ok () := rfl
  obtain ⟨hcollect, hrequests, _⟩ := collect_eq_flat (.python "p") (empty (.python "p")) hchecked
  exact ⟨hchecked, _, hcollect, hrequests, by decide +kernel⟩

end SymbolTable

end SampleForge
