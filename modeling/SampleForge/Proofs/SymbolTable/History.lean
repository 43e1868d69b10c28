import SampleForge.Proofs.SymbolTable.Walk

/-!
# Histories of tables

A table is filled by *calls*: a reservation, an import statement of its own, or a collection of
output views.  A collection of views that break their contract is refused and leaves the table
alone.

Whatever the calls, their table is that of one pass over the types that they reserve and one over
the statements that they add (`run_eq`).  So what holds of a table after every reservation and
every import statement holds after every history.
-/

namespace SampleForge.SymbolTable

/-- A call on a table. -/
inductive Call where
  /-- Reserves the nickname of a type. -/
  | reserve (t : TypeRef)
  /-- Adds an import statement. -/
  | addImport (statement : String)
  /-- Collects the imports of views. -/
  | collect (policy : ImportPolicy) (views : List OutputView)

/-- The table after a call. -/
def after (table : SymbolTable) : Call → SymbolTable
  | .reserve t => (table.reserve t).2
  | .addImport statement => (table.addImport statement).2
  | .collect policy views =>
      match table.collect policy views with
      | .ok collected => collected
      | .error _ => table

/-- The table after several calls. -/
def run (table : SymbolTable) (calls : List Call) : SymbolTable := calls.foldl after table

/-- The types that a call reserves, in order. -/
def Call.types : Call → List TypeRef
  | .reserve t => [t]
  | .addImport _ => []
  | .collect _ views =>
      match OutputView.checkAll views with
      | .ok _ => OutputView.reservationsAll views
      | .error _ => []

/-- The import statements that a call adds, those of its types left out. -/
def Call.statements : Call → List String
  | .reserve _ => []
  | .addImport statement => [statement]
  | .collect policy views =>
      match OutputView.checkAll views with
      | .ok _ => OutputView.auxiliariesAll policy views
      | .error _ => []

theorem after_eq (table : SymbolTable) (call : Call) :
    table.after call = (table.reserveAll call.types).plus call.statements := by
  cases call with
  | reserve t => rfl
  | addImport statement => rfl
  | collect policy views =>
    rw [after, Call.types, Call.statements]
    cases hcheck : OutputView.checkAll views with
    | error e =>
      have hrefused : table.collect policy views = .error e := by
        rw [collect, hcheck, Outcome.bind_error]
      rw [hrefused]
      rfl
    | ok u =>
      rw [collect_of_checked hcheck, flat, addImports_eq_plus]

theorem run_cons (table : SymbolTable) (call : Call) (calls : List Call) :
    table.run (call :: calls) = (table.after call).run calls := rfl

/-- A history is one pass over the types that are reserved and one over the statements. -/
theorem run_eq (table : SymbolTable) (calls : List Call) :
    table.run calls =
      (table.reserveAll (calls.flatMap Call.types)).plus (calls.flatMap Call.statements) := by
  induction calls generalizing table with
  | nil => rfl
  | cons call calls ih =>
    rw [run_cons, ih, after_eq, plus_reserveAll_plus, List.flatMap_cons, List.flatMap_cons]

end SampleForge.SymbolTable
