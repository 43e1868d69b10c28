import SampleForge.SymbolTable

/-!
# Collecting the imports of output views

The views of a code sample are walked once, from left to right and each before its body.  Every
type that a view refers to is reserved: the type of a binding, the element of a loop, the types of
the printed variables.  A print whose variables need an auxiliary import adds the first such
statement after its types.

All views are checked before the table is touched, so a tree that breaks its contract leaves the
table as it was.

The order of the walk decides the nicknames.  `reservations` lists the types in that order.
-/

namespace SampleForge

namespace OutputView

mutual

/-- The types that a view reserves, in order.  A loop without an element reserves nothing itself. -/
def reservations : OutputView → List TypeRef
| .define _ type => [type]
| .loop _ collection body => collection.element?.toList ++ reservationsAll body
| .print _ args => (variablesOf args).map (·.type)
| .comment _ => []

/-- The types that several views reserve, in order. -/
def reservationsAll : List OutputView → List TypeRef
| [] => []
| view :: rest => reservations view ++ reservationsAll rest

end

end OutputView

namespace SymbolTable

/-- The table after a print. -/
def visitPrint (table : SymbolTable) (policy : ImportPolicy) (args : List PrintArg) :
    SymbolTable :=
  let shown := OutputView.variablesOf args
  let table := table.reserveAll (shown.map (·.type))
  match shown.findSome? policy.auxiliary? with
  | some statement => (table.addImport statement).2
  | none => table

mutual

/-- The table after a view that has been checked. -/
def visit (policy : ImportPolicy) (table : SymbolTable) : OutputView → SymbolTable
| .define _ type => (table.reserve type).2
| .loop _ collection body =>
    visitAll policy (table.reserveAll collection.element?.toList) body
| .print _ args => table.visitPrint policy args
| .comment _ => table

/-- The table after several views that have been checked. -/
def visitAll (policy : ImportPolicy) (table : SymbolTable) : List OutputView → SymbolTable
| [] => table
| view :: rest => visitAll policy (visit policy table view) rest

end

/-- The table after several views, which are all checked first. -/
def collect (policy : ImportPolicy) (table : SymbolTable) (views : List OutputView) :
    Except ViewError SymbolTable := do
  OutputView.checkAll views
  return visitAll policy table views

section Tests

example :
    (visitAll (.python "p") (empty (.python "p"))
      [.print "%s" [⟨[.variable ⟨"s", .leaf .enumeration "a.State", false⟩]⟩]]).imports.toList =
    ["from p import enums"] := by decide +kernel

end Tests

end SymbolTable

end SampleForge
