import SampleForge.Log.Event
import SampleForge.SymbolTable.Collect

/-!
# The journal of a collection

What is noted while the imports of output views are collected: each view as it is visited, each
nickname as it is reserved, and the size of the table at the end.  A collection that is refused
notes nothing.
-/

namespace SampleForge.SymbolTable

/-- The events of the entries that one table has beyond another. -/
def reservedEvents (before after : SymbolTable) : List Event :=
  (after.entries.drop before.entries.length).map fun entry =>
    Event.of .debug "symbol_table" "Reserved nickname"
      [("identity", .text entry.1.identity), ("nickname", .text entry.2)]

/-- The event of a visit. -/
def visitEvent (view : OutputView) : Event :=
  Event.of .trace "output::collector" "Visiting output view" [("kind", .text view.word)]

mutual

/-- The events of visiting a view. -/
def visitEvents (policy : ImportPolicy) (table : SymbolTable) : OutputView → List Event
| .loop name collection body =>
    let entered := table.reserveAll collection.element?.toList
    visitEvent (.loop name collection body) :: reservedEvents table entered ++
      visitAllEvents policy entered body
| .define name type =>
    visitEvent (.define name type) :: reservedEvents table (table.reserve type).2
| .print format args =>
    visitEvent (.print format args) :: reservedEvents table (table.visitPrint policy args)
| .comment lines => [visitEvent (.comment lines)]

/-- The events of visiting several views. -/
def visitAllEvents (policy : ImportPolicy) (table : SymbolTable) : List OutputView → List Event
| [] => []
| view :: rest =>
    visitEvents policy table view ++ visitAllEvents policy (visit policy table view) rest

end

/-- The events of collecting the imports of views. -/
def collectEvents (policy : ImportPolicy) (table : SymbolTable) (views : List OutputView) :
    List Event :=
  match table.collect policy views with
  | .error _ => []
  | .ok after =>
      visitAllEvents policy table views ++
        [Event.of .debug "output::collector" "Collected output view imports"
          [("roots", .int views.length), ("nicknames", .int after.entries.length),
            ("imports", .int after.imports.size)]]

end SampleForge.SymbolTable
