import SampleForge.Proofs.SymbolTable.Walk

/-!
# Views that are refused

A collection is refused for a *stray* loop, one over something that is no collection, and the
refusal names the first one in the order in which the views are written (`checkAll_eq`).

The walk meets the same loops as the check.  `tryVisitAll` is the walk with a check of its own: it
stops at a stray loop and leaves the table half filled.  It fails exactly when the check does
(`tryVisitAll_result`), so behind the check it never does, and a collection that works on the table
itself leaves it alone if it is refused (`collectInPlace_eq`).
-/

namespace SampleForge

open Outcome

namespace OutputView

/-! ## All views of a tree -/

mutual

/-- A view and the views in it, each before those in it. -/
def nodes : OutputView → List OutputView
| .define name type => [.define name type]
| .loop name collection body => .loop name collection body :: nodesAll body
| .print format args => [.print format args]
| .comment lines => [.comment lines]

/-- Several views and the views in them, in the order in which they are written. -/
def nodesAll : List OutputView → List OutputView
| [] => []
| view :: rest => nodes view ++ nodesAll rest

end

/-- How a view breaks its contract, whatever the views in it do. -/
def violation? : OutputView → Option ViewError
  | .loop name collection _ =>
      match collection.element? with
      | some _ => none
      | none => some (.notACollection name collection.identity)
  | .define _ _ => none
  | .print _ _ => none
  | .comment _ => none

/-- Only a stray loop breaks the contract. -/
theorem violation?_eq_some {view : OutputView} {e : ViewError} :
    view.violation? = some e ↔
      ∃ name collection body, view = .loop name collection body ∧ collection.element? = none ∧
        e = .notACollection name collection.identity := by
  cases view with
  | define name type => simp [violation?]
  | print format args => simp [violation?]
  | comment lines => simp [violation?]
  | loop name collection body =>
    cases h : collection.element? with
    | some element => simp [violation?, h]
    | none => simp [violation?, h, eq_comm]

theorem violation?_eq_none {view : OutputView} :
    view.violation? = none ↔
      ∀ name collection body, view = .loop name collection body → collection.element? ≠ none := by
  rw [Option.eq_none_iff_forall_ne_some]
  constructor
  · rintro h name collection body hview hnone
    exact h _ (violation?_eq_some.2 ⟨name, collection, body, hview, hnone, rfl⟩)
  · intro h e he
    obtain ⟨name, collection, body, hview, hnone, _⟩ := violation?_eq_some.1 he
    exact h name collection body hview hnone

/-! ## The first violation -/

/-- Refuses what there is a reason to refuse. -/
def refuse : Option ViewError → Except ViewError Unit
  | some e => .error e
  | none => .ok ()

theorem refuse_or (first second : Option ViewError) :
    refuse (first.or second) = (refuse first >>= fun _ => refuse second) := by
  cases first with
  | some e => rfl
  | none => rfl

theorem refuse_eq_error {reason : Option ViewError} {e : ViewError} :
    refuse reason = .error e ↔ reason = some e := by
  cases reason with
  | some e' => simp [refuse]
  | none => simp [refuse]

theorem loopElement_bind {α : Type} (name : String) (collection : TypeRef)
    (body : List OutputView) (next : Except ViewError α) :
    (loopElement name collection >>= fun _ => next) =
      (refuse (violation? (.loop name collection body)) >>= fun _ => next) := by
  cases h : collection.element? with
  | some element => simp [loopElement, violation?, refuse, h]
  | none => simp [loopElement, violation?, refuse, h]

mutual

theorem check_eq : (view : OutputView) → check view = refuse (view.nodes.findSome? violation?)
  | .define _ _ => rfl
  | .print _ _ => rfl
  | .comment _ => rfl
  | .loop name collection body => by
      rw [check, nodes, List.findSome?_cons, loopElement_bind name collection body,
        checkAll_eq body]
      cases violation? (.loop name collection body) with
      | some e => rfl
      | none => rfl

/-- The check refuses the first view that breaks its contract. -/
theorem checkAll_eq : (views : List OutputView) →
    checkAll views = refuse ((nodesAll views).findSome? violation?)
  | [] => rfl
  | view :: rest => by
      rw [checkAll, check_eq view, checkAll_eq rest, nodesAll, List.findSome?_append, refuse_or]

end

theorem checkAll_eq_error {views : List OutputView} {e : ViewError} :
    checkAll views = .error e ↔
      ∃ before name collection body after,
        nodesAll views = before ++ .loop name collection body :: after ∧
          (∀ name' collection' body', .loop name' collection' body' ∈ before →
            collection'.element? ≠ none) ∧
          collection.element? = none ∧ e = .notACollection name collection.identity := by
  rw [checkAll_eq, refuse_eq_error, List.findSome?_eq_some_iff]
  constructor
  · rintro ⟨before, view, after, hnodes, hview, hbefore⟩
    obtain ⟨name, collection, body, rfl, hnone, rfl⟩ := violation?_eq_some.1 hview
    refine ⟨before, name, collection, body, after, hnodes, ?_, hnone, rfl⟩
    intro name' collection' body' hmem
    exact violation?_eq_none.1 (hbefore _ hmem) name' collection' body' rfl
  · rintro ⟨before, name, collection, body, after, hnodes, hbefore, hnone, rfl⟩
    refine ⟨before, _, after, hnodes,
      violation?_eq_some.2 ⟨name, collection, body, rfl, hnone, rfl⟩, ?_⟩
    intro view hmem
    rw [violation?_eq_none]
    rintro name' collection' body' rfl
    exact hbefore name' collection' body' hmem

theorem exists_checkAll_eq_error {views : List OutputView} :
    (∃ e, checkAll views = .error e) ↔
      ∃ name collection body, .loop name collection body ∈ nodesAll views ∧
        collection.element? = none := by
  constructor
  · rintro ⟨e, he⟩
    obtain ⟨before, name, collection, body, after, hnodes, _, hnone, _⟩ := checkAll_eq_error.1 he
    exact ⟨name, collection, body, hnodes ▸ List.mem_append_right _ List.mem_cons_self, hnone⟩
  · rintro ⟨name, collection, body, hmem, hnone⟩
    rw [checkAll_eq]
    cases hfirst : (nodesAll views).findSome? violation? with
    | some e => exact ⟨e, rfl⟩
    | none =>
      have hsound := List.findSome?_eq_none_iff.1 hfirst _ hmem
      exact absurd hnone (violation?_eq_none.1 hsound name collection body rfl)

/-! ## Trees that are built -/

/-- The views that are built without a detour: a loop is made by `forEach`, of views of this
kind. -/
inductive Built : OutputView → Prop where
  | define (name : String) (type : TypeRef) : Built (.define name type)
  | print (format : String) (args : List PrintArg) : Built (.print format args)
  | comment (lines : List String) : Built (.comment lines)
  | forEach {name : String} {collection : TypeRef} {body : List OutputView} {view : OutputView} :
      (∀ inner ∈ body, Built inner) → forEach name collection body = .ok view → Built view

theorem checkAll_of_forall {views : List OutputView} (h : ∀ view ∈ views, check view = .ok ()) :
    checkAll views = .ok () := by
  induction views with
  | nil => rfl
  | cons view rest ih =>
    obtain ⟨hview, hrest⟩ := List.forall_mem_cons.1 h
    exact checkAll_cons.2 ⟨hview, ih hrest⟩

theorem Built.check {view : OutputView} (h : Built view) : view.check = .ok () := by
  induction h with
  | define name type => rfl
  | print format args => rfl
  | comment lines => rfl
  | @forEach name collection body view _ hmade ih =>
    obtain ⟨element, helement, hview⟩ := bind_eq_ok.1 hmade
    cases hview
    have hsome : collection.element?.isSome = true :=
      Option.isSome_iff_exists.2 ⟨element, loopElement_eq_ok.1 helement⟩
    exact check_loop.2 ⟨hsome, checkAll_of_forall ih⟩

end OutputView

/-! ## The walk with a check of its own -/

namespace SymbolTable

mutual

/-- The walk of a view that may break its contract: the table as far as the walk got, and the
violation that stopped it. -/
def tryVisit (policy : ImportPolicy) (table : SymbolTable) :
    OutputView → SymbolTable × Except ViewError Unit
| .define _ type => ((table.reserve type).2, .ok ())
| .loop name collection body =>
    match OutputView.loopElement name collection with
    | .ok element => tryVisitAll policy (table.reserve element).2 body
    | .error e => (table, .error e)
| .print _ args => (table.visitPrint policy args, .ok ())
| .comment _ => (table, .ok ())

/-- The walk of several views that may break their contract. -/
def tryVisitAll (policy : ImportPolicy) (table : SymbolTable) :
    List OutputView → SymbolTable × Except ViewError Unit
| [] => (table, .ok ())
| view :: rest =>
    match tryVisit policy table view with
    | (table, .ok _) => tryVisitAll policy table rest
    | (table, .error e) => (table, .error e)

end

mutual

theorem tryVisit_result (policy : ImportPolicy) (table : SymbolTable) : (view : OutputView) →
    (tryVisit policy table view).2 = view.check
  | .define _ _ => rfl
  | .print _ _ => rfl
  | .comment _ => rfl
  | .loop name collection body => by
      rw [tryVisit, OutputView.check]
      cases OutputView.loopElement name collection with
      | error e => rfl
      | ok element => exact tryVisitAll_result policy _ body

/-- The walk and the check agree on every tree, whatever is in the table. -/
theorem tryVisitAll_result (policy : ImportPolicy) (table : SymbolTable) :
    (views : List OutputView) → (tryVisitAll policy table views).2 = OutputView.checkAll views
  | [] => rfl
  | view :: rest => by
      have hview := tryVisit_result policy table view
      rw [tryVisitAll, OutputView.checkAll]
      match hvisit : tryVisit policy table view with
      | (middle, .ok _) =>
        rw [hvisit] at hview
        rw [← hview]
        exact tryVisitAll_result policy middle rest
      | (middle, .error e) =>
        rw [hvisit] at hview
        rw [← hview]
        rfl

end

mutual

theorem tryVisit_of_checked (policy : ImportPolicy) (table : SymbolTable) : (view : OutputView) →
    view.check = .ok () → tryVisit policy table view = (visit policy table view, .ok ())
  | .define _ _, _ => rfl
  | .print _ _, _ => rfl
  | .comment _, _ => rfl
  | .loop name collection body, h => by
      obtain ⟨hsome, hbody⟩ := OutputView.check_loop.1 h
      obtain ⟨element, helement⟩ := Option.isSome_iff_exists.1 hsome
      rw [tryVisit, OutputView.loopElement_eq_ok.2 helement, visit, helement]
      exact tryVisitAll_of_checked policy _ body hbody

/-- Behind the check the walk does not fail. -/
theorem tryVisitAll_of_checked (policy : ImportPolicy) (table : SymbolTable) :
    (views : List OutputView) → OutputView.checkAll views = .ok () →
    tryVisitAll policy table views = (visitAll policy table views, .ok ())
  | [], _ => rfl
  | view :: rest, h => by
      obtain ⟨hview, hrest⟩ := OutputView.checkAll_cons.1 h
      rw [tryVisitAll, tryVisit_of_checked policy table view hview, visitAll]
      exact tryVisitAll_of_checked policy _ rest hrest

end

/-- A collection that works on the table itself: the table that is left, and the violation that
was met. -/
def collectInPlace (policy : ImportPolicy) (table : SymbolTable) (views : List OutputView) :
    SymbolTable × Except ViewError Unit :=
  match OutputView.checkAll views with
  | .ok _ => tryVisitAll policy table views
  | .error e => (table, .error e)

/-- If it is refused it leaves the table alone, and else it has the table of the collection. -/
theorem collectInPlace_eq (policy : ImportPolicy) (table : SymbolTable)
    (views : List OutputView) :
    collectInPlace policy table views =
      match table.collect policy views with
      | .ok collected => (collected, .ok ())
      | .error e => (table, .error e) := by
  rw [collectInPlace, collect]
  cases hcheck : OutputView.checkAll views with
  | error e => rfl
  | ok u => exact tryVisitAll_of_checked policy table views hcheck

theorem collect_eq_error {policy : ImportPolicy} {table : SymbolTable} {views : List OutputView}
    {e : ViewError} :
    table.collect policy views = .error e ↔ OutputView.checkAll views = .error e := by
  rw [collect]
  cases OutputView.checkAll views with
  | error e => simp
  | ok u => simp

/-- A collection is refused exactly if a loop at any depth is stray.  The refusal names the first
such loop, the table is then left alone, and behind the check the walk does not fail.  Trees made
of bindings, prints, comments and accepted loops are never refused. -/
theorem collect_all_or_nothing (policy : ImportPolicy) (table : SymbolTable)
    (views : List OutputView) :
    ((∃ e, table.collect policy views = .error e) ↔
        ∃ name collection body, .loop name collection body ∈ OutputView.nodesAll views ∧
          collection.element? = none) ∧
      (∀ e, table.collect policy views = .error e ↔
        ∃ before name collection body after,
          OutputView.nodesAll views = before ++ .loop name collection body :: after ∧
            (∀ name' collection' body', .loop name' collection' body' ∈ before →
              collection'.element? ≠ none) ∧
            collection.element? = none ∧ e = .notACollection name collection.identity) ∧
      (collectInPlace policy table views =
        match table.collect policy views with
        | .ok collected => (collected, .ok ())
        | .error e => (table, .error e)) ∧
      (OutputView.checkAll views = .ok () →
        ∀ start, tryVisitAll policy start views = (visitAll policy start views, .ok ())) ∧
      ((∀ view ∈ views, view.Built) → ∃ collected, table.collect policy views = .ok collected) := by
  refine ⟨?_, ?_, collectInPlace_eq policy table views,
    fun hcheck start => tryVisitAll_of_checked policy start views hcheck, ?_⟩
  · simp only [collect_eq_error]
    exact OutputView.exists_checkAll_eq_error
  · intro e
    rw [collect_eq_error]
    exact OutputView.checkAll_eq_error
  · intro hbuilt
    have hcheck := OutputView.checkAll_of_forall fun view hview => (hbuilt view hview).check
    exact ⟨_, collect_of_checked hcheck⟩

end SymbolTable

end SampleForge
