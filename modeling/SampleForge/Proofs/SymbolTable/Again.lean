import SampleForge.Proofs.SymbolTable.OrderFree
import SampleForge.Proofs.SymbolTable.Permanence

/-!
# Collecting again

A table *absorbs* a view if it knows every type that the view reserves and imports every auxiliary
statement that the view needs.  Collecting views that are absorbed changes nothing but the count of
the requests (`collect_of_absorbs`).

A collection makes the table absorb its views.  Nothing that is done later undoes this, as a table
loses neither a type nor an import, and with a view the views in it are absorbed.  So views can be
collected again at any later time, in whole or in parts (`collect_again`).

The element of a known type need not be known, where one identity means several types.  It does not
matter here, since a reservation does not look at the element of a type that is known.
-/

namespace SampleForge

/-! ## The views in a tree -/

namespace OutputView

mutual

theorem forall_nodes {P : OutputView → Prop}
    (hloop : ∀ name collection body, P (.loop name collection body) → ∀ inner ∈ body, P inner) :
    (view : OutputView) → P view → ∀ inner ∈ nodes view, P inner
  | .define _ _, h => List.forall_mem_singleton.2 h
  | .print _ _, h => List.forall_mem_singleton.2 h
  | .comment _, h => List.forall_mem_singleton.2 h
  | .loop name collection body, h =>
      List.forall_mem_cons.2 ⟨h, forall_nodesAll hloop body (hloop name collection body h)⟩

/-- What a loop hands down to its body holds of all views in a tree. -/
theorem forall_nodesAll {P : OutputView → Prop}
    (hloop : ∀ name collection body, P (.loop name collection body) → ∀ inner ∈ body, P inner) :
    (views : List OutputView) → (∀ view ∈ views, P view) → ∀ inner ∈ nodesAll views, P inner
  | [], _ => List.forall_mem_nil P
  | view :: rest, h => by
      obtain ⟨hview, hrest⟩ := List.forall_mem_cons.1 h
      exact List.forall_mem_append.2
        ⟨forall_nodes hloop view hview, forall_nodesAll hloop rest hrest⟩

end

end OutputView

namespace SymbolTable

open OutputView (mentions mentionsAll nodesAll)

/-! ## What is there already -/

/-- Whatever has been reserved is known. -/
theorem known_of_mem_reserveAll (table : SymbolTable) (types : List TypeRef) :
    ∀ t ∈ types, t.identity ∈ (table.reserveAll types).known := by
  induction types generalizing table with
  | nil => exact List.forall_mem_nil _
  | cons t rest ih =>
    refine List.forall_mem_cons.2 ⟨?_, ih _⟩
    exact mem_known_of_nickname
      ((keeps_reserveAll (table.reserve t).2 rest).nicknames t _ (nickname?_reserve table t))

theorem reserve_of_known {table : SymbolTable} {t : TypeRef} (h : t.identity ∈ table.known) :
    (table.reserve t).2 = { table with requests := table.requests + 1 } := by
  cases hfound : table.nickname? t with
  | none => exact absurd h (nickname?_eq_none.1 hfound)
  | some nickname => rw [reserve_of_nickname hfound]

/-- Reservations of known types are counted, and that is all. -/
theorem reserveAll_of_known {table : SymbolTable} {types : List TypeRef}
    (h : ∀ t ∈ types, t.identity ∈ table.known) :
    table.reserveAll types = { table with requests := table.requests + types.length } := by
  induction types generalizing table with
  | nil => rfl
  | cons t rest ih =>
    obtain ⟨ht, hrest⟩ := List.forall_mem_cons.1 h
    have hcounted := @ih { table with requests := table.requests + 1 } hrest
    rw [reserveAll_cons, reserve_of_known ht, hcounted, List.length_cons, Nat.add_assoc,
      Nat.add_comm 1]

theorem plus_of_mem {table : SymbolTable} {names : List String}
    (h : ∀ name ∈ names, name ∈ table.imports) : table.plus names = table := by
  have himports : table.imports.insertAll names = table.imports := by
    apply NameSet.ext
    intro name
    rw [NameSet.mem_insertAll, or_iff_right_of_imp (h name)]
  rw [plus, himports]

/-! ## Views that are absorbed -/

/-- A table has all that an accepted view asks for. -/
structure Absorbs (table : SymbolTable) (policy : ImportPolicy) (view : OutputView) : Prop where
  /-- The view is accepted. -/
  check : view.check = .ok ()
  /-- The types that it reserves are known. -/
  types : ∀ t ∈ view.reservations, t.identity ∈ table.known
  /-- The statements that it needs are imported. -/
  statements : ∀ statement ∈ view.auxiliaries policy, statement ∈ table.imports

namespace Absorbs

variable {table : SymbolTable} {policy : ImportPolicy}

/-- With a loop its body is absorbed. -/
theorem body {name : String} {collection : TypeRef} {body : List OutputView}
    (h : table.Absorbs policy (.loop name collection body)) :
    ∀ inner ∈ body, table.Absorbs policy inner := by
  have hcheck := (OutputView.check_loop.1 h.check).2
  intro inner hinner
  refine ⟨OutputView.checkAll_eq_ok.1 hcheck inner hinner, ?_, ?_⟩
  · intro t ht
    apply h.types
    rw [OutputView.reservations, OutputView.reservationsAll_eq_flatMap]
    exact List.mem_append_right _ (List.mem_flatMap_of_mem hinner ht)
  · intro statement hstatement
    apply h.statements
    rw [OutputView.auxiliaries, OutputView.auxiliariesAll_eq_flatMap]
    exact List.mem_flatMap_of_mem hinner hstatement

theorem mono {view : OutputView} {after : SymbolTable} (h : table.Absorbs policy view)
    (hkeeps : table.Keeps after) : after.Absorbs policy view where
  check := h.check
  types := fun t ht => by
    rw [known]
    exact (hkeeps.entries.map _).subset (h.types t ht)
  statements := fun statement hmem => hkeeps.imports statement (h.statements statement hmem)

end Absorbs

section Collected

variable {policy : ImportPolicy} {table collected : SymbolTable} {views : List OutputView}

/-- Collected views are absorbed. -/
theorem absorbs_of_collect (h : table.collect policy views = .ok collected) :
    ∀ view ∈ views, collected.Absorbs policy view := by
  obtain ⟨hcheck, rfl⟩ := collect_eq_ok.1 h
  have hflat : table.flat policy views = (table.reserveAll (OutputView.reservationsAll views)).plus
      (OutputView.auxiliariesAll policy views) := addImports_eq_plus _ _
  intro view hview
  refine ⟨OutputView.checkAll_eq_ok.1 hcheck view hview, ?_, ?_⟩
  · intro t ht
    rw [hflat]
    apply known_of_mem_reserveAll
    rw [OutputView.reservationsAll_eq_flatMap]
    exact List.mem_flatMap_of_mem hview ht
  · intro statement hstatement
    rw [hflat, plus, NameSet.mem_insertAll, OutputView.auxiliariesAll_eq_flatMap]
    exact .inl (List.mem_flatMap_of_mem hview hstatement)

/-- Collecting absorbed views counts their requests, and that is all. -/
theorem collect_of_absorbs (h : ∀ view ∈ views, table.Absorbs policy view) :
    table.collect policy views =
      .ok { table with requests := table.requests + mentionsAll views } := by
  have hcheck : OutputView.checkAll views = .ok () :=
    OutputView.checkAll_eq_ok.2 fun view hview => (h view hview).check
  have htypes : ∀ t ∈ OutputView.reservationsAll views, t.identity ∈ table.known := by
    rw [OutputView.reservationsAll_eq_flatMap]
    intro t ht
    obtain ⟨view, hview, ht⟩ := List.mem_flatMap.1 ht
    exact (h view hview).types t ht
  have hstatements : ∀ statement ∈ OutputView.auxiliariesAll policy views,
      statement ∈ table.imports := by
    rw [OutputView.auxiliariesAll_eq_flatMap]
    intro statement hstatement
    obtain ⟨view, hview, hstatement⟩ := List.mem_flatMap.1 hstatement
    exact (h view hview).statements statement hstatement
  rw [collect_of_checked hcheck, flat, addImports_eq_plus, ← reserveAll_plus,
    plus_of_mem hstatements, reserveAll_of_known htypes,
    OutputView.length_reservationsAll views hcheck]

/-- Views that have been collected can be collected again, at once or after any other calls.  The
whole of them, a single one, the body of a loop at any depth and any selection of the views in them
is accepted, and nothing changes but the count of the requests. -/
theorem collect_again (h : table.collect policy views = .ok collected) (calls : List Call) :
    let later := collected.run calls
    collected.requests = table.requests + mentionsAll views ∧
      later.collect policy views =
        .ok { later with requests := later.requests + mentionsAll views } ∧
      (∀ view ∈ views, later.collect policy [view] =
        .ok { later with requests := later.requests + mentions view }) ∧
      (∀ name collection body, .loop name collection body ∈ nodesAll views →
        later.collect policy body =
          .ok { later with requests := later.requests + mentionsAll body }) ∧
      ∀ part, (∀ view ∈ part, view ∈ nodesAll views) →
        later.collect policy part =
          .ok { later with requests := later.requests + mentionsAll part } := by
  intro later
  have habsorbs : ∀ view ∈ views, later.Absorbs policy view := fun view hview =>
    (absorbs_of_collect h view hview).mono (keeps_run collected calls)
  have hnodes : ∀ view ∈ nodesAll views, later.Absorbs policy view :=
    OutputView.forall_nodesAll (fun _ _ _ => Absorbs.body) views habsorbs
  refine ⟨?_, collect_of_absorbs habsorbs, ?_, ?_, ?_⟩
  · obtain ⟨hcheck, rfl⟩ := collect_eq_ok.1 h
    exact requests_flat table policy hcheck
  · intro view hview
    exact collect_of_absorbs (List.forall_mem_singleton.2 (habsorbs view hview))
  · intro name collection body hloop
    exact collect_of_absorbs (hnodes _ hloop).body
  · intro part hpart
    exact collect_of_absorbs fun view hview => hnodes view (hpart view hview)

end Collected

/-- A loop over shelves whose collection takes the identity of the books in it, collected again
after another book has come. -/
theorem collect_again_shelves :
    let book := TypeRef.leaf .message "a.Book"
    let shelf := TypeRef.collection "a.Book" (.collection "a.Shelf" book)
    let state : VariableSegment := ⟨"state", .leaf .enumeration "a.State", false⟩
    let body : List OutputView := [.define "b" book, .print "%s" [⟨[.variable state]⟩]]
    let views : List OutputView := [.loop "s" (.collection "a.Shelves" shelf) body]
    let policy := ImportPolicy.python "p"
    let calls := [Call.reserve (.leaf .message "b.Book")]
    ∃ collected, (empty policy).collect policy views = .ok collected ∧
      collected.known = ["a.Book", "a.Shelf", "a.Book", "a.State"] ∧
      (collected.run calls).collect policy body =
        .ok { collected.run calls with requests := 6 } := by
  intro book shelf state body views policy calls
  have hcollect : (empty policy).collect policy views = .ok ((empty policy).flat policy views) :=
    collect_of_checked rfl
  obtain ⟨_, _, _, hbody, _⟩ := collect_again hcollect calls
  exact ⟨_, hcollect, by decide +kernel,
    hbody "s" (.collection "a.Shelves" shelf) body List.mem_cons_self⟩

end SymbolTable

end SampleForge
