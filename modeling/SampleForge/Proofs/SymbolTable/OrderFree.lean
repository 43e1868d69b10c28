import SampleForge.Proofs.SymbolTable.Closure
import SampleForge.Proofs.SymbolTable.Refusal

/-!
# What does not depend on order

The order of output views decides the nicknames.  It does not decide which types a table knows, nor
what is imported, as long as one identity always means one type.  Views in another order reserve the
same types and print the same variables.  The types that are reached from these are the same, and
they are all that the tables hold.
-/

namespace SampleForge

/-! ## Views -/

namespace OutputView

open TypeRef (Consistent Reached)

mutual

/-- The types that a view names, those that it loops over among them. -/
def references : OutputView → List TypeRef
| .define _ type => [type]
| .loop _ collection body => collection :: referencesAll body
| .print _ args => (variablesOf args).map (·.type)
| .comment _ => []

/-- The types that several views name. -/
def referencesAll : List OutputView → List TypeRef
| [] => []
| view :: rest => references view ++ referencesAll rest

end

mutual

theorem reached_of_mem_reservations : (view : OutputView) →
    ∀ t ∈ reservations view, Reached (references view) t
  | .define _ type, t, ht => .given ht
  | .print _ args, t, ht => .given ht
  | .comment _, t, ht => .given ht
  | .loop _ collection body, t, ht => by
      rcases List.mem_append.1 ht with ht | ht
      · have hcollection : Reached (collection :: referencesAll body) collection :=
          .given List.mem_cons_self
        exact hcollection.element (Option.mem_toList.1 ht)
      · exact (reached_of_mem_reservationsAll body t ht).mono
          fun u hu => List.mem_cons_of_mem collection hu

/-- What views reserve is reached from what they name. -/
theorem reached_of_mem_reservationsAll : (views : List OutputView) →
    ∀ t ∈ reservationsAll views, Reached (referencesAll views) t
  | [], t, ht => .given ht
  | view :: rest, t, ht => by
      rcases List.mem_append.1 ht with ht | ht
      · exact (reached_of_mem_reservations view t ht).mono
          fun u hu => List.mem_append_left (referencesAll rest) hu
      · exact (reached_of_mem_reservationsAll rest t ht).mono
          fun u hu => List.mem_append_right (references view) hu

end

theorem reservationsAll_eq_flatMap (views : List OutputView) :
    reservationsAll views = views.flatMap reservations := by
  induction views with
  | nil => rfl
  | cons view rest ih => rw [reservationsAll, ih, List.flatMap_cons]

theorem auxiliariesAll_eq_flatMap (policy : ImportPolicy) (views : List OutputView) :
    auxiliariesAll policy views = views.flatMap (auxiliaries policy) := by
  induction views with
  | nil => rfl
  | cons view rest ih => rw [auxiliariesAll, ih, List.flatMap_cons]

theorem checkAll_eq_ok {views : List OutputView} :
    checkAll views = .ok () ↔ ∀ view ∈ views, check view = .ok () := by
  constructor
  · intro h
    induction views with
    | nil => rintro _ ⟨⟩
    | cons view rest ih =>
      obtain ⟨hview, hrest⟩ := checkAll_cons.1 h
      exact List.forall_mem_cons.2 ⟨hview, ih hrest⟩
  · exact checkAll_of_forall

end OutputView

namespace SymbolTable

open OutputView (auxiliariesAll checkAll referencesAll reservationsAll)
open TypeRef (Consistent Reached)

theorem types_flat (table : SymbolTable) (policy : ImportPolicy) (views : List OutputView) :
    (table.flat policy views).types = (table.reserveAll (reservationsAll views)).types := by
  rw [flat, addImports_eq_plus]
  rfl

theorem length_types (table : SymbolTable) : table.types.length = table.entries.length :=
  List.length_map _

theorem mem_imports_flat (policy : ImportPolicy) {views : List OutputView} {statement : String} :
    statement ∈ ((empty policy).flat policy views).imports ↔
      statement ∈ auxiliariesAll policy views ∨
        ∃ t ∈ ((empty policy).reserveAll (reservationsAll views)).types,
          statement ∈ policy.imports t := by
  rw [← mem_imports_reserveAll, flat, addImports_eq_plus]
  exact NameSet.mem_insertAll

/-- Views in which one identity means one type can be collected in any order.  Whether they are
accepted, what is imported, which types are known and how many reservations are made is the same.
The known types are those that are reached from the reserved ones. -/
theorem collect_perm (policy : ImportPolicy) {views others : List OutputView}
    (hconsistent : Consistent (referencesAll views)) (hperm : views.Perm others) :
    ((∃ table, (empty policy).collect policy views = .ok table) ↔
        ∃ table, (empty policy).collect policy others = .ok table) ∧
      ∀ table other, (empty policy).collect policy views = .ok table →
        (empty policy).collect policy others = .ok other →
        table.imports = other.imports ∧
          (∀ identity, identity ∈ table.known ↔ identity ∈ other.known) ∧
          table.entries.length = other.entries.length ∧
          table.requests = other.requests ∧
          ∀ identity, identity ∈ table.known ↔
            ∃ t, Reached (reservationsAll views) t ∧ t.identity = identity := by
  have hreservations : (reservationsAll views).Perm (reservationsAll others) := by
    rw [OutputView.reservationsAll_eq_flatMap, OutputView.reservationsAll_eq_flatMap]
    exact hperm.flatMap_right _
  have hauxiliaries : (auxiliariesAll policy views).Perm (auxiliariesAll policy others) := by
    rw [OutputView.auxiliariesAll_eq_flatMap, OutputView.auxiliariesAll_eq_flatMap]
    exact hperm.flatMap_right _
  have hviews : Consistent (reservationsAll views) :=
    hconsistent.of_reached (OutputView.reached_of_mem_reservationsAll views)
  have hothers : Consistent (reservationsAll others) :=
    hviews.of_reached fun t ht => .given (hreservations.mem_iff.2 ht)
  have hreached : ∀ t, Reached (reservationsAll views) t ↔ Reached (reservationsAll others) t :=
    fun t => ⟨fun h => h.mono fun u hu => hreservations.mem_iff.1 hu,
      fun h => h.mono fun u hu => hreservations.mem_iff.2 hu⟩
  have htypes := types_perm_of_reached hviews policy hothers hreached
  refine ⟨?_, ?_⟩
  · simp only [collect_eq_ok, OutputView.checkAll_eq_ok, exists_and_left, exists_eq, and_true,
      hperm.mem_iff]
  · intro table other htable hother
    obtain ⟨hcheck, rfl⟩ := collect_eq_ok.1 htable
    obtain ⟨hcheck', rfl⟩ := collect_eq_ok.1 hother
    rw [← types_flat _ policy views, ← types_flat _ policy others] at htypes
    refine ⟨?_, ?_, ?_, ?_, ?_⟩
    · apply NameSet.ext
      intro statement
      rw [mem_imports_flat, mem_imports_flat, hauxiliaries.mem_iff,
        ← types_flat _ policy views, ← types_flat _ policy others]
      simp only [htypes.mem_iff]
    · intro identity
      simp only [mem_known, htypes.mem_iff]
    · rw [← length_types, ← length_types, htypes.length_eq]
    · rw [requests_flat _ _ hcheck, requests_flat _ _ hcheck',
        ← OutputView.length_reservationsAll views hcheck,
        ← OutputView.length_reservationsAll others hcheck', hreservations.length_eq]
    · intro identity
      simp only [mem_known, types_flat, mem_types_reserveAll hviews]

/-- Collected backwards, a loop over books, a shelf of them and another type of the name give the
same imports, though the books change their nickname. -/
theorem collect_perm_shelves :
    let book := TypeRef.leaf .message "a.Book"
    let shelf := TypeRef.collection "a.Shelf" book
    let views : List OutputView :=
      [.loop "b" shelf [.define "c" book], .define "s" shelf,
        .define "d" (.leaf .message "c.Book")]
    Consistent (referencesAll views) ∧ views.Perm views.reverse ∧
      ∃ table other, (empty (.java none)).collect (.java none) views = .ok table ∧
        (empty (.java none)).collect (.java none) views.reverse = .ok other ∧
        table.imports = other.imports ∧ table.nickname? book = some "Book" ∧
        other.nickname? book = some "a_Book" := by
  intro book shelf views
  have hconsistent : Consistent (referencesAll views) := by decide +kernel
  have hperm : views.Perm views.reverse := (List.reverse_perm views).symm
  obtain ⟨_, hsame⟩ := collect_perm (.java none) hconsistent hperm
  have hviews : (empty (.java none)).collect (.java none) views =
      .ok ((empty (.java none)).flat (.java none) views) := collect_of_checked rfl
  have hother : (empty (.java none)).collect (.java none) views.reverse =
      .ok ((empty (.java none)).flat (.java none) views.reverse) := collect_of_checked rfl
  exact ⟨hconsistent, hperm, _, _, hviews, hother, (hsame _ _ hviews hother).1,
    by decide +kernel, by decide +kernel⟩

end SymbolTable

end SampleForge
