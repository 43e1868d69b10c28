import SampleForge.Proofs.SymbolTable.Nicknames
import SampleForge.Proofs.SymbolTable.OrderFree
import SampleForge.Proofs.Text.Pieces
import SampleForge.Proofs.Text.Replaced

/-!
# Nicknames in two languages

Java and Python write collections with different brackets, and that is all in which their nicknames
differ.  `inPython` turns the nickname that a type has in Java into the one that it has in Python.

Two tables of the languages go in step: the entries of the one are those of the other, with the
nicknames turned (`Mirrors`).  A reservation keeps this up, since it finds the same names in use on
both sides.

* The name of a leaf has no bracket in it, so no collection is ever in its way.
* The nicknames of Java are built in one way only, from a name without brackets by naming
  collections (`JavaName`).  So they are told apart as well after they have been turned
  (`JavaName.eq_of_inPython_eq`), and a number that is free on one side is free on the other.

All this needs identities without brackets.
-/

namespace SampleForge

open Text (joinWith replaceAll replaceChar split)

/-! ## Texts without brackets -/

/-- The brackets with which the nicknames of collections are written. -/
def brackets : List Char := ['<', '>', '[', ']']

/-- A text is without them. -/
def Unbracketed (s : String) : Prop := ∀ c ∈ s.toList, c ∉ brackets

instance (s : String) : Decidable (Unbracketed s) :=
  List.decidableBAll (fun c => c ∉ brackets) s.toList

namespace Unbracketed

variable {s t : String}

theorem not_mem (h : Unbracketed s) {c : Char} (hc : c ∈ brackets) : c ∉ s.toList :=
  fun hmem => h c hmem hc

theorem append (hs : Unbracketed s) (ht : Unbracketed t) : Unbracketed (s ++ t) := by
  rw [Unbracketed, String.toList_append]
  exact List.forall_mem_append.2 ⟨hs, ht⟩

theorem repr (n : Nat) : Unbracketed n.repr := by
  intro c hc hbracket
  rw [Nat.repr_eq_ofList_toDigits, String.toList_ofList] at hc
  have hdigit : c.isDigit = true := Nat.isDigit_of_mem_toDigits (by decide) (by decide) hc
  have hnone : (brackets.any Char.isDigit) = false := by decide
  exact List.any_eq_false.1 hnone c hbracket hdigit

theorem segments {identity : String} (h : Unbracketed identity) :
    ∀ segment ∈ split '.' identity, Unbracketed segment :=
  fun _ hsegment c hc => h c (Text.mem_of_mem_split hsegment hc)

theorem joined {segments : List String} (h : ∀ segment ∈ segments, Unbracketed segment) :
    Unbracketed (joinWith "_" segments) := by
  intro c hc
  rcases Text.mem_joinWith hc with hc | ⟨segment, hsegment, hc⟩
  · have hunderscore : Unbracketed "_" := by decide
    exact hunderscore c hc
  · exact h segment hsegment c hc

end Unbracketed

/-! ## From Java to Python -/

namespace ImportPolicy

theorem collectionNickname_java {policy : ImportPolicy} (h : policy.language = .java)
    (element : String) : policy.collectionNickname element = "List<" ++ element ++ ">" := by
  cases policy with
  | java package => rfl
  | python client => cases h

theorem collectionNickname_python {policy : ImportPolicy} (h : policy.language = .python)
    (element : String) : policy.collectionNickname element = "list[" ++ element ++ "]" := by
  cases policy with
  | java package => cases h
  | python client => rfl

end ImportPolicy

/-- A nickname of Java with the brackets of Python. -/
def inPython (name : String) : String := replaceChar '>' ']' (replaceAll "List<" "list[" name)

/-- The nicknames of Java: those without brackets, and those of collections, with a number or
without. -/
inductive JavaName : String → Prop where
  | plain {name : String} : Unbracketed name → JavaName name
  | collection {element mark : String} : JavaName element → Unbracketed mark →
      JavaName ("List<" ++ element ++ ">" ++ mark)

section Turning

variable {name element mark : String}

theorem endsWithOpening : "List<".toList.getLast? = some '<' := by decide

theorem inPython_of_unbracketed (h : Unbracketed name) : inPython name = name := by
  rw [inPython, Text.replaceAll_of_not_mem endsWithOpening _ (h.not_mem (by decide)),
    Text.replaceChar_of_not_mem _ (h.not_mem (by decide))]

theorem inPython_collection (element : String) (h : Unbracketed mark) :
    inPython ("List<" ++ element ++ ">" ++ mark) = "list[" ++ inPython element ++ "]" ++ mark := by
  have hbehind : '<' ∉ (">" ++ mark).toList := by
    rw [String.toList_append, List.mem_append, not_or]
    exact ⟨by decide, h.not_mem (by decide)⟩
  have hopen : replaceChar '>' ']' "list[" = "list[" := by decide
  have hclose : replaceChar '>' ']' ">" = "]" := by decide
  rw [inPython, String.append_assoc, String.append_assoc,
    Text.replaceAll_start "list[" (by decide),
    Text.replaceAll_append_of_not_mem endsWithOpening _ _ hbehind,
    Text.replaceChar_append, Text.replaceChar_append, Text.replaceChar_append, hopen, hclose,
    Text.replaceChar_of_not_mem _ (h.not_mem (by decide)), ← String.append_assoc,
    ← String.append_assoc, inPython]

theorem not_unbracketed_collection (element mark : String) :
    ¬ Unbracketed ("list[" ++ element ++ "]" ++ mark) := by
  intro h
  refine h.not_mem (c := '[') (by decide) ?_
  rw [String.append_assoc, String.append_assoc, String.toList_append]
  exact List.mem_append_left _ (by decide)

/-- Nicknames of Java that look alike in Python are the same. -/
theorem JavaName.eq_of_inPython_eq {other : String} (h : JavaName name) (hother : JavaName other)
    (heq : inPython name = inPython other) : name = other := by
  induction h generalizing other with
  | plain hname =>
    rw [inPython_of_unbracketed hname] at heq
    cases hother with
    | plain hother => rwa [inPython_of_unbracketed hother] at heq
    | collection _ hmark =>
      rw [inPython_collection _ hmark] at heq
      exact absurd (heq ▸ hname) (not_unbracketed_collection _ _)
  | collection _ hmark ih =>
    rw [inPython_collection _ hmark] at heq
    cases hother with
    | plain hother =>
      rw [inPython_of_unbracketed hother] at heq
      exact absurd (heq ▸ hother) (not_unbracketed_collection _ _)
    | collection helement hmark' =>
      rw [inPython_collection _ hmark'] at heq
      obtain ⟨hinner, rfl⟩ := (Text.append_separator_inj (hmark.not_mem (c := ']') (by decide))
        (hmark'.not_mem (by decide))).1 heq
      rw [ih helement (String.append_right_inj _ |>.1 hinner)]

end Turning

namespace SymbolTable

open OutputView (checkAll referencesAll reservationsAll)
open TypeRef (Reached)

/-! ## Tables in step -/

/-- A table of Java and one of Python go in step. -/
structure Mirrors (java python : SymbolTable) : Prop where
  /-- The one collects for Java. -/
  ofJava : java.policy.language = .java
  /-- The other collects for Python. -/
  ofPython : python.policy.language = .python
  /-- They have the same types in the same order, with the nicknames turned. -/
  entries : python.entries = java.entries.map fun entry => (entry.1, inPython entry.2)
  /-- The nicknames of the one are nicknames of Java. -/
  names : ∀ entry ∈ java.entries, JavaName entry.2
  /-- Those of leaves have no bracket. -/
  leaves : ∀ entry ∈ java.entries, entry.1.element? = none → Unbracketed entry.2

theorem mirrors_empty (package : Option String) (client : String) :
    Mirrors (empty (.java package)) (empty (.python client)) where
  ofJava := rfl
  ofPython := rfl
  entries := rfl
  names := List.forall_mem_nil _
  leaves := List.forall_mem_nil _

namespace Mirrors

variable {java python : SymbolTable} (h : Mirrors java python)

include h

theorem nickname?_eq (t : TypeRef) : python.nickname? t = (java.nickname? t).map inPython := by
  rw [nickname?, nickname?, h.entries, List.findRev?_eq_find?_reverse,
    List.findRev?_eq_find?_reverse, ← List.map_reverse, List.find?_map, Option.map_map,
    Option.map_map]
  rfl

/-- A nickname of Java is in use exactly if it is, turned, in Python. -/
theorem mem_taken {name : String} (hname : JavaName name) :
    inPython name ∈ python.taken ↔ name ∈ java.taken := by
  have htaken : python.taken = java.taken.map inPython := by
    rw [taken, taken, h.entries, List.map_map, List.map_map]
    rfl
  rw [htaken]
  constructor
  · intro hmem
    obtain ⟨other, hother, heq⟩ := List.mem_map.1 hmem
    obtain ⟨entry, hentry, rfl⟩ := List.mem_map.1 hother
    rwa [← (h.names entry hentry).eq_of_inPython_eq hname heq]
  · exact List.mem_map_of_mem

theorem mem_taken_of_unbracketed {name : String} (hname : Unbracketed name) :
    name ∈ python.taken ↔ name ∈ java.taken := by
  rw [← h.mem_taken (.plain hname), inPython_of_unbracketed hname]

theorem record {t : TypeRef} {name : String} (hname : JavaName name)
    (hleaf : t.element? = none → Unbracketed name) :
    Mirrors (java.record t name) (python.record t (inPython name)) where
  ofJava := h.ofJava
  ofPython := h.ofPython
  entries := by
    rw [SymbolTable.record, SymbolTable.record, h.entries, List.map_append]
    rfl
  names := List.forall_mem_append.2 ⟨h.names, List.forall_mem_singleton.2 hname⟩
  leaves := List.forall_mem_append.2 ⟨h.leaves, List.forall_mem_singleton.2 hleaf⟩

/-- A leaf is given the same name on both sides. -/
theorem leafName_eq {segments : List String} (hsegments : ∀ s ∈ segments, Unbracketed s)
    (n more : Nat) :
    Unbracketed (leafName segments java.taken n more) ∧
      leafName segments python.taken n more = leafName segments java.taken n more := by
  induction more generalizing n with
  | zero =>
    have hall := Unbracketed.joined hsegments
    obtain ⟨k, hjava, hpython⟩ := firstFree_in_step (fun k : Nat =>
      (h.mem_taken_of_unbracketed (hall.append (Unbracketed.repr k))).symm) 2
    rw [leafName, leafName, hjava, hpython]
    exact ⟨hall.append (Unbracketed.repr k), rfl⟩
  | succ more ih =>
    have hlast : Unbracketed (joinLast n segments) :=
      Unbracketed.joined fun s hs => hsegments s (List.mem_of_mem_drop hs)
    simp only [leafName, h.mem_taken_of_unbracketed hlast]
    split
    · exact ih (n + 1)
    · exact ⟨hlast, rfl⟩

/-- A collection is given names that differ in their brackets. -/
theorem freeName_eq {element : String} (helement : JavaName element) :
    JavaName (freeName (java.policy.collectionNickname element) java.taken) ∧
      freeName (python.policy.collectionNickname (inPython element)) python.taken =
        inPython (freeName (java.policy.collectionNickname element) java.taken) := by
  have hjava := ImportPolicy.collectionNickname_java h.ofJava element
  have hpython := ImportPolicy.collectionNickname_python h.ofPython (inPython element)
  have hmark : ∀ mark : String, Unbracketed mark →
      JavaName ("List<" ++ element ++ ">" ++ mark) ∧
        inPython ("List<" ++ element ++ ">" ++ mark) = "list[" ++ inPython element ++ "]" ++ mark :=
    fun _ hmark => ⟨.collection helement hmark, inPython_collection element hmark⟩
  obtain ⟨hbare, hturned⟩ := hmark "" (by decide)
  rw [String.append_empty] at hbare
  rw [String.append_empty, String.append_empty] at hturned
  rw [hjava, hpython, ← hturned, freeName, freeName]
  simp only [h.mem_taken hbare]
  split
  · have hstep : ∀ k : Nat, "List<" ++ element ++ ">" ++ k.repr ∈ java.taken ↔
        inPython ("List<" ++ element ++ ">") ++ k.repr ∈ python.taken := by
      intro k
      obtain ⟨hnumbered, heq⟩ := hmark _ (Unbracketed.repr k)
      rw [hturned, ← heq, h.mem_taken hnumbered]
    obtain ⟨k, hfirst, hsecond⟩ := firstFree_in_step hstep 2
    obtain ⟨hnumbered, heq⟩ := hmark _ (Unbracketed.repr k)
    rw [hfirst, hsecond, heq, hturned]
    exact ⟨hnumbered, rfl⟩
  · exact ⟨hbare, rfl⟩

/-- A reservation keeps the tables in step. -/
theorem assign {t : TypeRef} (ht : ∀ u ∈ t.chain, Unbracketed u.identity) :
    Mirrors (java.assign t).2 (python.assign t).2 ∧ JavaName (java.assign t).1 ∧
      (python.assign t).1 = inPython (java.assign t).1 := by
  have hfound : ∀ {u : TypeRef} {name : String}, java.nickname? u = some name → JavaName name := by
    intro u name hname
    obtain ⟨entry, hentry, _, rfl⟩ := mem_entries_of_nickname hname
    exact h.names entry hentry
  induction t with
  | leaf kind identity =>
    rw [SymbolTable.assign, SymbolTable.assign, h.nickname?_eq]
    cases hname : java.nickname? (.leaf kind identity) with
    | some name => exact ⟨h, hfound hname, rfl⟩
    | none =>
      have hidentity : Unbracketed identity := ht _ (TypeRef.self_mem_chain _)
      obtain ⟨hplain, heq⟩ := h.leafName_eq hidentity.segments 1 (split '.' identity).length
      have hturned := inPython_of_unbracketed hplain
      have hrecord := h.record (t := .leaf kind identity) (.plain hplain) fun _ => hplain
      rw [hturned, ← heq] at hrecord
      exact ⟨heq ▸ hrecord, .plain hplain, heq.trans hturned.symm⟩
  | collection identity element ih =>
    rw [SymbolTable.assign, SymbolTable.assign, h.nickname?_eq]
    cases hname : java.nickname? (.collection identity element) with
    | some name => exact ⟨h, hfound hname, rfl⟩
    | none =>
      obtain ⟨hmirrors, helement, heq⟩ := ih fun u hu => ht u (List.mem_append_left _ hu)
      obtain ⟨hcollection, hturned⟩ := hmirrors.freeName_eq helement
      simp only [Option.map_none, heq, hturned]
      exact ⟨hmirrors.record hcollection (fun hnone => by cases hnone), hcollection, trivial⟩

theorem reserveAll {types : List TypeRef}
    (htypes : ∀ t ∈ types, ∀ u ∈ t.chain, Unbracketed u.identity) :
    Mirrors (java.reserveAll types) (python.reserveAll types) := by
  induction types generalizing java python with
  | nil => exact h
  | cons t rest ih =>
    obtain ⟨ht, hrest⟩ := List.forall_mem_cons.1 htypes
    have hcounted : Mirrors { java with requests := java.requests + 1 }
        { python with requests := python.requests + 1 } :=
      ⟨h.ofJava, h.ofPython, h.entries, h.names, h.leaves⟩
    exact ih (hcounted.assign ht).1 hrest

end Mirrors

/-- Views whose types have no brackets in their identities are accepted for Java and for Python, or
they are refused for the same reason.  If they are accepted, the tables have the same types in the
same order.  A leaf has one nickname in both.  Other nicknames differ in their brackets, and so does
whatever is looked up. -/
theorem nicknames_in_python (package : Option String) (client : String) {views : List OutputView}
    (hnames : ∀ t, Reached (referencesAll views) t → Unbracketed t.identity) :
    ((∃ java, (empty (.java package)).collect (.java package) views = .ok java) ↔
        ∃ python, (empty (.python client)).collect (.python client) views = .ok python) ∧
      (∀ e, (empty (.java package)).collect (.java package) views = .error e ↔
        (empty (.python client)).collect (.python client) views = .error e) ∧
      ∀ java python, (empty (.java package)).collect (.java package) views = .ok java →
        (empty (.python client)).collect (.python client) views = .ok python →
        python.entries = java.entries.map (fun entry => (entry.1, inPython entry.2)) ∧
          (∀ entry ∈ java.entries, entry.1.element? = none → inPython entry.2 = entry.2) ∧
          ∀ t, python.nickname? t = (java.nickname? t).map inPython := by
  have hreserved : ∀ t ∈ reservationsAll views, ∀ u ∈ t.chain, Unbracketed u.identity :=
    fun t ht u hu => hnames u
      ((OutputView.reached_of_mem_reservationsAll views t ht).of_mem_chain hu)
  have hreserve := (mirrors_empty package client).reserveAll hreserved
  refine ⟨?_, ?_, ?_⟩
  · simp only [collect_eq_ok, exists_and_left, exists_eq, and_true]
  · intro e
    rw [collect_eq_error, collect_eq_error]
  · intro java python hjava hpython
    obtain ⟨_, rfl⟩ := collect_eq_ok.1 hjava
    obtain ⟨_, rfl⟩ := collect_eq_ok.1 hpython
    have hmirrors : Mirrors ((empty (.java package)).flat (.java package) views)
        ((empty (.python client)).flat (.python client) views) := by
      rw [flat, flat, addImports_eq_plus, addImports_eq_plus]
      exact ⟨hreserve.ofJava, hreserve.ofPython, hreserve.entries, hreserve.names, hreserve.leaves⟩
    exact ⟨hmirrors.entries,
      fun entry hentry hleaf => inPython_of_unbracketed (hmirrors.leaves entry hentry hleaf),
      hmirrors.nickname?_eq⟩

/-- Two collections of books, one of them in another collection. -/
theorem nicknames_in_python_books :
    let book := TypeRef.leaf .message "a.Book"
    let shelves := TypeRef.collection "a.Shelves" (.collection "a.Shelf" book)
    let views : List OutputView :=
      [.define "b" (.collection "a.Books" book), .define "s" shelves]
    (∀ t, Reached (referencesAll views) t → Unbracketed t.identity) ∧
      ∃ java python, (empty (.java none)).collect (.java none) views = .ok java ∧
        (empty (.python "p")).collect (.python "p") views = .ok python ∧
        java.taken = ["Book", "List<Book>", "List<Book>2", "List<List<Book>2>"] ∧
        python.nickname? shelves = some (inPython "List<List<Book>2>") := by
  intro book shelves views
  have hnames : ∀ t, Reached (referencesAll views) t → Unbracketed t.identity := by
    intro t ht
    have hall : ∀ u ∈ (referencesAll views).flatMap TypeRef.chain, Unbracketed u.identity := by
      decide +kernel
    exact hall t (TypeRef.reached_iff.1 ht)
  have hjava : (empty (.java none)).collect (.java none) views =
      .ok ((empty (.java none)).flat (.java none) views) := collect_of_checked rfl
  have hpython : (empty (.python "p")).collect (.python "p") views =
      .ok ((empty (.python "p")).flat (.python "p") views) := collect_of_checked rfl
  obtain ⟨_, _, hsame⟩ := nicknames_in_python none "p" hnames
  obtain ⟨_, _, hlookup⟩ := hsame _ _ hjava hpython
  refine ⟨hnames, _, _, hjava, hpython, by decide +kernel, ?_⟩
  rw [hlookup shelves]
  have hfound : ((empty (.java none)).flat (.java none) views).nickname? shelves =
      some "List<List<Book>2>" := by decide +kernel
  rw [hfound]
  rfl

end SymbolTable

end SampleForge
