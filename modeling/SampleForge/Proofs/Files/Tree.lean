import SampleForge.Files.Tree
import SampleForge.Proofs.Outcome

/-!
# Files below a directory

What making directories and writing a file do to a tree, place by place.

The places below a directory are `Place.below`.  If no file is in the way (`Passable`) of plain
names, then making directories along them makes those that are missing and changes nothing else:
`FileTree.pave` is the tree afterwards, and `node?_pave` says what stands in it.  A file written
behind them stands where its names lead (`writeFile_eq`).
-/

namespace SampleForge

open Outcome

/-! ## Places below a place -/

namespace Place

/-- The place that names lead to from another, one below the other. -/
def below (place : Place) (names : List String) : Place := names.foldl child place

theorem below_nil (place : Place) : place.below [] = place := rfl

theorem below_cons (place : Place) (name : String) (names : List String) :
    place.below (name :: names) = (place.child name).below names := rfl

theorem below_append (place : Place) (first rest : List String) :
    place.below (first ++ rest) = (place.below first).below rest :=
  List.foldl_append ..

theorem names_below (place : Place) (names : List String) :
    (place.below names).names = place.names ++ names := by
  induction names generalizing place with
  | nil => simp [below]
  | cons name names ih => rw [below_cons, ih, names_child, List.append_assoc, List.singleton_append]

theorem below_inj {place : Place} {a b : List String} : place.below a = place.below b ↔ a = b := by
  constructor
  · intro h
    have hnames := congrArg Place.names h
    rw [names_below, names_below] at hnames
    exact List.append_cancel_left hnames
  · rintro rfl
    rfl

theorem child_ne_root (place : Place) (name : String) : place.child name ≠ .root := by
  intro h
  have hdepth := congrArg Place.depth h
  exact absurd hdepth (Nat.succ_ne_zero _)

theorem below_ne_root (place : Place) {names : List String} (h : names ≠ []) :
    place.below names ≠ .root := by
  intro heq
  have hnames := congrArg Place.names heq
  rw [names_below] at hnames
  exact h (List.append_eq_nil_iff.1 hnames).2

/-- The places on the way down along names, the last one included. -/
def steps (place : Place) : List String → List Place
  | [] => []
  | name :: names => place.child name :: steps (place.child name) names

theorem mem_steps {place p : Place} {names : List String} :
    p ∈ place.steps names ↔ ∃ first, first ≠ [] ∧ first <+: names ∧ p = place.below first := by
  induction names generalizing place with
  | nil =>
    constructor
    · intro h
      cases h
    · rintro ⟨first, hne, hstarts, _⟩
      exact absurd (List.prefix_nil.1 hstarts) hne
  | cons name names ih =>
    rw [steps, List.mem_cons, ih]
    constructor
    · rintro (rfl | ⟨first, _, hstarts, rfl⟩)
      · exact ⟨[name], by simp, by simp, rfl⟩
      · exact ⟨name :: first, by simp, List.cons_prefix_cons.2 ⟨rfl, hstarts⟩, rfl⟩
    · rintro ⟨first, hne, hstarts, rfl⟩
      obtain ⟨head, tail, rfl⟩ := List.exists_cons_of_ne_nil hne
      obtain ⟨rfl, htail⟩ := List.cons_prefix_cons.1 hstarts
      by_cases hnil : tail = []
      · subst hnil
        exact .inl rfl
      · exact .inr ⟨tail, hnil, htail, rfl⟩

theorem below_mem_steps {place : Place} {names others : List String} (h : names ≠ []) :
    place.below names ∈ place.steps others ↔ names <+: others := by
  rw [mem_steps]
  constructor
  · rintro ⟨first, _, hstarts, heq⟩
    rw [below_inj.1 heq]
    exact hstarts
  · intro hstarts
    exact ⟨names, h, hstarts, rfl⟩

end Place

namespace FileTree

/-! ## Walks -/

/-- Names that a walk goes down by. -/
def Plain (names : List String) : Prop := ∀ name ∈ names, name ≠ ".." ∧ name.utf8ByteSize ≤ 255

theorem Plain.tail {name : String} {names : List String} (h : Plain (name :: names)) :
    Plain names :=
  fun other hother => h other (List.mem_cons_of_mem _ hother)

theorem Plain.single {name : String} {names : List String} (h : Plain (name :: names)) :
    Plain [name] := by
  intro other hother
  rw [List.mem_singleton.1 hother]
  exact h name List.mem_cons_self

theorem walk_append (tree : FileTree) (place : Place) (first rest : List String) :
    tree.walk place (first ++ rest) =
      (tree.walk place first >>= fun middle => tree.walk middle rest) := by
  induction first generalizing place with
  | nil => rfl
  | cons segment first ih =>
    simp only [List.cons_append, walk]
    split
    · rfl
    · rfl
    · split
      · exact ih _
      · split
        · rfl
        · exact ih _

theorem walk_cons {tree : FileTree} {place : Place} {name : String} {names : List String}
    (hplace : tree.node? place = some .directory) (hplain : Plain (name :: names)) :
    tree.walk place (name :: names) = tree.walk (place.child name) names := by
  obtain ⟨hup, hsize⟩ := hplain name List.mem_cons_self
  rw [walk, hplace]
  simp [hup, Nat.not_lt.2 hsize]

/-- A walk that leads to a directory starts at one. -/
theorem directory_of_walk {tree : FileTree} {start place : Place} {segments : List String}
    (hwalk : tree.walk start segments = .ok place) (hplace : tree.node? place = some .directory) :
    tree.node? start = some .directory := by
  cases segments with
  | nil =>
    cases hwalk
    exact hplace
  | cons segment segments =>
    rw [walk] at hwalk
    split at hwalk
    · cases hwalk
    · cases hwalk
    · assumption

/-- A walk stays possible as long as no directory is lost. -/
theorem walk_mono {tree other : FileTree}
    (hkept : ∀ p, tree.node? p = some .directory → other.node? p = some .directory)
    {start place : Place} {segments : List String}
    (hwalk : tree.walk start segments = .ok place) : other.walk start segments = .ok place := by
  induction segments generalizing start with
  | nil => exact hwalk
  | cons segment segments ih =>
    rw [walk] at hwalk ⊢
    split at hwalk
    · cases hwalk
    · cases hwalk
    · rename_i hstart
      rw [hkept start hstart]
      split at hwalk
      · rename_i hup
        simp only [hup, if_true]
        exact ih hwalk
      · rename_i hup
        split at hwalk
        · cases hwalk
        · rename_i hsize
          simp only [hup, hsize, if_false]
          exact ih hwalk

/-- A walk is refused at a name that is too long. -/
theorem size_of_walk {tree : FileTree} {place target : Place} {segments : List String}
    (hwalk : tree.walk place segments = .ok target) {name : String} (hname : name ∈ segments)
    (hup : name ≠ "..") : name.utf8ByteSize ≤ 255 := by
  induction segments generalizing place with
  | nil => cases hname
  | cons segment segments ih =>
    rw [walk] at hwalk
    split at hwalk
    · cases hwalk
    · cases hwalk
    · rcases List.mem_cons.1 hname with rfl | hname
      · rw [if_neg hup] at hwalk
        split at hwalk
        · cases hwalk
        · rename_i hsize
          exact Nat.not_lt.1 hsize
      · split at hwalk
        · exact ih hwalk hname
        · split at hwalk
          · cases hwalk
          · exact ih hwalk hname

/-- A walk goes down as far as there are directories, and one name further. -/
theorem walk_below {tree : FileTree} {place : Place} {names : List String} (hplain : Plain names)
    (hdirectories : ∀ first, first <+: names → first ≠ names →
      tree.node? (place.below first) = some .directory) :
    tree.walk place names = .ok (place.below names) := by
  induction names generalizing place with
  | nil => rfl
  | cons name names ih =>
    have hplace : tree.node? place = some .directory :=
      hdirectories [] List.nil_prefix (by simp)
    rw [walk_cons hplace hplain]
    refine ih hplain.tail ?_
    intro first hstarts hne
    exact hdirectories (name :: first) (List.cons_prefix_cons.2 ⟨rfl, hstarts⟩) (by simp [hne])

/-- A walk that does not go up ends below its start. -/
theorem below_of_walk {tree : FileTree} {place target : Place} {names : List String}
    (hup : ∀ name ∈ names, name ≠ "..") (hwalk : tree.walk place names = .ok target) :
    target = place.below names := by
  induction names generalizing place with
  | nil =>
    cases hwalk
    rfl
  | cons name names ih =>
    obtain ⟨hname, hnames⟩ := List.forall_mem_cons.1 hup
    rw [walk] at hwalk
    split at hwalk
    · cases hwalk
    · cases hwalk
    · rw [if_neg hname] at hwalk
      split at hwalk
      · cases hwalk
      · exact ih hnames hwalk

/-- A route that does not go up passes its start and the places on the way down. -/
theorem route_eq {place : Place} {names : List String} (hup : ∀ name ∈ names, name ≠ "..") :
    route place names = place :: place.steps names := by
  induction names generalizing place with
  | nil => rfl
  | cons name names ih =>
    obtain ⟨hname, hnames⟩ := List.forall_mem_cons.1 hup
    rw [route, if_neg hname, ih hnames]
    rfl

/-! ## Making directories -/

/-- No file stands on the way down along names. -/
def Passable (tree : FileTree) (place : Place) : List String → Prop
  | [] => True
  | name :: names =>
      (∀ bytes, tree.node? (place.child name) ≠ some (.file bytes)) ∧
        tree.Passable (place.child name) names

theorem passable_iff {tree : FileTree} {place : Place} {names : List String} :
    tree.Passable place names ↔
      ∀ p ∈ place.steps names, ∀ bytes, tree.node? p ≠ some (.file bytes) := by
  induction names generalizing place with
  | nil => simp [Passable, Place.steps]
  | cons name names ih => rw [Passable, Place.steps, List.forall_mem_cons, ih]

/-- The tree with a directory at each place on the way down along names where nothing stands. -/
def pave (tree : FileTree) (place : Place) : List String → FileTree
  | [] => tree
  | name :: names =>
      match tree.node? (place.child name) with
      | some _ => tree.pave (place.child name) names
      | none => (tree.put (place.child name) .directory).pave (place.child name) names

theorem pave_append (tree : FileTree) (place : Place) (first rest : List String) :
    tree.pave place (first ++ rest) = (tree.pave place first).pave (place.below first) rest := by
  induction first generalizing tree place with
  | nil => rfl
  | cons name first ih =>
    rw [List.cons_append, pave, pave, Place.below_cons]
    split
    · exact ih tree _
    · exact ih (tree.put _ .directory) _

theorem here_pave (tree : FileTree) (place : Place) (names : List String) :
    (tree.pave place names).here = tree.here := by
  induction names generalizing tree place with
  | nil => rfl
  | cons name names ih =>
    rw [pave]
    split
    · exact ih tree _
    · exact ih (tree.put _ .directory) _

/-- What stands in a paved tree. -/
theorem node?_pave (tree : FileTree) (place : Place) (names : List String) (p : Place) :
    (tree.pave place names).node? p =
      if p ∈ place.steps names then some ((tree.node? p).getD .directory) else tree.node? p := by
  induction names generalizing tree place with
  | nil => simp [pave, Place.steps]
  | cons name names ih =>
    rw [pave, Place.steps]
    by_cases hp : p = place.child name
    · subst hp
      cases hnode : tree.node? (place.child name) with
      | some node => simp [ih, hnode]
      | none => simp [ih, node?_put_self tree .directory (Place.child_ne_root place name)]
    · cases hnode : tree.node? (place.child name) with
      | some node => simp [ih, hp]
      | none => simp [ih, hp, node?_put_of_ne tree .directory hp]

theorem directory_pave {tree : FileTree} {p : Place} (h : tree.node? p = some .directory)
    (place : Place) (names : List String) : (tree.pave place names).node? p = some .directory := by
  rw [node?_pave, h]
  simp

/-- Where no file was in the way, there is a directory now. -/
theorem Passable.node?_pave {tree : FileTree} {place : Place} {names : List String}
    (h : tree.Passable place names) (p : Place) :
    (tree.pave place names).node? p =
      if p ∈ place.steps names then some .directory else tree.node? p := by
  rw [FileTree.node?_pave]
  split
  · rename_i hp
    cases hnode : tree.node? p with
    | none => rfl
    | some node =>
      cases node with
      | directory => rfl
      | file bytes => exact absurd hnode (passable_iff.1 h p hp bytes)
  · rfl

/-- A paved way can be walked to its end, and one name further. -/
theorem Passable.walk_pave {tree : FileTree} {place : Place} {names : List String} {last : String}
    (h : tree.Passable place names) (hplace : tree.node? place = some .directory)
    (hplain : Plain (names ++ [last])) :
    (tree.pave place names).walk place (names ++ [last]) =
      .ok (place.below (names ++ [last])) := by
  refine walk_below hplain fun first hstarts hne => ?_
  rcases List.prefix_concat_iff.1 hstarts with hself | hstarts
  · exact absurd hself hne
  · by_cases hnil : first = []
    · subst hnil
      exact directory_pave hplace place names
    · rw [h.node?_pave, if_pos ((Place.below_mem_steps hnil).2 hstarts)]

theorem Passable.put_directory {tree : FileTree} {place : Place} {names : List String}
    (h : tree.Passable place names) {made : Place} (hmade : made ≠ .root) :
    (tree.put made .directory).Passable place names := by
  rw [passable_iff] at h ⊢
  intro p hp bytes
  by_cases heq : p = made
  · subst heq
    rw [node?_put_self tree .directory hmade]
    simp
  · rw [node?_put_of_ne tree .directory heq]
    exact h p hp bytes

/-- Where a directory stands, it is accepted for the one that could not be made. -/
theorem directoryOr_eq {tree : FileTree} {start place : Place} {segments : List String}
    (hwalk : tree.walk start segments = .ok place) (hplace : tree.node? place = some .directory)
    (fault : SystemFault) : tree.directoryOr start segments fault = .ok place := by
  rw [directoryOr, hwalk]
  simp [hplace]

theorem makeDirectory_of_some {tree : FileTree} {start place : Place} {segments : List String}
    (hwalk : tree.walk start segments = .ok place) {node : Node}
    (hplace : tree.node? place = some node) :
    tree.makeDirectory start segments = .error .alreadyExists := by
  rw [makeDirectory, hwalk, bind_ok, hplace]

theorem makeDirectory_of_none {tree : FileTree} {start place : Place} {segments : List String}
    (hwalk : tree.walk start segments = .ok place) (hplace : tree.node? place = none) :
    tree.makeDirectory start segments = .ok (tree.put place .directory, place) := by
  rw [makeDirectory, hwalk, bind_ok, hplace]
  rfl

/-- Directories that are there already are passed. -/
theorem makeEach_of_walk {tree : FileTree} {start place : Place} {segments : List String}
    (hwalk : tree.walk start segments = .ok place) (hplace : tree.node? place = some .directory)
    (names : List String) :
    tree.makeEach start (segments ++ names) = tree.makeEach place names := by
  induction segments generalizing start with
  | nil =>
    cases hwalk
    rfl
  | cons segment segments ih =>
    rw [← List.singleton_append, walk_append] at hwalk
    obtain ⟨next, hnext, hrest⟩ := bind_eq_ok.1 hwalk
    have hdirectory := directory_of_walk hrest hplace
    rw [List.cons_append, makeEach, makeDirectory_of_some hnext hdirectory]
    simp only [directoryOr_eq hnext hdirectory]
    exact ih hrest

/-- One by one, the directories along plain names that no file blocks are made. -/
theorem makeEach_eq {tree : FileTree} {place : Place} {names : List String}
    (hplace : tree.node? place = some .directory) (hplain : Plain names)
    (hpassable : tree.Passable place names) :
    tree.makeEach place names = (tree.pave place names, none) := by
  induction names generalizing tree place with
  | nil => rfl
  | cons name names ih =>
    obtain ⟨hnofile, hrest⟩ := hpassable
    have hwalk : tree.walk place [name] = .ok (place.child name) := walk_cons hplace hplain.single
    rw [makeEach, pave]
    cases hnode : tree.node? (place.child name) with
    | none =>
      rw [makeDirectory_of_none hwalk hnode]
      exact ih (node?_put_self tree .directory (Place.child_ne_root place name)) hplain.tail
        (hrest.put_directory (Place.child_ne_root place name))
    | some node =>
      cases node with
      | file bytes => exact absurd hnode (hnofile bytes)
      | directory =>
        rw [makeDirectory_of_some hwalk hnode]
        simp only [directoryOr_eq hwalk hnode]
        exact ih hnode hplain.tail hrest

/-- If the walk along names succeeds, then at most the last directory is missing. -/
theorem pave_of_walk {tree : FileTree} {place target : Place} {names : List String}
    (hplace : tree.node? place = some .directory) (hplain : Plain names)
    (hpassable : tree.Passable place names) (hwalk : tree.walk place names = .ok target) :
    (tree.node? target = none ∧ tree.pave place names = tree.put target .directory) ∨
      (tree.node? target = some .directory ∧ tree.pave place names = tree) := by
  induction names generalizing place with
  | nil =>
    cases hwalk
    exact .inr ⟨hplace, rfl⟩
  | cons name names ih =>
    obtain ⟨hnofile, hrest⟩ := hpassable
    rw [walk_cons hplace hplain] at hwalk
    rw [pave]
    cases hnode : tree.node? (place.child name) with
    | some node =>
      cases node with
      | file bytes => exact absurd hnode (hnofile bytes)
      | directory =>
        exact ih hnode hplain.tail hrest hwalk
    | none =>
      cases names with
      | nil =>
        cases hwalk
        exact .inl ⟨hnode, rfl⟩
      | cons next names =>
        rw [walk, hnode] at hwalk
        cases hwalk

/-- A walk along plain names that no file blocks fails at most for a missing directory. -/
theorem walk_passable {tree : FileTree} {place : Place} {names : List String}
    (hplace : tree.node? place = some .directory) (hplain : Plain names)
    (hpassable : tree.Passable place names) :
    (∃ target, tree.walk place names = .ok target) ∨ tree.walk place names = .error .notFound := by
  induction names generalizing place with
  | nil => exact .inl ⟨place, rfl⟩
  | cons name names ih =>
    obtain ⟨hnofile, hrest⟩ := hpassable
    rw [walk_cons hplace hplain]
    cases hnode : tree.node? (place.child name) with
    | some node =>
      cases node with
      | file bytes => exact absurd hnode (hnofile bytes)
      | directory => exact ih hnode hplain.tail hrest
    | none =>
      cases names with
      | nil => exact .inl ⟨_, rfl⟩
      | cons next names =>
        rw [walk, hnode]
        exact .inr rfl

/-- Making directories below a directory makes those that are missing. -/
theorem makeDirectories_eq {tree : FileTree} {path : String} {segments names : List String}
    {place : Place} (hcheck : checkPath path = .ok ())
    (hsegments : Path.segments path = segments ++ names)
    (hwalk : tree.walk (tree.start path) segments = .ok place)
    (hplace : tree.node? place = some .directory) (hplain : Plain names)
    (hpassable : tree.Passable place names) :
    tree.makeDirectories path = (tree.pave place names, none) := by
  have hwhole : tree.walk (tree.start path) (segments ++ names) = tree.walk place names := by
    rw [walk_append, hwalk, bind_ok]
  rw [makeDirectories, hcheck, hsegments]
  rcases walk_passable hplace hplain hpassable with ⟨target, htarget⟩ | hmissing
  · have htarget' := hwhole.trans htarget
    rcases pave_of_walk hplace hplain hpassable htarget with ⟨hnone, hpave⟩ | ⟨hsome, hpave⟩
    · simp only [makeDirectory_of_none htarget' hnone, hpave]
    · simp only [makeDirectory_of_some htarget' hsome, directoryOr_eq htarget' hsome, hpave]
  · have hmake : tree.makeDirectory (tree.start path) (segments ++ names) = .error .notFound := by
      rw [makeDirectory, hwhole, hmissing, bind_error]
    simp only [hmake, makeEach_of_walk hwalk hplace, makeEach_eq hplace hplain hpassable]

/-! ## Writing -/

theorem locate_eq {tree : FileTree} {path : String} {place : Place}
    (hcheck : checkPath path = .ok ()) (hpath : path ≠ "")
    (hwalk : tree.walk (tree.start path) (Path.segments path) = .ok place) :
    tree.locate path = .ok place := by
  rw [locate, hcheck, bind_ok, if_neg hpath, hwalk]

theorem walk_of_locate {tree : FileTree} {path : String} {place : Place}
    (h : tree.locate path = .ok place) :
    checkPath path = .ok () ∧ tree.walk (tree.start path) (Path.segments path) = .ok place := by
  rw [locate, check_bind_eq_ok] at h
  obtain ⟨hcheck, hwalk⟩ := h
  split at hwalk
  · cases hwalk
  · exact ⟨hcheck, hwalk⟩

/-- A file is written where a path leads. -/
theorem locate_of_writeFile {tree after : FileTree} {path : String} {bytes : List UInt8}
    (h : tree.writeFile path bytes = .ok after) : ∃ place, tree.locate path = .ok place := by
  rw [writeFile, updateFile, bind_eq_ok] at h
  obtain ⟨place, hlocate, _⟩ := h
  exact ⟨place, hlocate⟩

/-- A file is written where nothing stands. -/
theorem writeFile_eq {tree : FileTree} {path : String} {place : Place}
    (hlocate : tree.locate path = .ok place) (hplace : tree.node? place = none)
    (hfile : Path.wantsDirectory path = false) (bytes : List UInt8) :
    tree.writeFile path bytes = .ok (tree.put place (.file bytes)) := by
  rw [writeFile, updateFile, hlocate, bind_ok, hplace]
  simp [hfile]

/-- A file is read where it stands. -/
theorem readFile_eq {tree : FileTree} {path : String} {place : Place} {bytes : List UInt8}
    (hlocate : tree.locate path = .ok place) (hplace : tree.node? place = some (.file bytes))
    (hfile : Path.wantsDirectory path = false) : tree.readFile path = .ok bytes := by
  rw [readFile, find, hlocate, bind_ok, hplace]
  simp [hfile]

theorem checkPath_of_append {path rest : String} (h : checkPath (path ++ rest) = .ok ()) :
    checkPath path = .ok () := by
  simp only [checkPath, String.toList_append, List.any_append, String.utf8ByteSize_append] at h ⊢
  split at h
  · cases h
  · rename_i hzero
    split at h
    · cases h
    · rename_i hlength
      rw [Bool.not_eq_true, Bool.or_eq_false_iff] at hzero
      rw [if_neg (by simp [hzero.1]), if_neg (by omega)]

end FileTree

end SampleForge
