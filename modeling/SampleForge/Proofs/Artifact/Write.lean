import SampleForge.Proofs.Artifact.Targets
import SampleForge.Proofs.Files.Filling
import SampleForge.Proofs.Files.Path

/-!
# What is written

If the files of a map can stand beside one another, then all of them are written, each at its normal
path with its bytes, and nothing else is (`Filled`).  If they cannot, then nothing is written.

One file is laid beside those before it (`writeOne_eq`, `Filled.put`), and so are all files in turn
(`writeTargets_filled`).  The file system has its limits (`Accepts`).  Within these it refuses
nothing, and beyond these it writes nothing (`accepts_of_writeTo`).
-/

namespace SampleForge.ArtifactMap

open FileTree (Aside EmptyAt Filled Plain checkPath)
open OutputPath (normalForm normalForm_eq normalize)
open Outcome
open Text (split)

/-- What a file system asks of a normal path below a directory: no zero, and nothing too long. -/
structure Accepts (root path : String) : Prop where
  /-- The whole path is accepted. -/
  whole : checkPath (Path.join root path) = .ok ()
  /-- Each of its names is short enough. -/
  names : ∀ name ∈ split '/' path, name.utf8ByteSize ≤ 255

instance (root path : String) : Decidable (Accepts root path) :=
  decidable_of_iff
    (checkPath (Path.join root path) = .ok () ∧ ∀ name ∈ split '/' path, name.utf8ByteSize ≤ 255)
    ⟨fun h => ⟨h.1, h.2⟩, fun h => ⟨h.1, h.2⟩⟩

/-! ## One file -/

section One

variable {tree : FileTree} {root path : String} {place : Place} {first : List String}
  {last : String}

theorem Accepts.plain (h : Accepts root path) (hnormal : normalize path = .ok path) :
    Plain (split '/' path) :=
  fun name hname => ⟨(OutputPath.piece_of_normalize hnormal hname).2, h.names name hname⟩

/-- A normal path seen from a directory leads where its pieces do from there. -/
theorem locate_join (hwalk : tree.walk (tree.start root) (Path.segments root) = .ok place)
    (hnormal : normalize path = .ok path) (haccepts : Accepts root path) {target : Place}
    (hway : tree.walk place (split '/' path) = .ok target) :
    tree.locate (Path.join root path) = .ok target := by
  have hrelative := OutputPath.isAbsolute_of_normalize hnormal
  obtain ⟨first, last, hsplit, hlast⟩ := OutputPath.last_of_normalize hnormal
  have hstart : tree.start (Path.join root path) = tree.start root := by
    rw [FileTree.start, Path.isAbsolute_join root hrelative]
    rfl
  refine FileTree.locate_eq haccepts.whole (Path.join_ne_empty root hrelative hsplit hlast) ?_
  rw [hstart, Path.segments_join root hrelative, ← OutputPath.split_of_normalize hnormal,
    FileTree.walk_append, hwalk, bind_ok, hway]

theorem wantsDirectory_join (root : String) (hnormal : normalize path = .ok path) :
    Path.wantsDirectory (Path.join root path) = false := by
  obtain ⟨first, last, hsplit, hlast⟩ := OutputPath.last_of_normalize hnormal
  exact Path.wantsDirectory_join root (OutputPath.isAbsolute_of_normalize hnormal) hsplit hlast

/-- The directories above a file are made, with those above the directory that it is seen from. -/
theorem makeDirectories_above {base : Place} {segments names : List String}
    (hsegments : Path.segments root = segments ++ names)
    (hwalk : tree.walk (tree.start root) segments = .ok base)
    (hbase : tree.node? base = some .directory) (hnames : Plain names)
    (hnormal : normalize path = .ok path) (haccepts : Accepts root path)
    (hsplit : split '/' path = first ++ [last]) (hpassable : tree.Passable base (names ++ first)) :
    tree.makeDirectories ((Path.parent? (Path.join root path)).getD "") =
      (tree.pave base (names ++ first), none) := by
  have hfirst : ∀ s ∈ first, s ∈ split '/' path := by
    intro s hs
    rw [hsplit]
    exact List.mem_append_left _ hs
  have hlast : last ∈ split '/' path := hsplit ▸ List.mem_concat_self
  obtain ⟨parent, hparent, hway, habsolute, rest, hrest⟩ :=
    Path.parent?_join root (OutputPath.isAbsolute_of_normalize hnormal) hsplit
      (OutputPath.piece_of_normalize hnormal hlast).1
  rw [Path.real_eq_self fun s hs => (OutputPath.piece_of_normalize hnormal (hfirst s hs)).1,
    hsegments, List.append_assoc] at hway
  have hstart : tree.start parent = tree.start root := by
    rw [FileTree.start, habsolute]
    rfl
  have hplain : Plain (names ++ first) :=
    List.forall_mem_append.2 ⟨hnames, fun s hs => haccepts.plain hnormal s (hfirst s hs)⟩
  rw [hparent, Option.getD_some]
  exact FileTree.makeDirectories_eq (FileTree.checkPath_of_append (hrest ▸ haccepts.whole)) hway
    (hstart ▸ hwalk) hbase hplain hpassable

/-- A file is laid where its normal path leads, and so are the directories above it. -/
theorem writeOne_eq (hwalk : tree.walk (tree.start root) (Path.segments root) = .ok place)
    (hplace : tree.node? place = some .directory) (hnormal : normalize path = .ok path)
    (haccepts : Accepts root path) (hsplit : split '/' path = first ++ [last])
    (hpassable : tree.Passable place first)
    (hfree : tree.node? (place.below (first ++ [last])) = none) (bytes : List UInt8) :
    writeOne tree (Path.join root path) bytes =
      ((tree.pave place first).put (place.below (first ++ [last])) (.file bytes), none) := by
  have hplain : Plain (first ++ [last]) := hsplit ▸ haccepts.plain hnormal
  have hdirectories : tree.makeDirectories ((Path.parent? (Path.join root path)).getD "") =
      (tree.pave place first, none) :=
    makeDirectories_above (List.append_nil _).symm hwalk hplace (List.forall_mem_nil _) hnormal
      haccepts hsplit hpassable
  -- The file itself.
  have hroot : (tree.pave place first).walk ((tree.pave place first).start root)
      (Path.segments root) = .ok place := by
    rw [FileTree.start, FileTree.here_pave]
    exact FileTree.walk_mono (fun p hp => FileTree.directory_pave hp place first) hwalk
  have hlocate : (tree.pave place first).locate (Path.join root path) =
      .ok (place.below (first ++ [last])) :=
    locate_join hroot hnormal haccepts (hsplit ▸ hpassable.walk_pave hplace hplain)
  have hempty : (tree.pave place first).node? (place.below (first ++ [last])) = none := by
    rw [hpassable.node?_pave, if_neg, hfree]
    rw [Place.below_mem_steps (by simp)]
    intro hstarts
    exact absurd hstarts.length_le (by simp)
  rw [writeOne, hdirectories]
  simp only [FileTree.writeFile_eq hlocate hempty (wantsDirectory_join root hnormal) bytes]

end One

/-! ## All files -/

/-- An empty directory that a path leads to. -/
structure EmptyRoot (tree : FileTree) (root : String) (place : Place) : Prop extends
    EmptyAt tree place where
  /-- The path leads there. -/
  leads : tree.walk (tree.start root) (Path.segments root) = .ok place

/-- A file by the names that lead to it, and its bytes. -/
def spot (file : String × Target) : List String × List UInt8 :=
  (split '/' file.1, file.2.content.bytes)

section Run

variable {before tree : FileTree} {root : String} {place : Place}
  {laid : List (List String × List UInt8)} (hroot : EmptyRoot before root place)

include hroot

/-- The directory is still there. -/
theorem EmptyRoot.leads_filled (h : Filled before place laid tree) :
    tree.walk (tree.start root) (Path.segments root) = .ok place := by
  rw [FileTree.start, h.here]
  exact FileTree.walk_mono (fun p hp => h.keeps hroot.toEmptyAt hp) hroot.leads

/-- One file is laid beside those before it. -/
theorem next_filled {done : Written} (h : Filled before place laid done.tree)
    {file : String × Target} (hnormal : normalize file.1 = .ok file.1)
    (haccepts : Accepts root file.1) (haside : ∀ other ∈ laid, Aside other.1 (spot file).1) :
    Filled before place (laid ++ [spot file]) (done.next root file).tree ∧
      (done.next root file).refusal = none ∧
      (done.next root file).paths = done.paths ++ [Path.join root file.1] := by
  obtain ⟨first, last, hsplit, _⟩ := OutputPath.last_of_normalize hnormal
  rw [spot, hsplit] at haside ⊢
  have hwrite := writeOne_eq (hroot.leads_filled h) (h.keeps hroot.toEmptyAt hroot.directory)
    hnormal haccepts hsplit (h.passable haside) (h.free haside) file.2.content.bytes
  unfold Written.next
  rw [hwrite]
  exact ⟨h.put haside file.2.content.bytes, rfl, rfl⟩

/-- All files are laid beside one another, and none is refused. -/
theorem writeTargets_filled {rest : List (String × Target)} {done : Written}
    (h : Filled before place laid done.tree) (hrefusal : done.refusal = none)
    (hnormal : ∀ file ∈ rest, normalize file.1 = .ok file.1)
    (haccepts : ∀ file ∈ rest, Accepts root file.1)
    (haside : (laid ++ rest.map spot).Pairwise fun a b => Aside a.1 b.1) :
    Filled before place (laid ++ rest.map spot) (writeTargets root done rest).tree ∧
      (writeTargets root done rest).result = .ok (done.paths.length + rest.length) := by
  induction rest generalizing done laid with
  | nil =>
    rw [List.map_nil, List.append_nil, writeTargets, Written.result, hrefusal]
    exact ⟨h, rfl⟩
  | cons file rest ih =>
    rw [List.forall_mem_cons] at hnormal haccepts
    rw [List.map_cons, ← List.singleton_append, ← List.append_assoc] at haside ⊢
    have hbefore : ∀ other ∈ laid, Aside other.1 (spot file).1 := by
      intro other hother
      have hfirst := (List.pairwise_append.1 haside).1
      exact (List.pairwise_append.1 hfirst).2.2 other hother _ List.mem_cons_self
    obtain ⟨hnext, hnone, hpaths⟩ := next_filled hroot h hnormal.1 haccepts.1 hbefore
    obtain ⟨hfilled, hresult⟩ := ih hnext hnone hnormal.2 haccepts.2 haside
    rw [writeTargets, if_pos hnone]
    refine ⟨hfilled, ?_⟩
    rw [hresult, hpaths, List.length_append, List.length_singleton, List.length_cons,
      Nat.add_assoc, Nat.add_comm 1]

/-- A file that has been laid is read under its path. -/
theorem readFile_filled (h : Filled before place laid tree) {path : String} {bytes : List UInt8}
    (hnormal : normalize path = .ok path) (haccepts : Accepts root path)
    (hmem : (split '/' path, bytes) ∈ laid) :
    tree.readFile (Path.join root path) = .ok bytes := by
  have hway : tree.walk place (split '/' path) = .ok (place.below (split '/' path)) := by
    refine FileTree.walk_below (haccepts.plain hnormal) fun first hstarts hother => ?_
    by_cases hnil : first = []
    · subst hnil
      exact h.keeps hroot.toEmptyAt hroot.directory
    · exact (h.directory first hnil).2 ⟨_, hmem, hstarts, hother⟩
  have hfile := (h.file _ bytes (Text.split_ne_nil '/' path)).2 hmem
  exact FileTree.readFile_eq (locate_join (hroot.leads_filled h) hnormal haccepts hway) hfile
    (wantsDirectory_join root hnormal)

end Run

/-! ## The files of a map -/

/-- The files of a map by the names of their normal paths, one for each entry. -/
def spots (files : ArtifactMap) : List (List String × List UInt8) :=
  files.toList.map fun file => (split '/' (normalForm file.1), file.2.bytes)

/-- A tree in which the files of a map have been written below a place since it was as before. -/
structure IsWriting (files : ArtifactMap) (before : FileTree) (root : String) (place : Place)
    (after : FileTree) : Prop where
  /-- The files of the map and the directories above them are all that stands there. -/
  filled : Filled before place files.spots after
  /-- No two of them stand at one place. -/
  distinct : (files.spots.map (·.1)).Nodup
  /-- Each is read under its normal path with its own bytes. -/
  read : ∀ key content path, files.get? key = some content → normalize key = .ok path →
    after.readFile (Path.join root path) = .ok content.bytes

section Map

variable {files : ArtifactMap} (h : files.Writable)

include h

theorem Writable.mem_settled {file : String × Target} :
    file ∈ files.settled.toList ↔ file ∈ files.toList.map settle := by
  rw [← KeyMap.get?_eq_some, settled,
    KeyMap.get?_insertAll (fresh_settle h.normalizes h.distinct)]
  simp

theorem Writable.mem_spots {entry : List String × List UInt8} :
    entry ∈ files.settled.toList.map spot ↔ entry ∈ files.spots := by
  have hspots : files.spots = (files.toList.map settle).map spot := by
    rw [List.map_map]
    rfl
  rw [hspots, List.mem_map, List.mem_map]
  simp only [h.mem_settled]

theorem Writable.key_of_mem {file : String × Target} (hfile : file ∈ files.settled.toList) :
    ∃ key ∈ files.keys, normalize key = .ok file.1 :=
  (mem_keys_settled h.normalizes h.distinct).1 (List.mem_map_of_mem hfile)

theorem Writable.not_prefix {a b : String × Target} (ha : a ∈ files.settled.toList)
    (hb : b ∈ files.settled.toList) (hne : a.1 ≠ b.1) : ¬ (spot a).1 <+: (spot b).1 := by
  obtain ⟨first, hfirst, hpath⟩ := h.key_of_mem ha
  obtain ⟨second, hsecond, hother⟩ := h.key_of_mem hb
  intro hstarts
  rcases OutputPath.prefix_split_iff.1 hstarts with heq | hdirectory
  · exact hne heq
  · exact h.unnested _ hfirst _ hsecond _ _ hpath hother hdirectory

/-- No file to write is on the way to another. -/
theorem Writable.aside :
    (files.settled.toList.map spot).Pairwise fun a b => Aside a.1 b.1 := by
  rw [List.pairwise_map]
  refine files.settled.ascending.imp_of_mem fun {a b} ha hb hlt => ?_
  have hne : a.1 ≠ b.1 := fun heq => String.lt_irrefl _ (heq ▸ hlt)
  exact ⟨h.not_prefix ha hb hne, h.not_prefix hb ha hne.symm⟩

theorem Writable.size_settled : files.settled.toList.length = files.size := by
  have hlength := (keys_settled_perm h.normalizes h.distinct).length_eq
  simpa [KeyMap.keys, KeyMap.size] using hlength

theorem Writable.nodup_spots : (files.spots.map (·.1)).Nodup := by
  have hspots : files.spots.map (·.1) = (files.keys.map normalForm).map (split '/') := by
    rw [spots, KeyMap.keys, List.map_map, List.map_map, List.map_map]
    rfl
  rw [hspots]
  exact ((OutputPath.nodup_normalForm h.normalizes).2 h.distinct).map
    fun _ _ => OutputPath.split_inj.1

end Map

/-! ## Limits of the file system -/

section Limits

variable {root : String}

/-- Files that are refused leave the tree as it is. -/
theorem writeTo_of_targets {files : ArtifactMap} {tree : FileTree} {e : GenerationError}
    (h : files.targets = .error e) : files.writeTo tree root = (tree, .error e) := by
  rw [writeTo, write, h, bind_error]

/-- A file that is written has a path that the file system accepts. -/
theorem accepts_of_writeOne {tree : FileTree} {path : String} {bytes : List UInt8}
    (hnormal : normalize path = .ok path)
    (h : (writeOne tree (Path.join root path) bytes).2 = none) : Accepts root path := by
  have hfile : ∃ before after : FileTree,
      before.writeFile (Path.join root path) bytes = .ok after := by
    rw [writeOne] at h
    split at h
    · cases h
    · split at h
      · exact ⟨_, _, ‹_›⟩
      · cases h
  obtain ⟨before, after, hwrite⟩ := hfile
  obtain ⟨place, hlocate⟩ := FileTree.locate_of_writeFile hwrite
  obtain ⟨hcheck, hwalk⟩ := FileTree.walk_of_locate hlocate
  refine ⟨hcheck, fun name hname => ?_⟩
  have hmem : name ∈ Path.segments (Path.join root path) := by
    rw [Path.segments_join root (OutputPath.isAbsolute_of_normalize hnormal),
      ← OutputPath.split_of_normalize hnormal]
    exact List.mem_append_right _ hname
  exact FileTree.size_of_walk hwalk hmem (OutputPath.piece_of_normalize hnormal hname).2

theorem writeOne_of_next {done : Written} {file : String × Target}
    (h : (done.next root file).refusal = none) :
    (writeOne done.tree (Path.join root file.1) file.2.content.bytes).2 = none := by
  unfold Written.next at h
  rcases hwrite : writeOne done.tree (Path.join root file.1) file.2.content.bytes
    with ⟨after, fault⟩
  rw [hwrite] at h
  cases fault with
  | none => rfl
  | some fault => cases h

theorem accepts_of_writeTargets {rest : List (String × Target)} {done : Written}
    (h : (writeTargets root done rest).refusal = none)
    (hnormal : ∀ file ∈ rest, normalize file.1 = .ok file.1) :
    ∀ file ∈ rest, Accepts root file.1 := by
  induction rest generalizing done with
  | nil => rintro _ ⟨⟩
  | cons file rest ih =>
    rw [List.forall_mem_cons] at hnormal ⊢
    rw [writeTargets] at h
    have hnone : (done.next root file).refusal = none := by
      by_contra hsome
      rw [if_neg hsome] at h
      exact hsome h
    rw [if_pos hnone] at h
    exact ⟨accepts_of_writeOne hnormal.1 (writeOne_of_next hnone), ih h hnormal.2⟩

/-- Files that are written have paths that the file system accepts. -/
theorem accepts_of_writeTo {files : ArtifactMap} {tree : FileTree} {count : Nat}
    (h : (files.writeTo tree root).2 = .ok count) :
    ∀ key ∈ files.keys, ∀ path, normalize key = .ok path → Accepts root path := by
  cases htargets : files.targets with
  | error e =>
    rw [writeTo_of_targets htargets] at h
    cases h
  | ok targets =>
    obtain ⟨hwritable, rfl⟩ := targets_eq_ok.1 htargets
    have hresult : (writeTargets root { tree } files.settled.toList).result = .ok count := by
      rw [writeTo, write, htargets] at h
      exact h
    have hrefusal : (writeTargets root { tree } files.settled.toList).refusal = none := by
      rw [Written.result] at hresult
      split at hresult
      · cases hresult
      · assumption
    have hnormal : ∀ file ∈ files.settled.toList, normalize file.1 = .ok file.1 := by
      intro file hfile
      obtain ⟨key, _, hpath⟩ := hwritable.key_of_mem hfile
      exact OutputPath.normalize_idem hpath
    intro key hkey path hpath
    have hsettled : path ∈ files.settled.keys :=
      (mem_keys_settled hwritable.normalizes hwritable.distinct).2 ⟨key, hkey, hpath⟩
    obtain ⟨file, hfile, rfl⟩ := List.mem_map.1 hsettled
    exact accepts_of_writeTargets hrefusal hnormal file hfile

end Limits

/-! ## All or nothing -/

section Outcome

variable {files : ArtifactMap} {tree : FileTree} {root : String} {place : Place}
  (hroot : EmptyRoot tree root place)

include hroot

/-- Files that can stand beside one another are written. -/
theorem Writable.writeTo_eq (h : files.Writable)
    (haccepts : ∀ key ∈ files.keys, ∀ path, normalize key = .ok path → Accepts root path) :
    ∃ after, files.writeTo tree root = (after, .ok files.size) ∧
      files.IsWriting tree root place after := by
  have hnormal : ∀ file ∈ files.settled.toList, normalize file.1 = .ok file.1 := by
    intro file hfile
    obtain ⟨key, _, hpath⟩ := h.key_of_mem hfile
    exact OutputPath.normalize_idem hpath
  have haccepted : ∀ file ∈ files.settled.toList, Accepts root file.1 := by
    intro file hfile
    obtain ⟨key, hkey, hpath⟩ := h.key_of_mem hfile
    exact haccepts key hkey _ hpath
  have hstart : Filled tree place [] ({ tree } : Written).tree := hroot.toEmptyAt.filled
  obtain ⟨hfilled, hresult⟩ := writeTargets_filled hroot hstart rfl hnormal haccepted h.aside
  have hspots := hfilled.congr fun file => h.mem_spots
  refine ⟨_, ?_, hspots, h.nodup_spots, ?_⟩
  · rw [writeTo, write, targets_eq_ok.2 ⟨h, rfl⟩, bind_ok, pure_eq]
    simp only [hresult, h.size_settled, List.length_nil, Nat.zero_add]
  · intro key content path hget hpath
    have hmem : (split '/' path, content.bytes) ∈ files.spots :=
      List.mem_map.2 ⟨(key, content), KeyMap.get?_eq_some.1 hget, by rw [normalForm_eq hpath]⟩
    exact readFile_filled hroot hspots (OutputPath.normalize_idem hpath)
      (haccepts key (KeyMap.mem_keys.2 ⟨content, hget⟩) path hpath) hmem

/-- Where files can stand beside one another, only the file system can refuse them. -/
theorem Writable.writeTo_eq_ok_iff (h : files.Writable) :
    (∃ count, (files.writeTo tree root).2 = .ok count) ↔
      ∀ key ∈ files.keys, ∀ path, normalize key = .ok path → Accepts root path := by
  constructor
  · rintro ⟨count, hcount⟩
    exact accepts_of_writeTo hcount
  · intro haccepts
    obtain ⟨after, hwrite, _⟩ := h.writeTo_eq hroot haccepts
    exact ⟨files.size, congrArg Prod.snd hwrite⟩

variable (haccepts : ∀ key ∈ files.keys, ∀ path, normalize key = .ok path → Accepts root path)

include haccepts

/-- Writing is all or nothing.  It succeeds exactly for files that can stand beside one another, and
then these and the directories above them are what the directory holds.  Else the tree stays as it
is, and the error gives the reason. -/
theorem writeTo_all_or_nothing :
    ((∃ count, (files.writeTo tree root).2 = .ok count) ↔ files.Writable) ∧
      (∀ count, (files.writeTo tree root).2 = .ok count →
        count = files.size ∧ files.IsWriting tree root place (files.writeTo tree root).1) ∧
      (∀ e, (files.writeTo tree root).2 = .error e →
        (files.writeTo tree root).1 = tree ∧ files.Refused e) := by
  cases htargets : files.targets with
  | error fault =>
    have hnot : ¬ files.Writable := by
      intro h
      rw [targets_eq_ok.2 ⟨h, rfl⟩] at htargets
      cases htargets
    rw [writeTo_of_targets htargets]
    refine ⟨⟨?_, fun h => absurd h hnot⟩, ?_, ?_⟩
    · rintro ⟨_, ⟨⟩⟩
    · rintro _ ⟨⟩
    · rintro _ ⟨⟩
      exact ⟨rfl, refused_of_targets htargets⟩
  | ok targets =>
    have h := (targets_eq_ok.1 htargets).1
    obtain ⟨after, hwrite, hwriting⟩ := h.writeTo_eq hroot haccepts
    rw [hwrite]
    refine ⟨⟨fun _ => h, fun _ => ⟨_, rfl⟩⟩, ?_, ?_⟩
    · rintro _ ⟨⟩
      exact ⟨rfl, hwriting⟩
    · rintro _ ⟨⟩

end Outcome

/-- Three files, two of them in one directory and one named like it. -/
def sampleFiles : ArtifactMap :=
  .ofList [("./a//b", .text "1"), ("a-b", .text "2"), ("a/c/.", .binary [3])]

/-- A tree with an empty directory. -/
def sampleTree : FileTree := { nodes := [(.ofNames ["out"], .directory)] }

theorem emptyRoot_sampleTree : EmptyRoot sampleTree "/out" (.ofNames ["out"]) := by
  refine ⟨⟨by decide, ?_⟩, by decide +kernel⟩
  intro names hne
  have hother : (Place.ofNames ["out"]).below names ≠ .ofNames ["out"] :=
    fun heq => hne (Place.below_inj.1 (heq.trans (Place.below_nil _).symm))
  simp [FileTree.node?, sampleTree, Place.below_ne_root _ hne, hother.symm]

theorem writeTo_sample :
    EmptyRoot sampleTree "/out" (.ofNames ["out"]) ∧
      (∀ key ∈ sampleFiles.keys, ∀ path, normalize key = .ok path → Accepts "/out" path) ∧
      (sampleFiles.writeTo sampleTree "/out").2.toOption = some 3 ∧
      sampleFiles.IsWriting sampleTree "/out" (.ofNames ["out"])
        (sampleFiles.writeTo sampleTree "/out").1 := by
  have hroot := emptyRoot_sampleTree
  have haccepts : ∀ key ∈ sampleFiles.keys, ∀ path, normalize key = .ok path →
      Accepts "/out" path := by
    have hall : ∀ key ∈ sampleFiles.keys, Accepts "/out" (normalForm key) := by decide +kernel
    intro key hkey path hpath
    rw [← normalForm_eq hpath]
    exact hall key hkey
  have hcount : (sampleFiles.writeTo sampleTree "/out").2.toOption = some 3 := by decide +kernel
  obtain ⟨_, hwritten, _⟩ := writeTo_all_or_nothing hroot haccepts
  cases hresult : (sampleFiles.writeTo sampleTree "/out").2 with
  | error e =>
    rw [hresult] at hcount
    cases hcount
  | ok count => exact ⟨hroot, haccepts, hresult ▸ hcount, (hwritten count hresult).2⟩

end SampleForge.ArtifactMap
