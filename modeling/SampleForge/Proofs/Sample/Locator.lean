import SampleForge.Proofs.Artifact.OutputPath
import SampleForge.Proofs.Identifier
import SampleForge.Sample.Manifest

/-!
# Where files for samples are generated

Every file that is generated for samples has a path of three parts: the directory `samples`, a
*stem* and an *ending*.  The stem comes from names that anyone may choose, so it can hold slashes
anywhere.  It holds no point, since a point ends a word of an identifier and is replaced in a
package.  The ending is fixed, has a point and belongs to the name of the file.

So `..` cannot occur, and the name of the file is never empty.  Such a path has a normal form
(`normalize_samplePath`), and this depends on the directories and the last name of the stem.  Two
stems therefore meet in one normal form with any ending or with none (`apart_samplePath_iff`).  No
such file is a directory of another, as directories have no point (`not_directoryOf`).

Which path a sample has is up to its id and the client of the product (`SameClient`).
-/

namespace SampleForge

open OutputPath (Apart DirectoryOf Normalizes normalize)
open Text (joinWith split)

/-! ## Stems and endings -/

/-- The path of a file for samples. -/
def samplePath (stem ending : String) : String := "samples/" ++ stem ++ ending

/-- A stem comes before the point of an ending. -/
structure IsStem (stem : String) : Prop where
  /-- It holds no point. -/
  noPoint : '.' ∉ stem.toList

instance (stem : String) : Decidable (IsStem stem) :=
  decidable_of_iff ('.' ∉ stem.toList) ⟨IsStem.mk, IsStem.noPoint⟩

/-- An ending belongs to a name, and holds a point and something else. -/
structure IsEnding (ending : String) : Prop where
  /-- It stays within a name. -/
  noSlash : '/' ∉ ending.toList
  /-- It holds a point. -/
  point : '.' ∈ ending.toList
  /-- It holds something else. -/
  more : ∃ c ∈ ending.toList, c ≠ '.'

-- The list is searched.  There is also an instance that tries all characters.
instance (ending : String) : Decidable (IsEnding ending) :=
  have := List.decidableBEx (fun c => c ≠ '.') ending.toList
  decidable_of_iff
    ('/' ∉ ending.toList ∧ '.' ∈ ending.toList ∧ ∃ c ∈ ending.toList, c ≠ '.')
    ⟨fun h => ⟨h.1, h.2.1, h.2.2⟩, fun h => ⟨h.noSlash, h.point, h.more⟩⟩

/-- The directories of a stem. -/
def directories (stem : String) : List String :=
  (split '/' stem).dropLast.filter fun s => !Path.isIdle s

/-- The last name of a stem. -/
def lastName (stem : String) : String := (split '/' stem).getLast (Text.split_ne_nil '/' stem)

/-- The names that lead to a file for samples. -/
def names (stem ending : String) : List String :=
  "samples" :: directories stem ++ [lastName stem ++ ending]

theorem lastName_of_not_mem {stem : String} (h : '/' ∉ stem.toList) : lastName stem = stem := by
  simp [lastName, split, Text.splitList_of_not_mem h]

theorem IsStem.append {first rest : String} (hfirst : IsStem first) (hrest : IsStem rest) :
    IsStem (first ++ rest) where
  noPoint := by
    rw [String.toList_append, List.mem_append, not_or]
    exact ⟨hfirst.noPoint, hrest.noPoint⟩

theorem point_not_mem_piece {stem piece : String} (h : IsStem stem)
    (hpiece : piece ∈ split '/' stem) : '.' ∉ piece.toList :=
  fun hpoint => h.noPoint (Text.mem_of_mem_split hpiece hpoint)

theorem point_not_mem_directory {stem name : String} (h : IsStem stem)
    (hname : name ∈ "samples" :: directories stem) : '.' ∉ name.toList := by
  rcases List.mem_cons.1 hname with rfl | hname
  · decide
  · exact point_not_mem_piece h ((List.dropLast_sublist _).subset (List.mem_filter.1 hname).1)

namespace IsEnding

variable {ending : String} (h : IsEnding ending) (name : String)

include h

/-- A name with an ending leads somewhere. -/
theorem isIdle_append : Path.isIdle (name ++ ending) = false := by
  obtain ⟨c, hc, hne⟩ := h.more
  have hmem : c ∈ (name ++ ending).toList := by
    rw [String.toList_append]
    exact List.mem_append_right _ hc
  rw [Path.isIdle, Bool.or_eq_false_iff, decide_eq_false_iff_not, decide_eq_false_iff_not]
  constructor
  · intro heq
    rw [heq] at hmem
    cases hmem
  · intro heq
    rw [heq] at hmem
    exact hne (List.mem_singleton.1 hmem)

/-- A name with an ending does not lead upwards. -/
theorem append_ne_up : name ++ ending ≠ ".." := by
  obtain ⟨c, hc, hne⟩ := h.more
  intro heq
  have hmem : c ∈ (name ++ ending).toList := by
    rw [String.toList_append]
    exact List.mem_append_right _ hc
  have hpoints : "..".toList = List.replicate 2 '.' := by decide
  rw [heq, hpoints] at hmem
  exact hne (List.eq_of_mem_replicate hmem)

end IsEnding

/-! ## Normal forms -/

section Normal

variable {stem ending : String}

theorem split_samplePath (hending : IsEnding ending) :
    split '/' (samplePath stem ending) =
      "samples" :: (split '/' stem).dropLast ++ [lastName stem ++ ending] := by
  have hpath : samplePath stem ending = "samples" ++ String.singleton '/' ++ (stem ++ ending) := by
    rw [samplePath, String.append_assoc]
    rfl
  have hroot : split '/' "samples" = ["samples"] := by decide
  rw [hpath, Text.split_append, Text.split_append_of_not_mem stem hending.noSlash, hroot]
  rfl

theorem segments_samplePath (hending : IsEnding ending) :
    Path.segments (samplePath stem ending) = names stem ending := by
  have hroot : Path.isIdle "samples" = false := by decide
  rw [Path.segments, split_samplePath hending, List.cons_append,
    List.filter_cons_of_pos (by simp [hroot]), List.filter_append,
    List.filter_cons_of_pos (by simp [hending.isIdle_append])]
  rfl

theorem escapes_samplePath (hstem : IsStem stem) (hending : IsEnding ending) :
    OutputPath.escapes (samplePath stem ending) = false := by
  rw [OutputPath.escapes, Bool.or_eq_false_iff]
  constructor
  · rw [samplePath, Path.isAbsolute, Text.hasStart, String.toList_append, String.toList_append]
    rfl
  · rw [← Bool.not_eq_true, List.contains_iff_mem, split_samplePath hending, List.mem_append,
      List.mem_cons, List.mem_singleton]
    rintro ((hroot | hpiece) | hlast)
    · exact absurd hroot (by decide)
    · exact point_not_mem_piece hstem ((List.dropLast_sublist _).subset hpiece) (by decide)
    · exact hending.append_ne_up _ hlast.symm

/-- A path for samples has a normal form. -/
theorem normalize_samplePath (hstem : IsStem stem) (hending : IsEnding ending) :
    normalize (samplePath stem ending) = .ok (joinWith "/" (names stem ending)) := by
  rw [OutputPath.normalize_eq_ok, segments_samplePath hending]
  exact ⟨escapes_samplePath hstem hending, List.cons_ne_nil _ _, rfl⟩

theorem split_of_normalize_samplePath (hending : IsEnding ending) {normal : String}
    (h : normalize (samplePath stem ending) = .ok normal) :
    split '/' normal = names stem ending := by
  rw [OutputPath.split_of_normalize h, segments_samplePath hending]

end Normal

section Pairs

variable {stem other ending ending' : String}

/-- Paths for samples are apart exactly if other names lead to them. -/
theorem apart_iff_names (hstem : IsStem stem) (hother : IsStem other) (hending : IsEnding ending)
    (hending' : IsEnding ending') :
    Apart (samplePath stem ending) (samplePath other ending') ↔
      names stem ending ≠ names other ending' := by
  constructor
  · intro hapart heq
    refine hapart _ (normalize_samplePath hstem hending) ?_
    rw [heq]
    exact normalize_samplePath hother hending'
  · intro hne normal hnormal hnormal'
    apply hne
    rw [← split_of_normalize_samplePath hending hnormal,
      split_of_normalize_samplePath hending' hnormal']

theorem names_eq_iff :
    names stem ending = names other ending' ↔
      directories stem = directories other ∧
        lastName stem ++ ending = lastName other ++ ending' := by
  rw [names, names, List.append_singleton_inj, List.cons_inj_right]

/-- Whether two stems meet in one normal form does not depend on their ending. -/
theorem apart_samplePath_iff (hstem : IsStem stem) (hother : IsStem other)
    (hending : IsEnding ending) (hending' : IsEnding ending') :
    Apart (samplePath stem ending) (samplePath other ending) ↔
      Apart (samplePath stem ending') (samplePath other ending') := by
  rw [apart_iff_names hstem hother hending hending, apart_iff_names hstem hother hending' hending',
    Ne, Ne, names_eq_iff, names_eq_iff, String.append_left_inj, String.append_left_inj]

/-- Paths with endings that do not end alike are apart. -/
theorem apart_of_endings (hstem : IsStem stem) (hother : IsStem other) (hending : IsEnding ending)
    (hending' : IsEnding ending') (h : ¬ ending.toList <:+ ending'.toList)
    (h' : ¬ ending'.toList <:+ ending.toList) :
    Apart (samplePath stem ending) (samplePath other ending') := by
  rw [apart_iff_names hstem hother hending hending']
  intro heq
  have htext := congrArg String.toList (names_eq_iff.1 heq).2
  rw [String.toList_append, String.toList_append] at htext
  have hsuffix : ending.toList <:+ (lastName stem).toList ++ ending.toList := List.suffix_append _ _
  have hsuffix' : ending'.toList <:+ (lastName stem).toList ++ ending.toList := by
    rw [htext]
    exact List.suffix_append _ _
  rcases List.suffix_or_suffix_of_suffix hsuffix hsuffix' with hends | hends
  · exact h hends
  · exact h' hends

end Pairs

/-! ## Files for samples -/

/-- Whether a path is one for samples. -/
def IsSamplePath (path : String) : Prop :=
  ∃ stem ending, IsStem stem ∧ IsEnding ending ∧ path = samplePath stem ending

namespace IsSamplePath

variable {path other normal normal' : String}

theorem normalizes (h : IsSamplePath path) : Normalizes path := by
  obtain ⟨stem, ending, hstem, hending, rfl⟩ := h
  exact ⟨_, normalize_samplePath hstem hending⟩

/-- Files for samples lie below `samples`. -/
theorem hasStart (h : IsSamplePath path) (hnormal : normalize path = .ok normal) :
    Text.hasStart "samples/" normal = true := by
  obtain ⟨stem, ending, hstem, hending, rfl⟩ := h
  have hsplit := split_of_normalize_samplePath hending hnormal
  have hroot : split '/' "samples" = ["samples"] := by decide
  have hbelow : Text.hasStart ("samples" ++ String.singleton '/') normal = true := by
    rw [Text.hasStart_iff_split, hsplit, hroot]
    exact ⟨directories stem ++ [lastName stem ++ ending], by simp, rfl⟩
  exact hbelow

/-- No file for samples is a directory of another. -/
theorem not_directoryOf (h : IsSamplePath path) (h' : IsSamplePath other)
    (hnormal : normalize path = .ok normal) (hnormal' : normalize other = .ok normal') :
    ¬ DirectoryOf normal normal' := by
  obtain ⟨stem, ending, hstem, hending, rfl⟩ := h
  obtain ⟨stem', ending', hstem', hending', rfl⟩ := h'
  rintro ⟨rest, hne, hsplit⟩
  rw [split_of_normalize_samplePath hending hnormal,
    split_of_normalize_samplePath hending' hnormal'] at hsplit
  -- The name of the first file would be a directory of the second.
  have hfirst : "samples" :: directories stem' = names stem ending ++ rest.dropLast := by
    rw [← List.dropLast_append_of_ne_nil hne, ← hsplit, names, List.dropLast_concat]
  have hmem : lastName stem ++ ending ∈ "samples" :: directories stem' := by
    rw [hfirst]
    exact List.mem_append_left _ (List.mem_append_right _ (List.mem_singleton_self _))
  apply point_not_mem_directory hstem' hmem
  rw [String.toList_append]
  exact List.mem_append_right _ hending.point

end IsSamplePath

/-! ## Samples and their manifest -/

/-- The extension of the file of a sample. -/
def Language.extension : Language → String
  | .java => ".java"
  | .python => ".py"

/-- The stem of the file of a sample. -/
def Product.sampleStem (product : Product) (language : Language) (id : String) : String :=
  match language with
  | .java =>
      "src/main/java/" ++ Text.replaceChar '.' '/' product.examplePackage ++ "/" ++
        Identifier.upperCamel id
  | .python => Identifier.lowerUnderscore id

theorem isStem_replaceChar (s : String) : IsStem (Text.replaceChar '.' '/' s) where
  noPoint := by
    rw [Text.replaceChar, String.toList_ofList, List.mem_map]
    rintro ⟨c, _, hc⟩
    split at hc
    · cases hc
    · rename_i hne
      exact hne hc

theorem isStem_sampleStem (product : Product) (language : Language) (id : String) :
    IsStem (product.sampleStem language id) := by
  cases language with
  | java =>
    unfold Product.sampleStem
    have hroot : IsStem "src/main/java/" := by decide
    have hslash : IsStem "/" := by decide
    have hcamel : IsStem (Identifier.upperCamel id) := ⟨Identifier.point_not_mem_upperCamel id⟩
    exact ((hroot.append (isStem_replaceChar _)).append hslash).append hcamel
  | python => exact ⟨Identifier.point_not_mem_lowerUnderscore id⟩

theorem sampleFile_eq (product : Product) (language : Language) (id : String) :
    product.sampleFile language id =
      samplePath (product.sampleStem language id) language.extension := by
  cases language with
  | java =>
    unfold Product.sampleFile samplePath Product.sampleStem Language.extension
    dsimp only
    simp only [← String.append_assoc, String.reduceAppend]
  | python => rfl

theorem isEnding_extension (language : Language) : IsEnding language.extension := by
  cases language with
  | java => decide
  | python => decide

theorem isEnding_section (language : Language) :
    IsEnding (language.extension ++ ".imports.toml") := by
  cases language with
  | java => decide
  | python => decide

theorem isEnding_manifest : IsEnding ".manifest.toml" := by decide

theorem isStem_environment (language : Language) : IsStem language.environment := by
  cases language with
  | java => decide
  | python => decide

/-- Products with the same client, whatever their samples. -/
structure SameClient (p q : Product) : Prop where
  language : p.language = q.language
  packageName : p.packageName = q.packageName
  clientPackage : p.clientPackage = q.clientPackage

namespace SameClient

variable {p q : Product} (h : SameClient p q)

include h

theorem package : p.package = q.package := by
  rw [Product.package, Product.package, h.packageName, h.clientPackage]

theorem basePath (language : Language) : p.basePath language = q.basePath language := by
  cases language with
  | java => exact congrArg (· ++ ".examples") h.package
  | python => rfl

theorem sampleFile (language : Language) (id : String) :
    p.sampleFile language id = q.sampleFile language id := by
  have hpackage : p.examplePackage = q.examplePackage := h.basePath .java
  unfold Product.sampleFile
  rw [hpackage]

/-- What a sample imports is decided by the client. -/
theorem importPolicy : p.importPolicy = q.importPolicy := by
  rw [Product.importPolicy, Product.importPolicy, Product.versionedNamespace,
    Product.versionedNamespace, h.language, h.clientPackage, h.package]

/-- So is the place of its import section. -/
theorem sectionPath (id : String) : ImportSection.path p id = ImportSection.path q id := by
  rw [ImportSection.path, ImportSection.path, h.language, h.sampleFile]

end SameClient

namespace ImportSection

theorem path_eq (product : Product) (id : String) :
    path product id = samplePath (product.sampleStem product.language id)
      (product.language.extension ++ ".imports.toml") := by
  rw [path, sampleFile_eq, samplePath, samplePath, String.append_assoc]

theorem isSamplePath_path (product : Product) (id : String) : IsSamplePath (path product id) :=
  ⟨_, _, isStem_sampleStem product _ id, isEnding_section _, path_eq product id⟩

/-- Import sections meet in one path exactly if the files of their samples do. -/
theorem apart_path_iff (product : Product) (id other : String) :
    Apart (path product id) (path product other) ↔
      Apart (product.sampleFile product.language id)
        (product.sampleFile product.language other) := by
  rw [path_eq, path_eq, sampleFile_eq, sampleFile_eq]
  exact apart_samplePath_iff (isStem_sampleStem _ _ _) (isStem_sampleStem _ _ _)
    (isEnding_section _) (isEnding_extension _)

end ImportSection

namespace Manifest

theorem isSamplePath_path (language : Language) : IsSamplePath (path language) :=
  ⟨_, _, isStem_environment language, isEnding_manifest, rfl⟩

theorem normalize_path (language : Language) :
    normalize (path language) = .ok (path language) := by
  have hnormal : joinWith "/" (names language.environment ".manifest.toml") = path language := by
    cases language with
    | java => decide
    | python => decide
  rw [path, ← samplePath, normalize_samplePath (isStem_environment language) isEnding_manifest,
    hnormal]
  rfl

/-- The manifest and an import section do not meet. -/
theorem apart_path (product : Product) (id : String) (language : Language) :
    Apart (ImportSection.path product id) (path language) := by
  rw [ImportSection.path_eq]
  refine apart_of_endings (isStem_sampleStem _ _ _) (isStem_environment language)
    (isEnding_section _) isEnding_manifest ?_ ?_
  · cases product.language with
    | java => decide
    | python => decide
  · cases product.language with
    | java => decide
    | python => decide

end Manifest

end SampleForge
