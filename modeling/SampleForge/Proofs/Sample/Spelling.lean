import SampleForge.Proofs.Sample.Locator

/-!
# Spellings and the words behind them

The words of an identifier can be read off its spelling with underscores, since no word is empty and
none holds an underscore (`filter_split_lowerUnderscore`).  So this spelling decides about the other
one, and samples that have one path in Python have one path in Java.  The converse fails, as the
capitals of `A1b` do not tell whether it is two words or one.

The spelling with underscores has the same words again if small letters are no capitals
(`words_lowerUnderscore`), and in ASCII they are not.  Beyond ASCII there are capitals without a
small letter, such as those of mathematics.
-/

namespace SampleForge

open OutputPath (Apart)
open Text (isBlank isCapital joinWith lowerChar split)

namespace Identifier

/-! ## Words from a spelling -/

/-- The words are the pieces between the underscores. -/
theorem filter_split_lowerUnderscore (identifier : String) :
    (split '_' (lowerUnderscore identifier)).filter (· ≠ "") = words identifier := by
  by_cases hnone : words identifier = []
  · rw [lowerUnderscore, hnone]
    decide
  · have hpieces : ∀ word ∈ words identifier, '_' ∉ word.toList := by
      intro word hword hmem
      exact absurd (not_isSeparator_of_mem_words hword hmem) (by decide)
    have hsplit : split '_' (lowerUnderscore identifier) = words identifier :=
      Text.split_joinWith hnone hpieces
    rw [hsplit, List.filter_eq_self]
    intro word hword
    exact decide_eq_true (ne_empty_of_mem_words hword)

theorem words_eq_of_lowerUnderscore_eq {identifier other : String}
    (h : lowerUnderscore identifier = lowerUnderscore other) : words identifier = words other := by
  rw [← filter_split_lowerUnderscore, h, filter_split_lowerUnderscore]

theorem upperCamel_eq_of_lowerUnderscore_eq {identifier other : String}
    (h : lowerUnderscore identifier = lowerUnderscore other) :
    upperCamel identifier = upperCamel other := by
  rw [upperCamel, upperCamel, words_eq_of_lowerUnderscore_eq h]

/-! ## Words of a spelling -/

/-- Words that are taken as they are become the words of their join. -/
theorem words_joinWith {pieces : List String} (hne : ∀ piece ∈ pieces, piece ≠ "")
    (hkept : ∀ piece ∈ pieces, ∀ c ∈ piece.toList, Kept c) :
    words (joinWith "_" pieces) = pieces := by
  induction pieces with
  | nil => rfl
  | cons piece rest ih =>
    obtain ⟨hpiece, hrest⟩ := List.forall_mem_cons.1 hne
    obtain ⟨hpiece', hrest'⟩ := List.forall_mem_cons.1 hkept
    have hclose : closeWord piece.toList = [piece.toList] := by
      simp [closeWord, hpiece]
    cases rest with
    | nil =>
      rw [joinWith, words, wordsFrom_of_kept hpiece', List.nil_append, hclose, List.map_singleton,
        String.ofList_toList]
    | cons next rest =>
      have hlist : (joinWith "_" (piece :: next :: rest)).toList =
          piece.toList ++ '_' :: (joinWith "_" (next :: rest)).toList := by
        simp [joinWith]
      have hwords := ih hrest hrest'
      obtain ⟨ended, happend⟩ := wordsFrom_append hpiece' [] false
        ('_' :: (joinWith "_" (next :: rest)).toList)
      have hseparator : isSeparator '_' = true := by decide
      rw [words] at hwords
      rw [words, hlist, happend, List.nil_append, wordsFrom, hseparator, if_pos rfl, hclose,
        List.map_append, hwords, List.map_singleton, String.ofList_toList, List.singleton_append]

/-- Spelled with underscores, an identifier has the same words, unless the small form of a character
counts as a capital. -/
theorem words_lowerUnderscore {identifier : String}
    (h : ∀ c ∈ identifier.toList, ∀ d ∈ lowerChar c, isCapital d = false) :
    words (lowerUnderscore identifier) = words identifier := by
  refine words_joinWith (fun word hword => ne_empty_of_mem_words hword) ?_
  intro word hword d hd
  obtain ⟨c, hc, _, hsmall⟩ := exists_of_mem_words hword hd
  exact ⟨not_isSeparator_of_mem_words hword hd, h c hc d hsmall,
    Text.settled_of_mem_lowerChar hsmall⟩

theorem not_isCapital_toLower : ∀ c : Char, c.toNat < 0x80 → isCapital c.toLower = false :=
  Text.forall_ascii (by decide +kernel)

/-- No small letter of ASCII is a capital. -/
theorem not_isCapital_of_ascii {c d : Char} (hc : c.toNat < 0x80) (hd : d ∈ lowerChar c) :
    isCapital d = false := by
  rw [lowerChar, if_pos hc] at hd
  rw [List.mem_singleton.1 hd]
  exact not_isCapital_toLower c hc

example : words (lowerUnderscore "A𝐀") ≠ words "A𝐀" := by decide +kernel

end Identifier

/-! ## Paths of samples -/

open Identifier (isSeparator lowerUnderscore upperCamel words)

/-- How a language spells the name of a sample. -/
def Language.spell : Language → String → String
  | .java => upperCamel
  | .python => lowerUnderscore

section Paths

variable (product : Product) {id other : String}

/-- The path of a sample in a manifest is up to how its name is spelled. -/
theorem Language.samplePath_eq_iff (language : Language) :
    language.samplePath id = language.samplePath other ↔
      language.spell id = language.spell other := by
  cases language with
  | java =>
    unfold Language.samplePath Language.spell
    rw [String.append_right_inj]
  | python =>
    unfold Language.samplePath Language.spell
    rw [String.append_left_inj, String.append_right_inj]

/-- So is its file. -/
theorem Product.sampleFile_eq_iff (language : Language) :
    product.sampleFile language id = product.sampleFile language other ↔
      language.spell id = language.spell other := by
  cases language with
  | java =>
    unfold Product.sampleFile Language.spell
    rw [String.append_left_inj, String.append_right_inj]
  | python =>
    unfold Product.sampleFile Language.spell
    rw [String.append_left_inj, String.append_right_inj]

/-- Names without slashes lead to one file in Python only if they are spelled alike. -/
theorem lowerUnderscore_eq_of_not_apart (hid : '/' ∉ (lowerUnderscore id).toList)
    (hother : '/' ∉ (lowerUnderscore other).toList)
    (h : ¬ Apart (product.sampleFile .python id) (product.sampleFile .python other)) :
    lowerUnderscore id = lowerUnderscore other := by
  have hstem := isStem_sampleStem product .python id
  have hstem' := isStem_sampleStem product .python other
  have hending := isEnding_extension .python
  rw [sampleFile_eq, sampleFile_eq, apart_iff_names hstem hstem' hending hending, not_not,
    names_eq_iff, String.append_left_inj] at h
  have hlast := h.2
  unfold Product.sampleStem at hlast
  rwa [lastName_of_not_mem hid, lastName_of_not_mem hother] at hlast

end Paths

/-- The words of an identifier are not empty and hold no separator.  So its spelling with
underscores tells them, and with them its spelling with capitals.  Samples with one path in Python,
in the manifest or as a file, have one path in Java as well.

Paths can also meet in one normal form without being the same, if a spelling holds a slash: `/b` and
`b` do in Python, and in Java they do not.  Without slashes, files that meet have the same path.

Spelled with underscores, an ASCII identifier has the same words again. -/
theorem python_collisions_in_java :
    (∀ id, ∀ word ∈ words id, word ≠ "" ∧
      ∀ c ∈ word.toList, c ≠ '_' ∧ c ≠ '-' ∧ c ≠ '.' ∧ isBlank c = false) ∧
      (∀ id other, lowerUnderscore id = lowerUnderscore other →
        words id = words other ∧ upperCamel id = upperCamel other) ∧
      (∀ (product : Product) (id other : String),
        Language.python.samplePath id = Language.python.samplePath other ∨
            product.sampleFile .python id = product.sampleFile .python other →
          Language.java.samplePath id = Language.java.samplePath other ∧
            product.sampleFile .java id = product.sampleFile .java other) ∧
      (∀ (product : Product) (id other : String), '/' ∉ (lowerUnderscore id).toList →
        '/' ∉ (lowerUnderscore other).toList →
        ¬ Apart (product.sampleFile .python id) (product.sampleFile .python other) →
          product.sampleFile .java id = product.sampleFile .java other) ∧
      ∀ id : String, (∀ c ∈ id.toList, c.toNat < 0x80) →
        words (lowerUnderscore id) = words id ∧
          lowerUnderscore (lowerUnderscore id) = lowerUnderscore id := by
  refine ⟨?_, ?_, ?_, ?_, ?_⟩
  · intro id word hword
    refine ⟨Identifier.ne_empty_of_mem_words hword, fun c hc => ?_⟩
    have hseparator := Identifier.not_isSeparator_of_mem_words hword hc
    simpa [isSeparator, and_assoc] using hseparator
  · intro id other h
    exact ⟨Identifier.words_eq_of_lowerUnderscore_eq h,
      Identifier.upperCamel_eq_of_lowerUnderscore_eq h⟩
  · intro product id other h
    rw [Language.samplePath_eq_iff, product.sampleFile_eq_iff, or_self] at h
    rw [Language.samplePath_eq_iff, product.sampleFile_eq_iff, and_self]
    exact Identifier.upperCamel_eq_of_lowerUnderscore_eq h
  · intro product id other hid hother h
    rw [product.sampleFile_eq_iff]
    exact Identifier.upperCamel_eq_of_lowerUnderscore_eq
      (lowerUnderscore_eq_of_not_apart product hid hother h)
  · intro id hascii
    have hwords : words (lowerUnderscore id) = words id :=
      Identifier.words_lowerUnderscore fun c hc d hd =>
        Identifier.not_isCapital_of_ascii (hascii c hc) hd
    refine ⟨hwords, ?_⟩
    rw [lowerUnderscore, hwords, lowerUnderscore]

example :
    let product : Product :=
      { packageName := "library.v1", language := .python, timestamp := ⟨0, 0⟩ }
    let normal := fun language id => OutputPath.normalForm (product.sampleFile language id)
    normal .python "/b" = normal .python "b" ∧ normal .java "/b" ≠ normal .java "b" := by
  decide +kernel

/-- Two ids of one sample, as an interface may spell them. -/
theorem listBooks_collides :
    let product : Product :=
      { packageName := "library.v1", language := .python, timestamp := ⟨0, 0⟩ }
    let file := product.sampleFile .python
    file "list_books" = file "ListBooks" ∧
      (∀ c ∈ "ListBooks".toList, c.toNat < 0x80) ∧
      product.sampleFile .java "list_books" = product.sampleFile .java "ListBooks" ∧
      words "list_books" = words "ListBooks" := by
  intro product file
  have hfile : file "list_books" = file "ListBooks" := by decide +kernel
  have hall : "ListBooks".toList.all (fun c => c.toNat < 0x80) = true := by decide
  have hascii : ∀ c ∈ "ListBooks".toList, c.toNat < 0x80 := fun c hc =>
    of_decide_eq_true (List.all_eq_true.1 hall c hc)
  obtain ⟨_, _, hpaths, _, hsnake⟩ := python_collisions_in_java
  have hspelled : lowerUnderscore "ListBooks" = "list_books" := by decide +kernel
  have hwords := (hsnake "ListBooks" hascii).1
  rw [hspelled] at hwords
  exact ⟨hfile, hascii, (hpaths product _ _ (.inr hfile)).2, hwords⟩

end SampleForge
