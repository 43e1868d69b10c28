import SampleForge.Artifact.Map
import SampleForge.Proofs.KeyMap

/-!
# What a fingerprint tells apart

Words that can each be told from what follows them can be told from their concatenation
(`Separable.flatMap_inj`).  Two codes are of this kind: the hexadecimal digits of bytes, and the
*frames* of a stream, in which every path and every body stands behind its length.  Eight bytes hold
any length below `unsignedLimit`, so the paths and bodies have to be shorter (`Sized`).

The files of a map stand in the stream in the order of their paths.  So the stream tells the paths
and the bytes at each path, and nothing else changes it (`stream_eq_iff`).  In particular it changes
when bytes are moved across the end of a path or of a body (`Shifted`).  What the stream tells, the
fingerprint tells as well, unless two streams have one digest.
-/

namespace SampleForge

/-! ## Words one behind the other -/

/-- A code in which no word is empty, and each word with a property can be told from what follows
it. -/
structure Separable {α β : Type} (P : α → Prop) (word : α → List β) : Prop where
  /-- No word is empty. -/
  ne_nil : ∀ a, word a ≠ []
  /-- A word is told from what follows. -/
  cut : ∀ {a b : α} {rest others : List β}, P a → P b → word a ++ rest = word b ++ others →
    a = b ∧ rest = others

/-- Words of such a code are told by their concatenation. -/
theorem Separable.flatMap_inj {α β : Type} {P : α → Prop} {word : α → List β}
    (h : Separable P word) {xs ys : List α} (hxs : ∀ x ∈ xs, P x) (hys : ∀ y ∈ ys, P y) :
    xs.flatMap word = ys.flatMap word ↔ xs = ys := by
  constructor
  · intro heq
    induction xs generalizing ys with
    | nil =>
      cases ys with
      | nil => rfl
      | cons y ys =>
        rw [List.flatMap_nil, List.flatMap_cons] at heq
        exact absurd (List.append_eq_nil_iff.1 heq.symm).1 (h.ne_nil y)
    | cons x xs ih =>
      cases ys with
      | nil =>
        rw [List.flatMap_nil, List.flatMap_cons] at heq
        exact absurd (List.append_eq_nil_iff.1 heq).1 (h.ne_nil x)
      | cons y ys =>
        obtain ⟨hx, hxs⟩ := List.forall_mem_cons.1 hxs
        obtain ⟨hy, hys⟩ := List.forall_mem_cons.1 hys
        rw [List.flatMap_cons, List.flatMap_cons] at heq
        obtain ⟨hword, hrest⟩ := h.cut hx hy heq
        rw [hword, ih hxs hys hrest]
  · rintro rfl
    rfl

namespace Text

theorem digitChar_inj : ∀ m < 16, ∀ n < 16, digitChar m = digitChar n → m = n := by decide

theorem separable_hexadecimal :
    Separable (fun _ : UInt8 => True) fun b => padded 16 2 b.toNat where
  ne_nil b := by simp [padded]
  cut {a b rest others} _ _ h := by
    have hsize : (padded 16 2 a.toNat).length = (padded 16 2 b.toNat).length := rfl
    obtain ⟨hdigits, hrest⟩ := List.append_inj h hsize
    simp only [padded, List.nil_append, List.cons_append, List.cons.injEq, and_true] at hdigits
    have ha := a.toNat_lt
    have hb := b.toNat_lt
    have hhigh := digitChar_inj _ (by omega) _ (by omega) hdigits.1
    have hlow := digitChar_inj _ (by omega) _ (by omega) hdigits.2
    exact ⟨UInt8.toNat_inj.1 (by omega), hrest⟩

/-- Bytes are told by their hexadecimal digits. -/
theorem hexBytes_inj {xs ys : List UInt8} : hexBytes xs = hexBytes ys ↔ xs = ys := by
  rw [hexBytes, hexBytes, String.ofList_inj]
  exact separable_hexadecimal.flatMap_inj (fun _ _ => trivial) fun _ _ => trivial

end Text

/-- A text is told by its bytes. -/
theorem textBytes_inj {s t : String} : textBytes s = textBytes t ↔ s = t := by
  rw [textBytes, textBytes, Array.toList_inj, ← ByteArray.ext_iff, String.toByteArray_inj]

namespace ArtifactMap

open Text (unsignedLimit)

/-! ## Frames -/

/-- The number that a list of bytes stands for, the least significant first. -/
def lengthOf : List UInt8 → Nat
  | [] => 0
  | b :: bytes => b.toNat + 256 * lengthOf bytes

/-- Eight bytes hold any number below the limit. -/
theorem lengthOf_lengthBytes {n : Nat} (h : n < unsignedLimit) : lengthOf (lengthBytes n) = n := by
  simp only [unsignedLimit] at h
  simp only [lengthBytes, List.range, List.range.loop, List.map_cons, List.map_nil, lengthOf,
    UInt8.toNat_ofNat', Nat.reducePow, Nat.reduceMul]
  omega

theorem length_lengthBytes (n : Nat) : (lengthBytes n).length = 8 := by
  simp [lengthBytes]

theorem framed_ne_nil (bytes : List UInt8) : framed bytes ≠ [] := by
  intro h
  have hsize := congrArg List.length (List.append_eq_nil_iff.1 h).1
  rw [length_lengthBytes] at hsize
  cases hsize

/-- What stands behind its length can be told from what follows it. -/
theorem framed_append_inj {xs ys rest others : List UInt8} (hxs : xs.length < unsignedLimit)
    (hys : ys.length < unsignedLimit) (h : framed xs ++ rest = framed ys ++ others) :
    xs = ys ∧ rest = others := by
  rw [framed, framed, List.append_assoc, List.append_assoc] at h
  have hsize : (lengthBytes xs.length).length = (lengthBytes ys.length).length := by
    rw [length_lengthBytes, length_lengthBytes]
  obtain ⟨hlength, hbytes⟩ := List.append_inj h hsize
  have hequal : xs.length = ys.length := by
    rw [← lengthOf_lengthBytes hxs, hlength, lengthOf_lengthBytes hys]
  exact List.append_inj hbytes hequal

/-- Whether the path and the bytes of a file are so short that their lengths can be written. -/
def Short (file : String × List UInt8) : Prop :=
  (textBytes file.1).length < unsignedLimit ∧ file.2.length < unsignedLimit

instance (file : String × List UInt8) : Decidable (Short file) :=
  inferInstanceAs (Decidable (_ ∧ _))

/-- A file as it stands in a stream. -/
def frame (file : String × List UInt8) : List UInt8 :=
  framed (textBytes file.1) ++ framed file.2

theorem separable_frame : Separable Short frame where
  ne_nil file h := framed_ne_nil _ (List.append_eq_nil_iff.1 h).1
  cut {a b rest others} ha hb h := by
    rw [frame, frame, List.append_assoc, List.append_assoc] at h
    obtain ⟨hpath, h⟩ := framed_append_inj ha.1 hb.1 h
    obtain ⟨hbytes, hrest⟩ := framed_append_inj ha.2 hb.2 h
    exact ⟨Prod.ext (textBytes_inj.1 hpath) hbytes, hrest⟩

/-! ## Streams -/

/-- The bytes of each file. -/
def bytes (files : ArtifactMap) : KeyMap (List UInt8) := files.mapValues Content.bytes

/-- Whether every path and every body is so short that its length can be written. -/
def Sized (files : ArtifactMap) : Prop := ∀ file ∈ files.bytes.toList, Short file

instance (files : ArtifactMap) : Decidable files.Sized :=
  inferInstanceAs (Decidable (∀ file ∈ files.bytes.toList, Short file))

theorem stream_eq (files : ArtifactMap) : files.stream = files.bytes.toList.flatMap frame := by
  rw [stream, bytes, KeyMap.mapValues, List.flatMap_map]
  rfl

theorem stream_inj {a b : ArtifactMap} (ha : a.Sized) (hb : b.Sized) :
    a.stream = b.stream ↔ a.bytes = b.bytes := by
  rw [stream_eq, stream_eq, separable_frame.flatMap_inj ha hb, KeyMap.toList_inj]

/-- Two maps with the same paths, and the same bytes at each of them. -/
structure SameFiles (a b : ArtifactMap) : Prop where
  /-- A path of one map is a path of the other. -/
  paths : ∀ path, path ∈ a.keys ↔ path ∈ b.keys
  /-- The contents at a path have the same bytes. -/
  bytes : ∀ path first second, a.get? path = some first → b.get? path = some second →
    first.bytes = second.bytes

theorem sameFiles_iff {a b : ArtifactMap} : SameFiles a b ↔ a.bytes = b.bytes := by
  rw [← KeyMap.get?_inj]
  simp only [bytes, KeyMap.get?_mapValues]
  constructor
  · intro h path
    have hpath := h.paths path
    have hbytes := h.bytes path
    rw [KeyMap.mem_keys, KeyMap.mem_keys] at hpath
    cases ha : a.get? path with
    | none =>
      cases hb : b.get? path with
      | none => rfl
      | some second => simp [ha, hb] at hpath
    | some first =>
      cases hb : b.get? path with
      | none => simp [ha, hb] at hpath
      | some second => exact congrArg some (hbytes first second ha hb)
  · intro h
    constructor
    · intro path
      have hpath := congrArg Option.isSome (h path)
      simp only [Option.isSome_map] at hpath
      rw [KeyMap.mem_keys, KeyMap.mem_keys, ← Option.isSome_iff_exists, hpath,
        Option.isSome_iff_exists]
    · intro path first second ha hb
      have hpath := h path
      rw [ha, hb] at hpath
      exact Option.some.inj hpath

theorem stream_eq_iff {a b : ArtifactMap} (ha : a.Sized) (hb : b.Sized) :
    a.stream = b.stream ↔ a.SameFiles b := by
  rw [stream_inj ha hb, sameFiles_iff]

/-! ## Moving bytes -/

/-- One map is another with bytes moved over an end, where the rest of the files stay as they are:
from a path to its body, from one body to another, or from a body to the path of another file. -/
inductive Shifted : ArtifactMap → ArtifactMap → Prop where
  | pathToBody (rest : ArtifactMap) {path moved : String} (body : Content) (hmoved : moved ≠ "")
      (hfree : rest.get? (path ++ moved) = none) :
      Shifted (rest.insert (path ++ moved) body)
        (rest.insert path (.binary (textBytes moved ++ body.bytes)))
  | bodyToBody (rest : ArtifactMap) {path other : String} {moved : List UInt8}
      (first second : List UInt8) (hother : path ≠ other) (hmoved : moved ≠ []) :
      Shifted ((rest.insert path (.binary (first ++ moved))).insert other (.binary second))
        ((rest.insert path (.binary first)).insert other (.binary (moved ++ second)))
  | bodyToPath (rest : ArtifactMap) {path other moved : String} (first : List UInt8)
      (body : Content) (hmoved : moved ≠ "") (hfree : rest.get? (moved ++ other) = none)
      (hother : path ≠ moved ++ other) :
      Shifted ((rest.insert path (.binary (first ++ textBytes moved))).insert other body)
        ((rest.insert path (.binary first)).insert (moved ++ other) body)

theorem append_ne_left {s t : String} (h : t ≠ "") : s ++ t ≠ s := by
  intro heq
  have hchars := congrArg String.toList heq
  rw [String.toList_append] at hchars
  exact h (String.toList_inj.1 (List.append_right_eq_self.1 hchars))

theorem append_ne_right {s t : String} (h : s ≠ "") : s ++ t ≠ t := by
  intro heq
  have hchars := congrArg String.toList heq
  rw [String.toList_append] at hchars
  exact h (String.toList_inj.1 (List.append_left_eq_self.1 hchars))

/-- Moved bytes are missed, or found, at some path. -/
theorem Shifted.not_sameFiles {a b : ArtifactMap} (h : Shifted a b) : ¬ SameFiles a b := by
  intro hsame
  cases h with
  | @pathToBody rest path moved body hmoved hfree =>
    have hfound := KeyMap.get?_insert_self rest (path ++ moved) body
    obtain ⟨content, hcontent⟩ :=
      KeyMap.mem_keys.1 ((hsame.paths _).1 (KeyMap.mem_keys.2 ⟨body, hfound⟩))
    rw [KeyMap.get?_insert_of_ne _ _ (append_ne_left hmoved), hfree] at hcontent
    cases hcontent
  | @bodyToBody rest path other moved first second hother hmoved =>
    have hbytes := hsame.bytes other _ _ (KeyMap.get?_insert_self _ _ _)
      (KeyMap.get?_insert_self _ _ _)
    exact hmoved (List.append_left_eq_self.1 hbytes.symm)
  | @bodyToPath rest path other moved first body hmoved hfree hother =>
    have hfound := KeyMap.get?_insert_self (rest.insert path (.binary first)) (moved ++ other) body
    obtain ⟨content, hcontent⟩ :=
      KeyMap.mem_keys.1 ((hsame.paths _).2 (KeyMap.mem_keys.2 ⟨body, hfound⟩))
    rw [KeyMap.get?_insert_of_ne _ _ (append_ne_right hmoved),
      KeyMap.get?_insert_of_ne _ _ (Ne.symm hother), hfree] at hcontent
    cases hcontent

/-! ## The fingerprint -/

/-- The stream tells the paths and the bytes at each path, whatever the order in which the files
were put in, and changes when bytes are moved.  So does the fingerprint, if the two streams do not
have one digest by chance. -/
theorem fingerprint_tells_files {a b : ArtifactMap} (ha : a.Sized) (hb : b.Sized) :
    (a.stream = b.stream ↔ a.SameFiles b) ∧
      (∀ files : List (String × Content), files.Perm a.toList →
        stream (KeyMap.ofList files) = a.stream) ∧
      (a.Shifted b → a.stream ≠ b.stream) ∧
      ((Blake3.digest a.stream = Blake3.digest b.stream → a.stream = b.stream) →
        (a.fingerprint = b.fingerprint ↔ a.SameFiles b)) := by
  have hiff := stream_eq_iff ha hb
  refine ⟨hiff, ?_, ?_, ?_⟩
  · intro files hperm
    rw [KeyMap.ofList_perm hperm]
  · intro hshifted heq
    exact hshifted.not_sameFiles (hiff.1 heq)
  · intro hdigest
    rw [fingerprint, fingerprint, Text.hexBytes_inj, ← hiff]
    exact ⟨hdigest, congrArg Blake3.digest⟩

/-- Two files as texts and the same two as bytes, put in the other way round, have the same
fingerprint. -/
theorem fingerprint_of_texts_and_bytes :
    let a : ArtifactMap := KeyMap.ofList [("a.txt", .text "é"), ("b", .binary [])]
    let b : ArtifactMap := KeyMap.ofList [("b", .text ""), ("a.txt", .binary [0xC3, 0xA9])]
    a.Sized ∧ b.Sized ∧ a ≠ b ∧ a.SameFiles b ∧ a.stream = b.stream ∧
      a.fingerprint = b.fingerprint := by
  intro a b
  have ha : a.Sized := by decide +kernel
  have hb : b.Sized := by decide +kernel
  have hne : a ≠ b := by decide +kernel
  have hsame : a.SameFiles b := sameFiles_iff.2 (by decide +kernel)
  obtain ⟨hstream, _, _, hfingerprint⟩ := fingerprint_tells_files ha hb
  have hequal := hstream.2 hsame
  exact ⟨ha, hb, hne, hsame, hequal, (hfingerprint fun _ => hequal).2 hsame⟩

end ArtifactMap

end SampleForge
