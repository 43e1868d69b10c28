/-!
# Cutting and joining texts

`split` cuts a text at every separator, so a text without one is a single piece and no text has
no piece at all.  `joinWith` puts a separator between the members of a list.  Joining what `split`
has cut gives the text back (`joinWith_split`).
-/

namespace SampleForge.Text

/-! ## Cutting -/

/-- The first piece and the later ones. -/
def cut (sep : Char) : List Char → List Char × List (List Char)
  | [] => ([], [])
  | c :: cs =>
      let rest := cut sep cs
      if c = sep then ([], rest.1 :: rest.2) else (c :: rest.1, rest.2)

/-- The pieces of a list of characters between the separators. -/
def splitList (sep : Char) (cs : List Char) : List (List Char) :=
  (cut sep cs).1 :: (cut sep cs).2

/-- The pieces of a text between the separators. -/
def split (sep : Char) (s : String) : List String :=
  (splitList sep s.toList).map String.ofList

theorem split_ne_nil (sep : Char) (s : String) : split sep s ≠ [] := by
  simp [split, splitList]

/-! ## Joining -/

/-- The members of a list of texts with a separator between neighbours. -/
def joinWith (sep : String) : List String → String
  | [] => ""
  | [s] => s
  | s :: t :: rest => s ++ sep ++ joinWith sep (t :: rest)

theorem joinWith_cons_append (sep head s : String) (rest : List String) :
    joinWith sep ((head ++ s) :: rest) = head ++ joinWith sep (s :: rest) := by
  cases rest <;> simp [joinWith, String.append_assoc]

theorem joinWith_splitList (sep : Char) (cs : List Char) :
    joinWith (String.singleton sep) ((splitList sep cs).map String.ofList) = String.ofList cs := by
  induction cs with
  | nil => rfl
  | cons c cs ih =>
    simp only [splitList, List.map_cons] at ih
    by_cases h : c = sep
    · subst h
      simp only [splitList, cut, if_pos, List.map_cons, joinWith, ih]
      apply String.toList_inj.1
      simp
    · have hcons : String.ofList (c :: (cut sep cs).1) =
          String.singleton c ++ String.ofList (cut sep cs).1 := by
        apply String.toList_inj.1
        simp
      simp only [splitList, cut, if_neg h, List.map_cons, hcons, joinWith_cons_append, ih]
      apply String.toList_inj.1
      simp

theorem joinWith_split (sep : Char) (s : String) :
    joinWith (String.singleton sep) (split sep s) = s := by
  simp [split, joinWith_splitList]

/-! ## Searching -/

/-- Whether a text starts with another. -/
def hasStart (start s : String) : Bool := start.toList.isPrefixOf s.toList

/-- Whether a list starts with another at some place. -/
def holdsList (part : List Char) : List Char → Bool
  | [] => part.isEmpty
  | c :: cs => part.isPrefixOf (c :: cs) || holdsList part cs

/-- Whether a text occurs in another. -/
def occursIn (part s : String) : Bool := holdsList part.toList s.toList

/-- A text with one character put for another. -/
def replaceChar (old new : Char) (s : String) : String :=
  String.ofList (s.toList.map fun c => if c = old then new else c)

/-- A text cut at its last separator, if it has one. -/
def splitLast? (sep : Char) (s : String) : Option (String × String) :=
  match split sep s with
  | [] | [_] => none
  | pieces => some (joinWith (String.singleton sep) pieces.dropLast, pieces.getLast?.getD "")

/-- A text between backticks, as messages quote a name. -/
def ticked (s : String) : String := "`" ++ s ++ "`"

section Tests

example : split '.' "a..b" = ["a", "", "b"] := by decide
example : split '.' "" = [""] := by decide
example : joinWith ", " ["a", "b", "c"] = "a, b, c" := by decide
example : splitLast? '.' "a.b.v1" = some ("a.b", "v1") := by decide
example : splitLast? '.' "ab" = none := by decide
example : occursIn "bc" "abcd" = true ∧ occursIn "" "" = true := by decide

end Tests

end SampleForge.Text
