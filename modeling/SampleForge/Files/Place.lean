import SampleForge.Text.Pieces

/-!
# Places

A *place* is where an absolute path leads: the names from the root to it.  Paths that lead to one
place may differ, but a place is written in one way.

The names are kept from the last to the first, so a step down or up does not depend on the depth.
The depth is kept as well and tells most places apart at once.
-/

namespace SampleForge

/-- A place, by the names that lead to it. -/
structure Place where
  /-- The number of names. -/
  depth : Nat
  /-- The names, the last one first. -/
  upwards : List String
  /-- The depth counts the names. -/
  depth_eq : depth = upwards.length
  deriving DecidableEq

namespace Place

/-- The root. -/
def root : Place := ⟨0, [], rfl⟩

/-- The place with a name below another place. -/
def child (place : Place) (name : String) : Place :=
  ⟨place.depth + 1, name :: place.upwards, by simp [place.depth_eq]⟩

/-- The place above another.  The root is above itself. -/
def parent (place : Place) : Place :=
  ⟨place.depth - 1, place.upwards.tail, by simp [place.depth_eq]⟩

/-- The place that names lead to, the first one below the root. -/
def ofNames (names : List String) : Place := names.foldl child root

/-- The names that lead to a place, the first one below the root. -/
def names (place : Place) : List String := place.upwards.reverse

/-- A place as an absolute path. -/
def path (place : Place) : String := "/" ++ Text.joinWith "/" place.names

theorem ext {a b : Place} (h : a.upwards = b.upwards) : a = b := by
  obtain ⟨da, ua, ha⟩ := a
  obtain ⟨db, ub, hb⟩ := b
  simp only at h
  subst h ha hb
  rfl

theorem names_child (place : Place) (name : String) :
    (place.child name).names = place.names ++ [name] := by
  simp [names, child]

theorem names_ofNames (names : List String) : (ofNames names).names = names := by
  suffices h : ∀ (base : Place), (names.foldl child base).names = base.names ++ names from h root
  induction names with
  | nil => intro base; simp
  | cons name rest ih =>
      intro base
      simp [ih, names_child]

section Tests

example : (ofNames ["a", "b"]).path = "/a/b" := by decide
example : root.path = "/" ∧ root.parent = root := by decide
example : (ofNames ["a", "b"]).parent = ofNames ["a"] := by decide

end Tests

end Place

end SampleForge
