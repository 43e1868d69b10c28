import SampleForge.Product.Json
import SampleForge.Proofs.Outcome

/-!
# Products at a moment

A product is read at a moment, which it carries as its timestamp unless its wire form gives one.
Once another timestamp is put in the place of this one, neither the moment nor what was given shows
any more (`read_atMoment`).  What was given only has to be a timestamp, since a field that cannot be
read is a fault.

The fields of a record are read one after another.  Reading commutes with forgetting the timestamp
(`Draft.set_untimed`, `foldlM_untimed`), so the fields that remain decide about the product.
-/

namespace SampleForge.Product

open Json (Fault Layout Value)
open Outcome

/-- A product with another timestamp. -/
def atMoment (product : Product) (t : Timestamp) : Product := { product with timestamp := t }

/-- The field that holds the timestamp. -/
def timestampField : String := "generation_timestamp"

/-! ## Wire forms -/

/-- The wire form of a product without a timestamp.  In a list this is the fourth member. -/
def withoutTimestamp : Value → Value
  | .object fields => .object (fields.filter fun field => field.1 ≠ timestampField)
  | .list items => .list (items.eraseIdx 3)
  | v => v

/-- The values of the timestamps among several fields. -/
def timestampsOf (fields : List (String × Value)) : List Value :=
  (fields.filter fun field => field.1 = timestampField).map (·.2)

/-- What the wire form of a product gives for the timestamp. -/
def givenTimestamps : Value → List Value
  | .object fields => timestampsOf fields
  | .list items => items[3]?.toList
  | _ => []

/-- Wire forms that differ in nothing but the timestamp, which is missing or can be read. -/
structure SameButTimestamp (v v' : Value) : Prop where
  rest : withoutTimestamp v = withoutTimestamp v'
  readable : ∀ given ∈ givenTimestamps v ++ givenTimestamps v',
    ∃ t, Timestamp.read given = .ok t

/-! ## Reading without the timestamp -/

/-- A draft without its timestamp. -/
def Draft.untimed (draft : Draft) : Draft := { draft with timestamp := none }

theorem Draft.set_timestamp {v : Value} {t : Timestamp} (h : Timestamp.read v = .ok t)
    (draft : Draft) : draft.set timestampField v = .ok { draft with timestamp := some t } := by
  simp [Draft.set, timestampField, h]

/-- The other fields do not look at the timestamp. -/
theorem Draft.set_untimed {field : String} (h : field ≠ timestampField) (draft : Draft)
    (v : Value) : (draft.set field v).map untimed = draft.untimed.set field v := by
  have hne : field ≠ "generation_timestamp" := h
  unfold Draft.set
  simp only [if_neg hne]
  split
  · cases Json.readText v <;> rfl
  · split
    · cases Json.readVariant .direct Language.words v <;> rfl
    · split
      · cases Json.readOptional Json.readText v <;> rfl
      · split
        · cases Json.readList Interface.read v <;> rfl
        · split
          · cases Json.readTextMap v <;> rfl
          · split
            · cases Json.readList Diagnostic.read v <;> rfl
            · rfl

/-- Members whose timestamps can be read. -/
def Readable (members : List (String × Value)) : Prop :=
  ∀ member ∈ members, member.1 = timestampField → ∃ t, Timestamp.read member.2 = .ok t

/-- The members without the timestamps. -/
def untimedMembers (members : List (String × Value)) : List (String × Value) :=
  members.filter fun member => member.1 ≠ timestampField

/-- Takes in several fields. -/
def Draft.setAll (draft : Draft) (members : List (String × Value)) : Except Fault Draft :=
  members.foldlM (fun draft member => Draft.set draft member.1 member.2) draft

theorem Draft.setAll_untimed {members : List (String × Value)} (h : Readable members)
    (draft : Draft) :
    (draft.setAll members).map untimed = draft.untimed.setAll (untimedMembers members) := by
  induction members generalizing draft with
  | nil => rfl
  | cons member rest ih =>
    obtain ⟨hmember, hrest⟩ := List.forall_mem_cons.1 h
    rw [setAll, List.foldlM_cons, untimedMembers]
    by_cases hfield : member.1 = timestampField
    · obtain ⟨t, ht⟩ := hmember hfield
      rw [List.filter_cons_of_neg (by simp [hfield]), hfield, Draft.set_timestamp ht, bind_ok]
      exact ih hrest _
    · rw [List.filter_cons_of_pos (by simp [hfield]), setAll, List.foldlM_cons,
        ← Draft.set_untimed hfield draft member.2]
      cases draft.set member.1 member.2 with
      | error e => rfl
      | ok next => exact ih hrest next

theorem Draft.finish_atMoment (now t : Timestamp) (absent : String → Fault) (draft : Draft) :
    (draft.finish now absent).map (·.atMoment t) = draft.untimed.finish t absent := by
  rw [finish, finish, untimed]
  cases Json.require absent "package_name" draft.packageName with
  | error e => rfl
  | ok packageName =>
    cases Json.require absent "language" draft.language with
    | error e => rfl
    | ok language => rfl

/-- What is read at any moment, with another timestamp, is told by the members without a
timestamp. -/
theorem read_eq {v : Value} {members : List (String × Value)} {layout : Layout}
    (hmembers : shape.members v = .ok (members, layout)) (hreadable : Readable members)
    (now t : Timestamp) :
    (read now v).map (·.atMoment t) = do
      let draft ← Draft.setAll {} (untimedMembers members)
      let product ← draft.finish t (shape.absent layout)
      shape.checkLength .direct v
      return product := by
  have hread : read now v = do
      let draft ← Draft.setAll {} members
      let product ← draft.finish now (shape.absent layout)
      shape.checkLength .direct v
      return product := by
    rw [read, Json.Shape.read, hmembers]
    rfl
  have hdraft : (Draft.setAll {} members).map Draft.untimed =
      Draft.setAll {} (untimedMembers members) := Draft.setAll_untimed hreadable {}
  rw [hread, ← hdraft, map_bind, bind_map]
  congr 1
  funext draft
  rw [map_bind, ← Draft.finish_atMoment now t, bind_map]
  congr 1
  funext product
  cases shape.checkLength .direct v with
  | error e => rfl
  | ok u => rfl

/-! ## The members of a wire form -/

/-- The fields that come before the timestamp. -/
def fieldsBefore : List String := ["package_name", "language", "client_package"]

/-- The fields that come after the timestamp. -/
def fieldsAfter : List String := ["interfaces", "packaging_files", "diagnostics"]

theorem ne_of_mem_zip_after {items : List Value} {member : String × Value}
    (h : member ∈ fieldsAfter.zip items) : member.1 ≠ timestampField := by
  have hapart : ∀ field ∈ fieldsAfter, field ≠ timestampField := by decide
  exact hapart _ (List.of_mem_zip h).1

theorem untimedMembers_zip_after (items : List Value) :
    untimedMembers (fieldsAfter.zip items) = fieldsAfter.zip items :=
  List.filter_eq_self.2 fun _ h => decide_eq_true (ne_of_mem_zip_after h)

theorem timestampsOf_zip_after (items : List Value) :
    timestampsOf (fieldsAfter.zip items) = [] := by
  rw [timestampsOf, List.filter_eq_nil_iff.2 fun _ h => by simpa using ne_of_mem_zip_after h]
  rfl

/-- In a list, the members without the timestamp are those of the list without it. -/
theorem untimedMembers_zip (items : List Value) :
    untimedMembers (shape.fields.zip items) =
      (fieldsBefore ++ fieldsAfter).zip (items.eraseIdx 3) := by
  match items with
  | [] => rfl
  | [_] => rfl
  | [_, _] => rfl
  | [_, _, _] => rfl
  | a :: b :: c :: _ :: rest =>
    exact congrArg
      (fun tail => ("package_name", a) :: ("language", b) :: ("client_package", c) :: tail)
      (untimedMembers_zip_after rest)

/-- In a list, the timestamp is the fourth member. -/
theorem timestampsOf_zip (items : List Value) :
    timestampsOf (shape.fields.zip items) = items[3]?.toList := by
  match items with
  | [] => rfl
  | [_] => rfl
  | [_, _] => rfl
  | [_, _, _] => rfl
  | _ :: _ :: _ :: d :: rest => exact congrArg (d :: ·) (timestampsOf_zip_after rest)

/-- A list is too long with a timestamp exactly if it is with another one. -/
theorem checkLength_eq {items items' : List Value} (h : items.eraseIdx 3 = items'.eraseIdx 3) :
    shape.checkLength .direct (.list items) = shape.checkLength .direct (.list items') := by
  have hlength := congrArg List.length h
  rw [List.length_eraseIdx, List.length_eraseIdx] at hlength
  have hcount : shape.fields.length = 7 := rfl
  simp only [Json.Shape.checkLength, hcount]
  -- Only lists of three and of four values can differ in length, and those are not too long.
  by_cases hlong : 7 < items.length
  · have heq : items.length = items'.length := by
      split at hlength <;> split at hlength <;> omega
    rw [heq]
  · have hshort : ¬ 7 < items'.length := by
      split at hlength <;> split at hlength <;> omega
    rw [if_neg hlong, if_neg hshort]

theorem readable_of_forall {members : List (String × Value)}
    (h : ∀ given ∈ timestampsOf members, ∃ t, Timestamp.read given = .ok t) : Readable members := by
  intro member hmember hfield
  refine h member.2 (List.mem_map_of_mem ?_)
  exact List.mem_filter.2 ⟨hmember, decide_eq_true hfield⟩

theorem eq_of_withoutTimestamp {v w : Value} (h : withoutTimestamp v = w)
    (hobject : ∀ fields, w ≠ .object fields) (hlist : ∀ items, w ≠ .list items) : v = w := by
  cases v with
  | object fields => exact absurd h.symm (hobject _)
  | list items => exact absurd h.symm (hlist _)
  | null | bool b | int n | real x | text s => exact h

/-- Once its timestamp is replaced, a product shows neither the moment at which it was read nor the
timestamp that was given. -/
theorem read_atMoment {v v' : Value} (h : SameButTimestamp v v') (now now' t : Timestamp) :
    (read now v).map (·.atMoment t) = (read now' v').map (·.atMoment t) := by
  have hrest := h.rest
  obtain ⟨hreadable, hreadable'⟩ := List.forall_mem_append.1 h.readable
  cases v with
  | object fields =>
    cases v' with
    | object fields' =>
      have hmembers : untimedMembers fields = untimedMembers fields' := Value.object.inj hrest
      rw [read_eq rfl (readable_of_forall hreadable) now t,
        read_eq rfl (readable_of_forall hreadable') now' t, hmembers]
      rfl
    | null | bool b | int n | real x | text s | list items => cases hrest
  | list items =>
    cases v' with
    | list items' =>
      have hitems : items.eraseIdx 3 = items'.eraseIdx 3 := Value.list.inj hrest
      rw [givenTimestamps, ← timestampsOf_zip] at hreadable hreadable'
      rw [read_eq rfl (readable_of_forall hreadable) now t,
        read_eq rfl (readable_of_forall hreadable') now' t, untimedMembers_zip, untimedMembers_zip,
        hitems, checkLength_eq hitems]
    | null | bool b | int n | real x | text s | object fields => cases hrest
  | null | bool b | int n | real x | text s =>
    obtain rfl := eq_of_withoutTimestamp hrest.symm nofun nofun
    rfl

end SampleForge.Product
