import SampleForge.Json.Decode
import SampleForge.TypeRef

/-!
# The wire form of type references

A reference is written as a record of `identity`, `kind` and, for a collection, `element`.  When a
reference is read, the identity may be left out of a collection, which then derives it.  An
identity that is there is held to the rules of `TypeRef.ofParts`.  A derived one breaks them, since
it has a blank in it, so a collection can be written and read back only if it has an identity of
its own.
-/

namespace SampleForge

open Json (Access Fault Layout Shape Value)

namespace TypeRef

/-- The words for the kinds. -/
def kindWords : List (String × TypeKind) :=
  [TypeKind.leaf .message, .leaf .enumeration, .leaf .primitive, .collection].map fun kind =>
    (kind.word, kind)

/-- The wire form of a reference. -/
def toJson : TypeRef → Value
  | .leaf kind identity =>
      .object [("identity", .text identity), ("kind", .text (TypeKind.leaf kind).word)]
  | .collection identity element =>
      .object [("element", element.toJson), ("identity", .text identity),
        ("kind", .text TypeKind.collection.word)]

/-- The wire form as a record. -/
def shape : Shape := ⟨"struct RawTypeRef", ["identity", "kind", "element"]⟩

/-- The parts read so far. -/
structure Draft where
  /-- The identity, empty in its absence. -/
  identity : String := ""
  /-- The kind. -/
  kind : Option TypeKind := none
  /-- The element. -/
  element : Option TypeRef := none

/-- Takes in a part other than the element. -/
def Draft.set (access : Access) (draft : Draft) (field : String) (v : Value) :
    Except Fault Draft :=
  if field = "identity" then do
    return { draft with identity := ← Json.readText v }
  else if field = "kind" then do
    return { draft with kind := some (← Json.readVariant access kindWords v) }
  else return draft

/-- The reference of a complete draft, once a value of its length is accepted. -/
def Draft.finish (absent : String → Fault) (length : Except Fault Unit) (draft : Draft) :
    Except Fault TypeRef := do
  let kind ← Json.require absent "kind" draft.kind
  length
  match ofParts draft.identity kind draft.element with
  | .ok t => return t
  | .error e => .error (.refused e.message)

mutual

/-- Reads a reference. -/
def read (access : Access) : Value → Except Fault TypeRef
| .object fields => do
    let draft ← readFields access {} fields
    draft.finish (shape.absent .named) (.ok ())
| .list items => do
    let draft ← readItems access {} shape.fields items
    draft.finish (shape.absent .listed) (shape.checkLength access (.list items))
| v => .error (shape.notARecord v)
termination_by structural v => v

/-- Takes in the parts of an object. -/
def readFields (access : Access) (draft : Draft) : List (String × Value) → Except Fault Draft
| [] => return draft
| (field, v) :: rest => do
    let draft ←
      if field = "element" then
        if v.isNull then pure { draft with element := none }
        else (read access v).map fun element => { draft with element := some element }
      else draft.set access field v
    readFields access draft rest
termination_by structural fields => fields

/-- Takes in the parts of a list, by the names of its places. -/
def readItems (access : Access) (draft : Draft) (fields : List String) :
  List Value → Except Fault Draft
| [] => return draft
| v :: rest => do
    let draft ←
      match fields.head? with
      | none => pure draft
      | some field =>
          if field = "element" then
            if v.isNull then pure { draft with element := none }
            else (read access v).map fun element => { draft with element := some element }
          else draft.set access field v
    readItems access draft fields.tail rest
termination_by structural items => items

end

section Tests

example : (read .direct (toJson (.collection "a.Bs" (.leaf .message "a.B")))).toOption =
    some (.collection "a.Bs" (.leaf .message "a.B")) := by decide +kernel
example : (read .direct (toJson (collectionOf (.leaf .message "a.B")))).toOption = none := by
  decide +kernel

end Tests

end TypeRef

end SampleForge
