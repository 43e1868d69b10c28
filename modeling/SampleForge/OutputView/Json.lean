import SampleForge.OutputView
import SampleForge.TypeRef.Json

/-!
# The wire form of output views

A view is a tagged union: the field `kind` names its case, and the other fields are those of the
case.  Everything inside a view is read as buffered values.  What `toJson` writes has all fields,
also those with default values.
-/

namespace SampleForge

open Json (Access Fault Shape Value)

/-! ## Writing -/

/-- The wire form of a variable. -/
def VariableSegment.toJson (v : VariableSegment) : Value :=
  .object [("enum_value", .bool v.enumValue), ("name", .text v.name), ("type", v.type.toJson)]

/-- The wire form of a part of a print argument. -/
def ArgSegment.toJson : ArgSegment → Value
  | .text s => .object [("kind", .text "text"), ("text", .text s)]
  | .variable v =>
      .object [("enum_value", .bool v.enumValue), ("kind", .text "variable"),
        ("name", .text v.name), ("type", v.type.toJson)]

/-- The wire form of a print argument. -/
def PrintArg.toJson (arg : PrintArg) : Value :=
  .object [("segments", .list (arg.segments.map ArgSegment.toJson))]

namespace OutputView

mutual

/-- The wire form of a view. -/
def toJson : OutputView → Value
| .define name type =>
    .object [("kind", .text "define"), ("reference", type.toJson), ("variable", .text name)]
| .loop name collection body =>
    .object [("body", .list (toJsonAll body)), ("collection", collection.toJson),
      ("kind", .text "loop"), ("variable", .text name)]
| .print format args =>
    .object [("args", .list (args.map PrintArg.toJson)), ("format", .text format),
      ("kind", .text "print")]
| .comment lines => .object [("kind", .text "comment"), ("lines", Value.texts lines)]

/-- The wire forms of several views. -/
def toJsonAll : List OutputView → List Value
| [] => []
| view :: rest => view.toJson :: toJsonAll rest

end

end OutputView

/-! ## Reading print arguments -/

namespace VariableSegment

/-- A variable as a record. -/
def shape : Shape := ⟨"struct VariableSegment", ["name", "type", "enum_value"]⟩

/-- The fields read so far. -/
structure Draft where
  /-- The name. -/
  name : Option String := none
  /-- The type. -/
  type : Option TypeRef := none
  /-- The enum flag. -/
  enumValue : Bool := false

/-- Takes in a field. -/
def Draft.set (access : Access) (draft : Draft) (field : String) (v : Value) :
    Except Fault Draft :=
  if field = "name" then do return { draft with name := some (← Json.readText v) }
  else if field = "type" then do return { draft with type := some (← TypeRef.read access v) }
  else if field = "enum_value" then do return { draft with enumValue := ← Json.readBool v }
  else return draft

/-- The variable of a complete draft. -/
def Draft.finish (absent : String → Fault) (draft : Draft) : Except Fault VariableSegment := do
  let name ← Json.require absent "name" draft.name
  let type ← Json.require absent "type" draft.type
  return ⟨name, type, draft.enumValue⟩

/-- Reads a variable. -/
def read (access : Access) (v : Value) : Except Fault VariableSegment :=
  shape.read access {} (Draft.set access) Draft.finish v

end VariableSegment

namespace ArgSegment

/-- A text as a record. -/
def textShape : Shape := ⟨"struct variant ArgSegment::Text", ["text"]⟩

/-- Reads the text of a part. -/
def readTextPart (v : Value) : Except Fault ArgSegment :=
  textShape.read .buffered (none : Option String)
    (fun draft field v => if field = "text" then (Json.readText v).map some else .ok draft)
    (fun absent draft => (Json.require absent "text" draft).map .text) v

/-- Reads a part of a print argument. -/
def read (v : Value) : Except Fault ArgSegment := do
  let isText ← Json.readCase .buffered "ArgSegment" [("text", true), ("variable", false)] v
  if isText then readTextPart (Json.untagged v)
  else return .variable (← VariableSegment.read .buffered (Json.untagged v))

end ArgSegment

namespace PrintArg

/-- A print argument as a record. -/
def shape : Shape := ⟨"struct PrintArg", ["segments"]⟩

/-- Reads a print argument. -/
def read (v : Value) : Except Fault PrintArg :=
  shape.read .buffered (none : Option (List ArgSegment))
    (fun draft field v =>
      if field = "segments" then (Json.readList ArgSegment.read v).map some else .ok draft)
    (fun absent draft => (Json.require absent "segments" draft).map PrintArg.mk) v

end PrintArg

/-! ## Reading views -/

namespace OutputView

/-- The kinds of view. -/
inductive Case where
  | define
  | loop
  | print
  | comment

/-- The words for the kinds. -/
def caseWords : List (String × Case) :=
  [("define", .define), ("loop", .loop), ("print", .print), ("comment", .comment)]

/-- A binding as a record. -/
def defineShape : Shape := ⟨"struct DefineView", ["variable", "reference"]⟩

/-- Reads a binding. -/
def readDefine (v : Value) : Except Fault OutputView :=
  defineShape.read .buffered ((none, none) : Option String × Option TypeRef)
    (fun draft field v =>
      if field = "variable" then do return (some (← Json.readText v), draft.2)
      else if field = "reference" then do return (draft.1, some (← TypeRef.read .buffered v))
      else return draft)
    (fun absent draft => do
      let name ← Json.require absent "variable" draft.1
      let type ← Json.require absent "reference" draft.2
      return .define name type) v

/-- A print as a record. -/
def printShape : Shape := ⟨"struct PrintView", ["format", "args"]⟩

/-- Reads a print. -/
def readPrint (v : Value) : Except Fault OutputView :=
  printShape.read .buffered (("", []) : String × List PrintArg)
    (fun draft field v =>
      if field = "format" then do return (← Json.readText v, draft.2)
      else if field = "args" then do return (draft.1, ← Json.readList PrintArg.read v)
      else return draft)
    (fun _ draft => return .print draft.1 draft.2) v

/-- A comment as a record. -/
def commentShape : Shape := ⟨"struct CommentView", ["lines"]⟩

/-- Reads a comment. -/
def readComment (v : Value) : Except Fault OutputView :=
  commentShape.read .buffered ([] : List String)
    (fun draft field v =>
      if field = "lines" then Json.readList Json.readText v else return draft)
    (fun _ draft => return .comment draft) v

/-- A loop as a record. -/
def loopShape : Shape := ⟨"struct LoopView", ["variable", "collection", "body"]⟩

/-- The fields of a loop read so far. -/
structure LoopDraft where
  /-- The variable. -/
  name : Option String := none
  /-- What the loop runs over. -/
  collection : Option TypeRef := none
  /-- The body. -/
  body : List OutputView := []

/-- Takes in a field other than the body. -/
def LoopDraft.set (draft : LoopDraft) (field : String) (v : Value) : Except Fault LoopDraft :=
  if field = "variable" then do return { draft with name := some (← Json.readText v) }
  else if field = "collection" then do
    return { draft with collection := some (← TypeRef.read .buffered v) }
  else return draft

/-- The loop of a complete draft. -/
def LoopDraft.finish (absent : String → Fault) (draft : LoopDraft) :
    Except Fault OutputView := do
  let name ← Json.require absent "variable" draft.name
  let collection ← Json.require absent "collection" draft.collection
  return .loop name collection draft.body

/-- Reads a view other than a loop. -/
def readFlat (v : Value) : Case → Except Fault OutputView
  | .define => readDefine v
  | .print => readPrint v
  | .comment => readComment v
  | .loop => .error (.missingField "kind")

mutual

/-- Reads a view. -/
def read (access : Access) : Value → Except Fault OutputView
| .object fields => do
    match ← Json.readCase access "OutputView" caseWords (.object fields) with
    | .loop => do
        let draft ← readLoopFields {} fields
        draft.finish (loopShape.absent .named)
    | case => readFlat (Json.untagged (.object fields)) case
| .list (tag :: items) => do
    match ← Json.readTag access caseWords tag with
    | .loop => do
        let draft ← readLoopItems {} loopShape.fields items
        let view ← draft.finish (loopShape.absent .listed)
        loopShape.checkLength .buffered (.list items)
        return view
    | case => readFlat (.list items) case
| .list [] => .error (.missingField "kind")
| v => .error (.wrongType v "internally tagged enum OutputView")
termination_by structural v => v

/-- Takes in the fields of a loop. -/
def readLoopFields (draft : LoopDraft) : List (String × Value) → Except Fault LoopDraft
| [] => return draft
| (field, v) :: rest => do
    let draft ←
      if field = "body" then (readBody v).map fun body => { draft with body := body }
      else draft.set field v
    readLoopFields draft rest
termination_by structural fields => fields

/-- Takes in the members of a loop, by the names of their places. -/
def readLoopItems (draft : LoopDraft) (fields : List String) :
  List Value → Except Fault LoopDraft
| [] => return draft
| v :: rest => do
    let draft ←
      match fields.head? with
      | none => pure draft
      | some field =>
          if field = "body" then (readBody v).map fun body => { draft with body := body }
          else draft.set field v
    readLoopItems draft fields.tail rest
termination_by structural items => items

/-- Reads the body of a loop. -/
def readBody : Value → Except Fault (List OutputView)
| .list items => readAll items
| v => .error (.wrongType v "a sequence")
termination_by structural v => v

/-- Reads several views inside a view. -/
def readAll : List Value → Except Fault (List OutputView)
| [] => return []
| v :: rest => do
    let view ← read .buffered v
    let views ← readAll rest
    return view :: views
termination_by structural items => items

end

end OutputView

end SampleForge
