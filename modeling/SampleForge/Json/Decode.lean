import SampleForge.Json.Fault

/-!
# Reading records and variants from JSON

The rules by which JSON values become values of other types.

* A *record* is an object of its fields, or a list of them in their declared order.  Fields that
  the record does not know are ignored.  The fields are read in the order in which the object or
  the list holds them, and the first fault wins.  Only then are missing fields looked for, in
  declared order.
* A *variant* is a text, or an object of one field named for it that holds null.
* A *tagged union* is an object that names its case in the field `kind`, or a list that starts
  with the name.  The case is read before anything else.

A value is read `direct` or, inside a tagged union, `buffered`.  A buffered case may also be named
by its number, and a buffered variant may hold an empty object in the place of null.
-/

namespace SampleForge.Json

/-- Where a value stands. -/
inductive Access where
  /-- Outside every tagged union. -/
  | direct
  /-- Inside a tagged union. -/
  | buffered
  deriving DecidableEq

/-! ## Plain values -/

/-- A text. -/
def readText : Value → Except Fault String
  | .text s => .ok s
  | v => .error (.wrongType v "a string")

/-- A text that names a file. -/
def readPath : Value → Except Fault String
  | .text s => .ok s
  | v => .error (.wrongType v "path string")

/-- A truth value. -/
def readBool : Value → Except Fault Bool
  | .bool b => .ok b
  | v => .error (.wrongType v "a boolean")

/-- A list of values read in the same way. -/
def readList {α : Type} (read : Value → Except Fault α) : Value → Except Fault (List α)
  | .list items => items.mapM read
  | v => .error (.wrongType v "a sequence")

/-- A map from names to texts. -/
def readTextMap : Value → Except Fault (KeyMap String)
  | .object fields => do
      let pairs ← fields.mapM fun field => do return (field.1, ← readText field.2)
      return KeyMap.ofList pairs
  | v => .error (.wrongType v "a map")

/-- A value that may be null. -/
def readOptional {α : Type} (read : Value → Except Fault α) : Value → Except Fault (Option α)
  | .null => .ok none
  | v => (read v).map some

/-! ## Variants -/

/-- The variant with a name. -/
def pickVariant {α : Type} (cases : List (String × α)) (name : String) : Except Fault α :=
  match findPair? name cases with
  | some a => .ok a
  | none => .error (.unknownVariant name (cases.map (·.1)))

/-- Whether a variant may hold the value. -/
def isUnit : Access → Value → Bool
  | _, .null => true
  | .buffered, .object [] => true
  | _, _ => false

/-- A variant of a list of named ones. -/
def readVariant {α : Type} (access : Access) (cases : List (String × α)) :
    Value → Except Fault α
  | .text name => pickVariant cases name
  | .object [(name, held)] => do
      let a ← pickVariant cases name
      if isUnit access held then .ok a else .error (.wrongType held "unit")
  | .object _ => .error (.wrongValue "map" "map with a single key")
  | v => .error (.wrongType v "string or map")

/-! ## Records -/

/-- The name of a record type and its fields in declared order. -/
structure Shape where
  /-- The name in messages. -/
  name : String
  /-- The fields. -/
  fields : List String

/-- How a record is written. -/
inductive Layout where
  /-- As an object. -/
  | named
  /-- As a list. -/
  | listed
  deriving DecidableEq

/-- A count of elements in the words of a message. -/
def elementCount (n : Nat) : String := Nat.repr n ++ if n = 1 then " element" else " elements"

namespace Shape

/-- The fault of a value that is neither an object nor a list. -/
def notARecord (shape : Shape) (v : Value) : Fault := .wrongType v shape.name

/-- The fault of a missing field. -/
def absent (shape : Shape) (layout : Layout) (field : String) : Fault :=
  match layout with
  | .named => .missingField field
  | .listed =>
      .wrongLength (shape.fields.idxOf field)
        (shape.name ++ " with " ++ elementCount shape.fields.length)

/-- The fault of a list with more members than fields. -/
def tooLong (shape : Shape) (access : Access) (length : Nat) : Fault :=
  match access with
  | .direct => .wrongLength length "fewer elements in array"
  | .buffered => .wrongLength length (elementCount shape.fields.length ++ " in sequence")

/-- Refuses a list with more members than fields. -/
def checkLength (shape : Shape) (access : Access) : Value → Except Fault Unit
  | .list items =>
      if shape.fields.length < items.length then .error (shape.tooLong access items.length)
      else .ok ()
  | _ => .ok ()

/-- The fields that a value gives, in the order in which they are read. -/
def members (shape : Shape) : Value → Except Fault (List (String × Value) × Layout)
  | .object fields => .ok (fields, .named)
  | .list items => .ok (shape.fields.zip items, .listed)
  | v => .error (shape.notARecord v)

/-- Reads a record: `set` takes in one field of a draft, and `finish` makes the record of the draft,
given the fault of each field that may be missing. -/
def read {δ α : Type} (shape : Shape) (access : Access) (draft : δ)
    (set : δ → String → Value → Except Fault δ)
    (finish : (String → Fault) → δ → Except Fault α) (v : Value) : Except Fault α := do
  let (members, layout) ← shape.members v
  let draft ← members.foldlM (fun draft member => set draft member.1 member.2) draft
  let record ← finish (shape.absent layout) draft
  shape.checkLength access v
  return record

end Shape

/-- The value of a required field. -/
def require {α : Type} (absent : String → Fault) (field : String) : Option α → Except Fault α
  | some a => .ok a
  | none => .error (absent field)

/-! ## Tagged unions -/

/-- The case that a tag names. -/
def readTag {α : Type} (access : Access) (cases : List (String × α)) (tag : Value) :
    Except Fault α :=
  match tag, access with
  | .text name, _ => pickVariant cases name
  | .int n, .buffered =>
      if n < 0 then .error (.wrongType tag "variant identifier")
      else
        match cases[n.toNat]? with
        | some found => .ok found.2
        | none =>
            .error (.wrongValue ("integer `" ++ Int.repr n ++ "`")
              ("variant index 0 <= i < " ++ Nat.repr cases.length))
  | v, _ => .error (.wrongType v "variant identifier")

/-- The case of a tagged union, from the field `kind` or the first member. -/
def readCase {α : Type} (access : Access) (union : String) (cases : List (String × α)) :
    Value → Except Fault α
  | .object fields =>
      match findPair? "kind" fields with
      | some tag => readTag access cases tag
      | none => .error (.missingField "kind")
  | .list (tag :: _) => readTag access cases tag
  | .list [] => .error (.missingField "kind")
  | v => .error (.wrongType v ("internally tagged enum " ++ union))

/-- The value of a tagged union without its tag. -/
def untagged : Value → Value
  | .object fields => .object (fields.filter fun field => field.1 != "kind")
  | .list items => .list items.tail
  | v => v

end SampleForge.Json
