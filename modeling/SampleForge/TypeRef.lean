import SampleForge.Text.Blank
import SampleForge.Text.Pieces
import SampleForge.ViewError

/-!
# Type references

A reference to a type of an API description: a message, an enum, a primitive, or a collection of
another type.  A type is known by its *identity*, dot-separated segments such as
`library.v1.Book`.  The identity of a collection is derived from its element, unless it is given
one of its own.

Two references are the same type when their identities agree (`sameAs`), whatever their kinds.
They are ordered by identity as well.

References are built in two ways.

* `message`, `enumeration` and `primitive` check the identity and build a leaf, and `collectionOf`
  wraps a reference.
* `ofParts` builds a reference from its three parts and refuses the combinations that mean
  nothing.  The wire form goes through it, and it is the only way to give a collection an identity
  of its own.
-/

namespace SampleForge

open Text (isBlank joinWith split)

/-! ## Kinds and references -/

/-- The kinds of type that have no element. -/
inductive LeafKind where
  | message
  | enumeration
  | primitive
  deriving DecidableEq, Repr

/-- The kinds of type. -/
inductive TypeKind where
  | leaf (kind : LeafKind)
  | collection
  deriving DecidableEq, Repr

/-- The word for a kind. -/
def TypeKind.word : TypeKind → String
  | .leaf .message => "message"
  | .leaf .enumeration => "enum"
  | .leaf .primitive => "primitive"
  | .collection => "collection"

/-- A reference to a type. -/
inductive TypeRef where
  /-- A type without an element. -/
  | leaf (kind : LeafKind) (identity : String)
  /-- A collection of an element. -/
  | collection (identity : String) (element : TypeRef)
  deriving DecidableEq, Repr

namespace TypeRef

/-! ## Parts -/

/-- What the type is known by. -/
def identity : TypeRef → String
  | .leaf _ identity => identity
  | .collection identity _ => identity

/-- The kind of the type. -/
def kind : TypeRef → TypeKind
  | .leaf kind _ => .leaf kind
  | .collection _ _ => .collection

/-- The element of a collection. -/
def element? : TypeRef → Option TypeRef
  | .leaf _ _ => none
  | .collection _ element => some element

/-- Whether the type is an enum. -/
def isEnum (t : TypeRef) : Bool := t.kind = .leaf .enumeration

/-- The segments of the identity, the outermost namespace first. -/
def segments (t : TypeRef) : List String := split '.' t.identity

/-- The last segment of the identity. -/
def simpleName (t : TypeRef) : String := t.segments.getLast?.getD t.identity

/-- Whether two references are to the same type. -/
def sameAs (a b : TypeRef) : Bool := a.identity = b.identity

/-- Whether one reference comes before another. -/
def isBefore (a b : TypeRef) : Bool := a.identity < b.identity

theorem sameAs_iff {a b : TypeRef} : a.sameAs b = true ↔ a.identity = b.identity :=
  decide_eq_true_iff

/-! ## Identities -/

/-- Whether a segment has a character and none that is blank. -/
def isSegment (s : String) : Bool := !s.toList.isEmpty && !s.toList.any isBlank

/-- Refuses an identity that is empty or has a segment that is none. -/
def checkIdentity (identity : String) : Except ViewError Unit :=
  if identity.toList.all isBlank then .error .emptyIdentity
  else if (split '.' identity).all isSegment then .ok ()
  else .error (.malformedIdentity identity)

/-- What a derived identity starts with. -/
def derivedStart : String := "repeated "

/-- The identity of a collection that is not given one. -/
def derivedIdentity (element : TypeRef) : String := derivedStart ++ element.identity

/-! ## Building -/

/-- A type without an element. -/
def named (kind : LeafKind) (identity : String) : Except ViewError TypeRef := do
  checkIdentity identity
  return .leaf kind identity

/-- A message type. -/
def message (identity : String) : Except ViewError TypeRef := named .message identity

/-- An enum type. -/
def enumeration (identity : String) : Except ViewError TypeRef := named .enumeration identity

/-- A primitive type. -/
def primitive (identity : String) : Except ViewError TypeRef := named .primitive identity

/-- The collection of an element, with a derived identity. -/
def collectionOf (element : TypeRef) : TypeRef := .collection (derivedIdentity element) element

/-- The collection of an element, with the given identity unless that is empty. -/
def collectionNamed (identity : String) (element : TypeRef) : Except ViewError TypeRef :=
  if identity = "" then .ok (collectionOf element)
  else do
    checkIdentity identity
    if element.identity = identity then .error (.shadowsElement identity)
    else return .collection identity element

/-- The reference of a kind with the given identity and element. -/
def ofParts (identity : String) (kind : TypeKind) (element : Option TypeRef) :
    Except ViewError TypeRef :=
  match kind, element with
  | .collection, some element => collectionNamed identity element
  | .collection, none => .error .missingElement
  | .leaf _, some _ => .error (.unexpectedElement identity)
  | .leaf kind, none => named kind identity

section Tests

example : message "a.b.C" = .ok (.leaf .message "a.b.C") := by rfl
example : message " " = .error .emptyIdentity := by rfl
example : message "a..C" = .error (.malformedIdentity "a..C") := by rfl
example : simpleName (.leaf .message "a.b.C") = "C" := by decide
example : ofParts "a.C" .collection (some (.leaf .message "a.C")) =
    .error (.shadowsElement "a.C") := by rfl

end Tests

end TypeRef

end SampleForge
