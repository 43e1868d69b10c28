/-!
# Contract violations of types and views

A type reference or an output view that breaks its contract is the fault of whatever produced it.
`ViewError` lists the ways, and `message` words them.
-/

namespace SampleForge

/-- A way to break the contract of a type reference or an output view. -/
inductive ViewError where
  /-- An identity with nothing in it. -/
  | emptyIdentity
  /-- An identity with an empty segment or a blank character. -/
  | malformedIdentity (identity : String)
  /-- A collection of nothing. -/
  | missingElement
  /-- A collection with the identity of its element. -/
  | shadowsElement (identity : String)
  /-- An element of something that is no collection. -/
  | unexpectedElement (identity : String)
  /-- A loop over something that is no collection. -/
  | notACollection (loopVariable identity : String)
  deriving DecidableEq, Repr

/-- The wording of a contract violation. -/
def ViewError.message : ViewError → String
  | .emptyIdentity => "Invalid type reference: identity cannot be empty"
  | .malformedIdentity identity =>
      "Invalid type reference: malformed identity '" ++ identity ++ "'"
  | .missingElement => "Collection type reference requires an element type"
  | .shadowsElement identity =>
      "Collection identity '" ++ identity ++ "' is the same as its element's identity"
  | .unexpectedElement identity =>
      "Element type given for non-collection type '" ++ identity ++ "'"
  | .notACollection loopVariable identity =>
      "Loop view '" ++ loopVariable ++ "' iterates non-collection type '" ++ identity ++ "'"

end SampleForge
