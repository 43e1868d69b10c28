import SampleForge.TypeRef

/-!
# Output views

What a code sample does with a response, as a tree.  A view binds a variable, loops over a
collection, prints formatted values, or writes a comment.

A loop must run over a collection.  `check` refuses a tree with a loop that does not, and names
the first one, in the order in which the tree is written.  `forEach` builds a loop and refuses it
at once.

Two trees are the same (`sameAs`) when they agree in everything but the kinds and elements of types
with one identity.
-/

namespace SampleForge

/-! ## Print arguments -/

/-- A variable in a print argument. -/
structure VariableSegment where
  /-- The name of the variable. -/
  name : String
  /-- Its type. -/
  type : TypeRef
  /-- Whether it holds an enum value even if its type says otherwise. -/
  enumValue : Bool := false
  deriving DecidableEq, Repr

/-- Whether a variable holds an enum value. -/
def VariableSegment.isEnum (v : VariableSegment) : Bool := v.enumValue || v.type.isEnum

/-- Whether two variables are the same. -/
def VariableSegment.sameAs (a b : VariableSegment) : Bool :=
  a.name = b.name && a.type.sameAs b.type && a.enumValue = b.enumValue

/-- A part of a print argument. -/
inductive ArgSegment where
  | text (s : String)
  | variable (v : VariableSegment)
  deriving DecidableEq, Repr

/-- Whether two parts are the same. -/
def ArgSegment.sameAs : ArgSegment → ArgSegment → Bool
  | .text s, .text t => s = t
  | .variable v, .variable w => v.sameAs w
  | _, _ => false

/-- The variable of a part that is one. -/
def ArgSegment.variable? : ArgSegment → Option VariableSegment
  | .text _ => none
  | .variable v => some v

/-- A print argument: its parts in order. -/
structure PrintArg where
  /-- The parts. -/
  segments : List ArgSegment := []
  deriving DecidableEq, Repr

/-- Whether two lists agree in length and, place by place, by a test. -/
def agree {α : Type} (same : α → α → Bool) : List α → List α → Bool
  | [], [] => true
  | a :: as, b :: bs => same a b && agree same as bs
  | _, _ => false

/-- Whether two print arguments are the same. -/
def PrintArg.sameAs (a b : PrintArg) : Bool := agree ArgSegment.sameAs a.segments b.segments

/-! ## Views -/

/-- A view. -/
inductive OutputView where
  /-- Binds a variable to a value of a type. -/
  | define (name : String) (type : TypeRef)
  /-- Binds a variable to each element of a collection in turn. -/
  | loop (name : String) (collection : TypeRef) (body : List OutputView)
  /-- Prints a format with its arguments. -/
  | print (format : String) (args : List PrintArg)
  /-- Writes the lines of a comment. -/
  | comment (lines : List String)
  deriving Inhabited

namespace OutputView

/-- The word for the kind of a view. -/
def word : OutputView → String
  | .define _ _ => "define"
  | .loop _ _ _ => "loop"
  | .print _ _ => "print"
  | .comment _ => "comment"

/-- The variables of print arguments, from left to right. -/
def variablesOf (args : List PrintArg) : List VariableSegment :=
  args.flatMap fun arg => arg.segments.filterMap ArgSegment.variable?

/-- What a loop runs over, if that is a collection. -/
def loopElement (name : String) (collection : TypeRef) : Except ViewError TypeRef :=
  match collection.element? with
  | some element => .ok element
  | none => .error (.notACollection name collection.identity)

mutual

/-- Refuses a view with a loop over something that is no collection. -/
def check : OutputView → Except ViewError Unit
| .loop name collection body => do
    let _ ← loopElement name collection
    checkAll body
| .define _ _ => .ok ()
| .print _ _ => .ok ()
| .comment _ => .ok ()

/-- Refuses the first of several views that must be refused. -/
def checkAll : List OutputView → Except ViewError Unit
| [] => .ok ()
| view :: rest => do
    check view
    checkAll rest

end

/-- A loop, refused unless it runs over a collection. -/
def forEach (name : String) (collection : TypeRef) (body : List OutputView) :
    Except ViewError OutputView := do
  let _ ← loopElement name collection
  return .loop name collection body

mutual

/-- Whether two views are the same. -/
def sameAs : OutputView → OutputView → Bool
| .define n t, .define m u => n = m && t.sameAs u
| .loop n t b, .loop m u c => n = m && t.sameAs u && sameAll b c
| .print f as, .print g bs => f = g && agree PrintArg.sameAs as bs
| .comment ls, .comment ms => ls = ms
| _, _ => false

/-- Whether two lists of views are the same. -/
def sameAll : List OutputView → List OutputView → Bool
| [], [] => true
| v :: vs, w :: ws => v.sameAs w && sameAll vs ws
| _, _ => false

end

section Tests

example : check (.loop "b" (.leaf .message "a.B") []) = .error (.notACollection "b" "a.B") := by
  rfl
example :
    sameAs (.define "b" (.leaf .message "a")) (.define "b" (.leaf .primitive "a")) = true := by
  decide +kernel

end Tests

end OutputView

end SampleForge
