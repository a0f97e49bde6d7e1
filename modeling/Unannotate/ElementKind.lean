/-!
The kinds of class file location that can carry a retained annotation.

Local variables are absent: their annotations are not kept in class files.
-/
set_option autoImplicit false

namespace Unannotate

inductive ElementKind
  | type
  | field
  | constructor
  | method
  | parameter
  | recordComponent
  deriving DecidableEq, Repr

namespace ElementKind

/-- Every kind, in the order in which rules are dispatched and shown. -/
def all : List ElementKind := [type, field, constructor, method, parameter, recordComponent]

def name : ElementKind → String
  | type => "type"
  | field => "field"
  | constructor => "constructor"
  | method => "method"
  | parameter => "parameter"
  | recordComponent => "record-component"

/-- Position in `all`. -/
def index : ElementKind → Nat
  | type => 0
  | field => 1
  | constructor => 2
  | method => 3
  | parameter => 4
  | recordComponent => 5

theorem all_index (kind : ElementKind) : all[kind.index]? = some kind := by
  cases kind <;> rfl

theorem mem_all (kind : ElementKind) : kind ∈ all := by
  cases kind <;> decide

/-- Without separators and case, and without one final `s`. Folding ASCII letters is enough: no other
letter has a lower case form that occurs in the name of a kind. -/
def normalize (spelling : String) : List Char :=
  let letters := (spelling.toList.filter fun letter => letter ≠ '-' ∧ letter ≠ '_').map Char.toLower
  if letters.getLast? = some 's' then letters.dropLast else letters

/-- The kind that a spelling names: singular or plural, with `-`, `_` or no separator, in any case. -/
def ofSpelling? (spelling : String) : Option ElementKind :=
  match String.ofList (normalize spelling) with
  | "type" => some type
  | "field" => some field
  | "constructor" => some constructor
  | "method" => some method
  | "parameter" => some parameter
  | "recordcomponent" => some recordComponent
  | _ => none

/-- Names of all kinds as a message lists them. -/
def listing : String := ", ".intercalate (all.map name)

/-- Method names reserved for initializers. -/
def instanceInitializer : String := "<init>"

def classInitializer : String := "<clinit>"

/-- The kind of a method's own annotations; none for the class initializer, which carries no annotations
that a user wrote. -/
def ofMethodName? (methodName : String) : Option ElementKind :=
  if methodName = instanceInitializer then some constructor
  else if methodName = classInitializer then none
  else some method

end ElementKind

end Unannotate
