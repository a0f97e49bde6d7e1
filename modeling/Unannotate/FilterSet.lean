import Unannotate.ElementKind
import Unannotate.Matcher

/-!
Matchers for each kind of element.

An annotation is removed when any matcher of its kind accepts its name. Matchers of a kind keep the order
in which they were added.
-/
set_option autoImplicit false

namespace Unannotate

structure FilterSet where
  type : List Matcher := []
  field : List Matcher := []
  constructor : List Matcher := []
  method : List Matcher := []
  parameter : List Matcher := []
  recordComponent : List Matcher := []

namespace FilterSet

def empty : FilterSet := {}

def matchers (filters : FilterSet) : ElementKind → List Matcher
  | .type => filters.type
  | .field => filters.field
  | .constructor => filters.constructor
  | .method => filters.method
  | .parameter => filters.parameter
  | .recordComponent => filters.recordComponent

def add (filters : FilterSet) (kind : ElementKind) (matcher : Matcher) : FilterSet :=
  match kind with
  | .type => { filters with type := filters.type ++ [matcher] }
  | .field => { filters with field := filters.field ++ [matcher] }
  | .constructor => { filters with constructor := filters.constructor ++ [matcher] }
  | .method => { filters with method := filters.method ++ [matcher] }
  | .parameter => { filters with parameter := filters.parameter ++ [matcher] }
  | .recordComponent => { filters with recordComponent := filters.recordComponent ++ [matcher] }

def shouldRemove (filters : FilterSet) (kind : ElementKind) (name : String) : Bool :=
  (filters.matchers kind).any (·.accepts name)

def isEmpty (filters : FilterSet) : Bool :=
  ElementKind.all.all fun kind => (filters.matchers kind).isEmpty

theorem matchers_add (filters : FilterSet) (added kind : ElementKind) (matcher : Matcher) :
    (filters.add added matcher).matchers kind =
      if kind = added then filters.matchers kind ++ [matcher] else filters.matchers kind := by
  cases added <;> cases kind <;> rfl

end FilterSet

end Unannotate
