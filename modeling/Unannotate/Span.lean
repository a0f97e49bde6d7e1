/-!
Trace spans.

A span covers the spans that were opened while it was open, so what a piece of work leaves behind is a
list of trees. Spans are exported when they end, children first.
-/
set_option autoImplicit false

namespace Unannotate

inductive AttributeValue
  | text (value : String)
  | integer (value : Int)
  deriving DecidableEq, Repr

def AttributeValue.shown : AttributeValue → String
  | text value => value
  | integer value => toString value

structure SpanLabel where
  name : String
  attributes : List (String × AttributeValue)
  deriving DecidableEq, Inhabited, Repr

inductive Span
  | node (label : SpanLabel) (children : List Span)
  deriving Repr

end Unannotate
