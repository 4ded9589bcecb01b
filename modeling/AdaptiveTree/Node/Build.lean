import AdaptiveTree.Node.Instrument

/-!
# Building trees

Nodes with the tags that tools expect of them. Element writes get the store flags of the builder. A
compound assignment keeps its target and its index in two temporaries, so that the old value is read
from exactly the place that the new one is stored to.
-/

set_option autoImplicit false

namespace AdaptiveTree

/-- Builds nodes with standard tags and the given store flags. -/
structure Builder where
  flags : StoreFlags

namespace Builder

/-- The metadata of an expression with one more tag. -/
def expression (t : Tag) : Meta :=
  { tags := (TagSet.of .expression).insert t }

/-- A constant. -/
def const (v : Value) : Node :=
  .const (expression .literal) v

/-- The value of a local slot. -/
def read (slot : Nat) : Node :=
  .read (expression .readVariable) slot

/-- An assignment to a local slot. -/
def write (slot : Nat) (value : Node) : Node :=
  .write (expression .writeVariable) slot value

/-- An arithmetic operation. -/
def binary (op : Op) (l r : Node) : Node :=
  .binary (expression .binaryOperation) op l r

/-- The element of a target under an index. -/
def readElement (target index : Node) : Node :=
  .readElement (expression .readElement) target index

/-- An assignment to an element. -/
def writeElement (b : Builder) (target index value : Node) : Node :=
  .writeElement (expression .writeElement) b.flags target index value

/-- An assignment to an element that keeps the index in a local slot. -/
def compoundWrite (b : Builder) (target index value : Node) (cache : Option Nat) : Node :=
  .compound (expression .writeElement) b.flags cache target index value

/-- The assignment of `op` applied to an element and `rhs` to that element. -/
def compoundAssign (b : Builder) (layout : Layout) (op : Op) (target index rhs : Node) :
    Node × Layout :=
  let (targetSlot, layout) := layout.addTemp
  let (indexSlot, layout) := layout.addTemp
  let old := readElement (read targetSlot) (read indexSlot)
  (b.compoundWrite (write targetSlot target) index (binary op old rhs) (some indexSlot), layout)

/-- Nodes to be evaluated one after the other. -/
def sequence (items : List Node) : Node :=
  .sequence { tags := .of .statement } items

/-- A compiled pattern. -/
def patternLiteral (p : Handle Pattern) : Node :=
  .patternLiteral (expression .literal) p

/-- A match of a pattern in a subject from a start offset on. -/
def patternExec (pattern subject start : Node) : Node :=
  .patternExec (expression .call) pattern subject start

/-- A list format. -/
def listFormat (locales options : Node) : Node :=
  .listFormat (expression .call) locales options

end Builder

end AdaptiveTree
