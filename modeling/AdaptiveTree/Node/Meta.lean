import AdaptiveTree.Number.Text

/-!
# Metadata of nodes

A node may have a span of source text and has a set of tags, by which tools choose the nodes they
are interested in.
-/

set_option autoImplicit false

namespace AdaptiveTree

/-- A range of the source text. -/
structure Span where
  start : UInt32
  len : UInt32
deriving DecidableEq, Repr

namespace Span

/-- The offset past the last one, at most the greatest offset there is. -/
def stop (s : Span) : Nat :=
  min (s.start.toNat + s.len.toNat) 4294967295

/-- The text of a span. -/
def text (s : Span) : String :=
  Number.intText s.start.toNat ++ ".." ++ Number.intText s.stop

end Span

/-- A tag of a node. -/
inductive Tag where
  | root | statement | expression | call | literal | readVariable | writeVariable
  | binaryOperation | readElement | writeElement
deriving DecidableEq, Repr

namespace Tag

/-- All tags, in order. -/
def all : List Tag :=
  [root, statement, expression, call, literal, readVariable, writeVariable, binaryOperation,
    readElement, writeElement]

/-- The place of a tag in the order. -/
def index : Tag → Nat
  | .root => 0
  | .statement => 1
  | .expression => 2
  | .call => 3
  | .literal => 4
  | .readVariable => 5
  | .writeVariable => 6
  | .binaryOperation => 7
  | .readElement => 8
  | .writeElement => 9

/-- The name of a tag. -/
def name : Tag → String
  | .root => "root"
  | .statement => "statement"
  | .expression => "expression"
  | .call => "call"
  | .literal => "literal"
  | .readVariable => "read-variable"
  | .writeVariable => "write-variable"
  | .binaryOperation => "binary-operation"
  | .readElement => "read-element"
  | .writeElement => "write-element"

/-- The tag with the given name. -/
def ofName? (s : String) : Option Tag :=
  all.find? fun t => t.name == s

/-- The name of a tag in a listing for developers. -/
def label : Tag → String
  | .root => "Root"
  | .statement => "Statement"
  | .expression => "Expression"
  | .call => "Call"
  | .literal => "Literal"
  | .readVariable => "ReadVariable"
  | .writeVariable => "WriteVariable"
  | .binaryOperation => "BinaryOperation"
  | .readElement => "ReadElementExpression"
  | .writeElement => "WriteElementExpression"

end Tag

/-- A set of tags, one bit for each. -/
structure TagSet where
  bits : Nat := 0
deriving DecidableEq, Repr

namespace TagSet

/-- The empty set. -/
def empty : TagSet := ⟨0⟩

/-- Whether the tag is in the set. -/
def contains (s : TagSet) (t : Tag) : Bool :=
  s.bits.testBit t.index

/-- The union of two sets. -/
def union (a b : TagSet) : TagSet :=
  ⟨a.bits ||| b.bits⟩

/-- The set of one tag. -/
def of (t : Tag) : TagSet :=
  ⟨1 <<< t.index⟩

/-- The set with one more tag. -/
def insert (s : TagSet) (t : Tag) : TagSet :=
  s.union (of t)

/-- The set of some tags. -/
def ofList (ts : List Tag) : TagSet :=
  ts.foldl insert empty

/-- The tags of a set, in order. -/
def toList (s : TagSet) : List Tag :=
  Tag.all.filter s.contains

/-- The set as a text. -/
def text (s : TagSet) : String :=
  "\x7b" ++ String.intercalate "," (s.toList.map Tag.name) ++ "\x7d"

/-- The set as a listing for developers. -/
def listing (s : TagSet) : String :=
  "\x7b" ++ String.intercalate ", " (s.toList.map Tag.label) ++ "\x7d"

/-- A tag is in a union when it is in one of the sets. -/
@[simp] theorem contains_union (a b : TagSet) (t : Tag) :
    (a.union b).contains t = (a.contains t || b.contains t) := by
  simp [union, contains]

end TagSet

/-- The metadata of a node. A node is marked when adapters have been put above its children. -/
structure Meta where
  span : Option Span := none
  tags : TagSet := {}
  marked : Bool := false
deriving DecidableEq, Repr

/-- The metadata as it is shown in a trace. -/
def Meta.text (m : Meta) : String :=
  m.tags.text ++ "@" ++ (match m.span with | some s => s.text | none => "-") ++
    (if m.marked then "*" else "")

end AdaptiveTree
