import AdaptiveTree.Node.Basic

/-!
# Instrumentation

A tool asks for nodes with certain tags. Where such a node has a child without a source span, every
such child gets an adapter above it that reports its evaluation under the span of the node, and the
node is marked, so that it is left alone the next time. Adapters are no sites, so the sites of a
tree keep their numbers.
-/

set_option autoImplicit false

namespace AdaptiveTree.Node

/-- The tag by which tools ask for a kind of node; only arithmetic and elements have one. -/
def toolTag? : Node → Option Tag
  | .binary .. => some .binaryOperation
  | .readElement .. => some .readElement
  | .writeElement .. | .compound .. => some .writeElement
  | _ => none

/-- Whether a child needs an adapter before a tool can follow it. -/
def lacksSpan (child : Node) : Bool :=
  child.info.span.isNone && !child.isTagged

/-- Whether the node is unmarked and has a child that a tool cannot follow. -/
def needsAdapters (n : Node) : Bool :=
  !n.info.marked && n.children.any lacksSpan

/-- Whether adapters are put above children of the node for a tool that asks for `filter`. -/
def selected (filter : TagSet) (n : Node) : Bool :=
  match n.toolTag? with
  | some t => filter.contains t && n.needsAdapters
  | none => false

/-- The metadata of an adapter under a node with the given span. -/
def adapterMeta (span : Option Span) : Meta :=
  { span, tags := .of .expression, marked := true }

/-- An adapter above a child. -/
def wrap (child : Node) (span : Option Span) : Node :=
  .tagged (adapterMeta span) child

/-- The child in the place of `child`, with an adapter above it if `child` has no span. -/
def adapt (span : Option Span) (child replacement : Node) : Node :=
  if child.info.span.isSome then replacement else replacement.wrap span

/-- The metadata with the mark set. -/
def marked (m : Meta) : Meta :=
  { m with marked := true }

/-- The node with adapters above its children, if it is selected. -/
def materialize (filter : TagSet) (n : Node) : Node :=
  if n.selected filter then
    (n.mapChildren fun c => adapt n.info.span c c).withMeta (marked n.info)
  else n

/-- The metadata of a node after instrumentation. -/
def instrumentedMeta (filter : TagSet) (n : Node) : Meta :=
  if n.selected filter then marked n.info else n.info

/-- What stands in the place of a child after instrumentation of a node. -/
def instrumentedChild (filter : TagSet) (n child replacement : Node) : Node :=
  if n.selected filter then adapt n.info.span child replacement else replacement

mutual

/-- The tree with adapters above children of all selected nodes. -/
def instrument (filter : TagSet) : Node → Node
  | .const m v => .const m v
  | .read m s => .read m s
  | .patternLiteral m p => .patternLiteral m p
  | .write m s v => .write m s (v.instrument filter)
  | .binary m op l r =>
    let n := Node.binary m op l r
    .binary (n.instrumentedMeta filter) op
      (n.instrumentedChild filter l (l.instrument filter))
      (n.instrumentedChild filter r (r.instrument filter))
  | .readElement m t i =>
    let n := Node.readElement m t i
    .readElement (n.instrumentedMeta filter)
      (n.instrumentedChild filter t (t.instrument filter))
      (n.instrumentedChild filter i (i.instrument filter))
  | .writeElement m f t i v =>
    let n := Node.writeElement m f t i v
    .writeElement (n.instrumentedMeta filter) f
      (n.instrumentedChild filter t (t.instrument filter))
      (n.instrumentedChild filter i (i.instrument filter))
      (n.instrumentedChild filter v (v.instrument filter))
  | .compound m f c t i v =>
    let n := Node.compound m f c t i v
    .compound (n.instrumentedMeta filter) f c
      (n.instrumentedChild filter t (t.instrument filter))
      (n.instrumentedChild filter i (i.instrument filter))
      (n.instrumentedChild filter v (v.instrument filter))
  | .tagged m c => .tagged m (c.instrument filter)
  | .sequence m ns => .sequence m (instrumentAll filter ns)
  | .patternExec m p s a =>
    .patternExec m (p.instrument filter) (s.instrument filter) (a.instrument filter)
  | .listFormat m l o => .listFormat m (l.instrument filter) (o.instrument filter)

/-- Instruments several trees. -/
def instrumentAll (filter : TagSet) : List Node → List Node
  | [] => []
  | n :: ns => n.instrument filter :: instrumentAll filter ns

end

end AdaptiveTree.Node
