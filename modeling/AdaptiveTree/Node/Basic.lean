import AdaptiveTree.Arithmetic
import AdaptiveTree.Frame
import AdaptiveTree.Node.Meta

/-!
# Nodes

A program is a tree of nodes. The tree itself never changes; what its nodes learn while they run is
kept in a profile. Nodes that learn are the sites of the tree, numbered from the root down and from
left to right.
-/

set_option autoImplicit false

namespace AdaptiveTree

/-- A node of a program. -/
inductive Node where
  | const (m : Meta) (v : Value)
  | read (m : Meta) (slot : Nat)
  | write (m : Meta) (slot : Nat) (value : Node)
  | binary (m : Meta) (op : Op) (left right : Node)
  | readElement (m : Meta) (target index : Node)
  | writeElement (m : Meta) (flags : StoreFlags) (target index value : Node)
  /-- A store for which the index is also kept in the slot `cache`, so that the value can read the
  element it replaces. -/
  | compound (m : Meta) (flags : StoreFlags) (cache : Option Nat) (target index value : Node)
  /-- Reports the evaluation of its child. -/
  | tagged (m : Meta) (child : Node)
  | sequence (m : Meta) (items : List Node)
  | patternLiteral (m : Meta) (p : Handle Pattern)
  | patternExec (m : Meta) (pattern subject start : Node)
  | listFormat (m : Meta) (locales options : Node)

namespace Node

instance : Inhabited Node := ⟨.const {} .undefined⟩

/-- The metadata of a node. -/
def info : Node → Meta
  | .const m _ | .read m _ | .write m _ _ | .binary m _ _ _ | .readElement m _ _
  | .writeElement m _ _ _ _ | .compound m _ _ _ _ _ | .tagged m _ | .sequence m _
  | .patternLiteral m _ | .patternExec m _ _ _ | .listFormat m _ _ => m

/-- The node with other metadata. -/
def withMeta (m : Meta) : Node → Node
  | .const _ v => .const m v
  | .read _ s => .read m s
  | .write _ s v => .write m s v
  | .binary _ op l r => .binary m op l r
  | .readElement _ t i => .readElement m t i
  | .writeElement _ f t i v => .writeElement m f t i v
  | .compound _ f c t i v => .compound m f c t i v
  | .tagged _ c => .tagged m c
  | .sequence _ ns => .sequence m ns
  | .patternLiteral _ p => .patternLiteral m p
  | .patternExec _ p s a => .patternExec m p s a
  | .listFormat _ l o => .listFormat m l o

/-- The children of a node in the order of evaluation. -/
def children : Node → List Node
  | .const .. | .read .. | .patternLiteral .. => []
  | .write _ _ v => [v]
  | .binary _ _ l r => [l, r]
  | .readElement _ t i => [t, i]
  | .writeElement _ _ t i v => [t, i, v]
  | .compound _ _ _ t i v => [t, i, v]
  | .tagged _ c => [c]
  | .sequence _ ns => ns
  | .patternExec _ p s a => [p, s, a]
  | .listFormat _ l o => [l, o]

/-- The node with each child replaced. -/
def mapChildren (f : Node → Node) : Node → Node
  | .write m s v => .write m s (f v)
  | .binary m op l r => .binary m op (f l) (f r)
  | .readElement m t i => .readElement m (f t) (f i)
  | .writeElement m g t i v => .writeElement m g (f t) (f i) (f v)
  | .compound m g c t i v => .compound m g c (f t) (f i) (f v)
  | .tagged m c => .tagged m (f c)
  | .sequence m ns => .sequence m (ns.map f)
  | .patternExec m p s a => .patternExec m (f p) (f s) (f a)
  | .listFormat m l o => .listFormat m (f l) (f o)
  | n => n

/-- The name of the kind of a node. -/
def name : Node → String
  | .const .. => "const"
  | .read .. => "read"
  | .write .. => "write"
  | .binary .. => "binary"
  | .readElement .. => "read-element"
  | .writeElement .. => "write-element"
  | .compound .. => "compound-write-element"
  | .tagged .. => "tagged"
  | .sequence .. => "seq"
  | .patternLiteral .. => "pattern"
  | .patternExec .. => "pattern-exec"
  | .listFormat .. => "list-format"

/-- The flags of the store that a node makes; a node that makes none has none set. -/
def storeFlags : Node → StoreFlags
  | .writeElement _ flags _ _ _ | .compound _ flags _ _ _ _ => flags
  | _ => {}

/-- Whether the node is an adapter that reports. -/
def isTagged : Node → Bool
  | .tagged .. => true
  | _ => false

mutual

/-- Number of sites in the tree. -/
def sites : Node → Nat
  | .const .. | .read .. | .patternLiteral .. => 0
  | .write _ _ v => v.sites
  | .binary _ _ l r => 1 + l.sites + r.sites
  | .readElement _ t i => t.sites + i.sites
  | .writeElement _ _ t i v => 1 + t.sites + i.sites + v.sites
  | .compound _ _ _ t i v => 1 + t.sites + i.sites + v.sites
  | .tagged _ c => c.sites
  | .sequence _ ns => sitesAll ns
  | .patternExec _ p s a => p.sites + s.sites + a.sites
  | .listFormat _ l o => l.sites + o.sites

/-- Number of sites in several trees. -/
def sitesAll : List Node → Nat
  | [] => 0
  | n :: ns => n.sites + sitesAll ns

end

mutual

/-- All nodes of the tree, from the root down and from left to right. -/
def preorder : Node → List Node
  | .const m v => [.const m v]
  | .read m s => [.read m s]
  | .patternLiteral m p => [.patternLiteral m p]
  | .write m s v => .write m s v :: v.preorder
  | .binary m op l r => .binary m op l r :: (l.preorder ++ r.preorder)
  | .readElement m t i => .readElement m t i :: (t.preorder ++ i.preorder)
  | .writeElement m f t i v =>
    .writeElement m f t i v :: (t.preorder ++ i.preorder ++ v.preorder)
  | .compound m f c t i v => .compound m f c t i v :: (t.preorder ++ i.preorder ++ v.preorder)
  | .tagged m c => .tagged m c :: c.preorder
  | .sequence m ns => .sequence m ns :: preorderAll ns
  | .patternExec m p s a => .patternExec m p s a :: (p.preorder ++ s.preorder ++ a.preorder)
  | .listFormat m l o => .listFormat m l o :: (l.preorder ++ o.preorder)

/-- All nodes of several trees. -/
def preorderAll : List Node → List Node
  | [] => []
  | n :: ns => n.preorder ++ preorderAll ns

end

/-- Whether the node is a site. -/
def isSite : Node → Bool
  | .binary .. | .writeElement .. | .compound .. => true
  | _ => false

end Node

end AdaptiveTree
