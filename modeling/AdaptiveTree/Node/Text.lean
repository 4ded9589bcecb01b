import AdaptiveTree.Node.Instrument
import AdaptiveTree.Profile

/-!
# The text of a tree

A tree is written as nested lists: the name of a node, its attributes and its children, followed by
its span and a star if the node is marked. A single node and what it has observed have a line of
text each.
-/

set_option autoImplicit false

namespace AdaptiveTree

/-- The flags of a store, in brackets if there are any. -/
def StoreFlags.text (f : StoreFlags) : String :=
  match f.strict, f.own with
  | false, false => ""
  | true, false => "[strict]"
  | false, true => "[own]"
  | true, true => "[strict,own]"

/-- What follows a node in the text of a tree. -/
def Meta.suffix (m : Meta) : String :=
  (match m.span with | some s => "@" ++ s.text | none => "") ++ (if m.marked then "*" else "")

namespace Node

/-- The name and the attributes of a node. -/
def head (h : Heap) (n : Node) : String :=
  match n with
  | .const _ v => "const " ++ h.inspect v
  | .read _ slot => "read " ++ slotText slot
  | .write _ slot _ => "write " ++ slotText slot
  | .binary _ op _ _ => op.symbol
  | .writeElement _ flags _ _ _ => n.name ++ flags.text
  | .compound _ flags cache _ _ _ =>
    n.name ++ flags.text ++ (match cache with | some slot => " ->" ++ slotText slot | none => "")
  | .tagged m _ => n.name ++ m.tags.text
  | .patternLiteral _ p => n.name ++ " " ++ p.value.text
  | _ => n.name

/-- A node as a list of its head and the texts of its children. -/
def listText (h : Heap) (n : Node) (children : List String) : String :=
  "(" ++ String.intercalate " " (n.head h :: children) ++ ")" ++ n.info.suffix

mutual

/-- The text of a tree. -/
def text (h : Heap) : Node → String
  | .const m v => listText h (.const m v) []
  | .read m s => listText h (.read m s) []
  | .patternLiteral m p => listText h (.patternLiteral m p) []
  | .write m s v => listText h (.write m s v) [v.text h]
  | .binary m op l r => listText h (.binary m op l r) [l.text h, r.text h]
  | .readElement m t i => listText h (.readElement m t i) [t.text h, i.text h]
  | .writeElement m f t i v =>
    listText h (.writeElement m f t i v) [t.text h, i.text h, v.text h]
  | .compound m f c t i v => listText h (.compound m f c t i v) [t.text h, i.text h, v.text h]
  | .tagged m c => listText h (.tagged m c) [c.text h]
  | .sequence m ns => listText h (.sequence m ns) (textAll h ns)
  | .patternExec m p s a => listText h (.patternExec m p s a) [p.text h, s.text h, a.text h]
  | .listFormat m l o => listText h (.listFormat m l o) [l.text h, o.text h]

/-- The texts of several trees. -/
def textAll (h : Heap) : List Node → List String
  | [] => []
  | n :: ns => n.text h :: textAll h ns

end

/-- The text of a truth value. -/
def truthText (b : Bool) : String :=
  if b then "true" else "false"

/-- A node on one line: its name and metadata, the number of its children, whether it needs adapters
and whether it is an expression. A write adds the flags of its store. -/
def summary (n : Node) : String :=
  n.name ++ " " ++ n.info.text ++ " kids=" ++ Number.intText n.children.length ++
    " needed=" ++ truthText n.needsAdapters ++
    " expr=" ++ truthText (n.info.tags.contains .expression) ++
    match n with
    | .writeElement .. | .compound .. =>
      " strict=" ++ truthText n.storeFlags.strict ++ " own=" ++ truthText n.storeFlags.own
    | _ => ""

/-- What the site of a node has observed. -/
def siteText (n : Node) (s : Site) : String :=
  let kinds := " v=" ++ s.value.name ++ " i=" ++ s.index.name
  match n with
  | .binary _ op _ _ => op.symbol ++ " " ++ s.value.name
  | .writeElement .. => "set" ++ kinds
  | _ =>
    "cset" ++ kinds ++ " coerce=" ++ truthText s.targetCheck.isMade ++ " to_index=" ++
      match s.conversion.made? with
      | none => "none"
      | some k => "[" ++ k.text ++ "]"

/-- What the sites of a tree have observed, in the order of their numbers. -/
def siteTexts (n : Node) (p : Profile) : List String :=
  (n.preorder.filter isSite).zipIdx.map fun (n, i) => n.siteText (p.get i)

end Node

end AdaptiveTree
