import AdaptiveTree.Node.Basic

/-!
# Nodes and their children

A node is determined by its metadata, its children and the rest (`Node.ext_bare`). What holds of all
kinds of nodes is proved by induction on children (`Node.induction_children`), with no regard to the
kind.
-/

set_option autoImplicit false

namespace AdaptiveTree.Node

/-- What is left of a node without its metadata and with nothing in the place of its children: its
kind, operator, slots, flags and constants, and the number of its children. -/
def bare (n : Node) : Node :=
  (n.mapChildren fun _ => .const {} .undefined).withMeta {}

theorem ext_bare {n n' : Node} (hbare : n.bare = n'.bare) (hinfo : n.info = n'.info)
    (hchildren : n.children = n'.children) : n = n' := by
  cases n <;> cases n' <;> simp_all [bare, mapChildren, withMeta, info, children]

theorem sizeOf_lt_of_mem_children {n c : Node} (h : c ∈ n.children) : sizeOf c < sizeOf n := by
  cases n with
  | sequence m ns =>
    have hc := List.sizeOf_lt_of_mem (show c ∈ ns from h)
    simp only [sequence.sizeOf_spec]
    omega
  | _ => simp_all [children] <;> grind

/-- What holds of a node if it holds of its children holds of every node. -/
@[elab_as_elim]
theorem induction_children {P : Node → Prop} (node : ∀ n : Node, (∀ c ∈ n.children, P c) → P n)
    (n : Node) : P n :=
  node n fun c _ => induction_children node c
termination_by sizeOf n
decreasing_by exact sizeOf_lt_of_mem_children ‹_›

@[simp] theorem children_mapChildren (g : Node → Node) (n : Node) :
    (n.mapChildren g).children = n.children.map g := by
  cases n <;> rfl

@[simp] theorem info_mapChildren (g : Node → Node) (n : Node) :
    (n.mapChildren g).info = n.info := by
  cases n <;> rfl

@[simp] theorem bare_mapChildren (g : Node → Node) (n : Node) :
    (n.mapChildren g).bare = n.bare := by
  cases n <;> simp [bare, mapChildren, withMeta, Function.comp_def]

@[simp] theorem children_withMeta (m : Meta) (n : Node) :
    (n.withMeta m).children = n.children := by
  cases n <;> rfl

@[simp] theorem info_withMeta (m : Meta) (n : Node) : (n.withMeta m).info = m := by
  cases n <;> rfl

@[simp] theorem bare_withMeta (m : Meta) (n : Node) : (n.withMeta m).bare = n.bare := by
  cases n <;> rfl

@[simp] theorem mapChildren_withMeta (g : Node → Node) (m : Meta) (n : Node) :
    (n.withMeta m).mapChildren g = (n.mapChildren g).withMeta m := by
  cases n <;> rfl

end AdaptiveTree.Node
