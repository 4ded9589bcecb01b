import AdaptiveTree.Proofs.Activation
import AdaptiveTree.Proofs.Exec.InStep

/-!
# What an execution leaves alone

An execution of a tree writes the slots of its writes and the slots in which its compound writes
keep their indices, and no others. It stores to the objects that are reached from the frame or from
the constants of the tree, to the arrays that its matches make, and to no others
(`run_leaves_alone`). This holds on every channel, whatever was learnt before, and for executions
that fail as well.

Which objects an execution stores to is only known at run time, as it reads its targets from
objects that it changes. What bounds them is that objects out of reach stay out of reach (`Local`).
To show this, the execution is taken in step with itself.
-/

set_option autoImplicit false

namespace AdaptiveTree.Node

open Exec

/-- From `m` to `n`, all slots are the same but for those that the tree writes, and the frame has
not shrunk. All objects are the same but for those that are reached from the frame at the start or
from the constants of the tree. -/
structure LeavesAlone (t : Node) (m n : Machine) : Prop where
  slot : ∀ s, s ∉ t.assigned → n.frame.get s = m.frame.get s
  size : m.frame.size ≤ n.frame.size
  object : ∀ id, id < m.heap.objects.size →
    ¬ m.heap.Reaches (m.frame.slots.toList ++ t.constants) id →
    n.heap.objects[id]? = m.heap.objects[id]?

/-- An execution of the tree from `m` on: it may write the slots that the tree writes, and what is
out of its reach are the objects that neither the frame nor the constants reach. -/
def reach (t : Node) (m : Machine) : Scope where
  kept := []
  assigned := t.assigned
  out id := id < m.heap.objects.size ∧ ¬ m.heap.Reaches (m.frame.slots.toList ++ t.constants) id
  start := m

variable (t : Node) {m n : Machine}

/-- A value that is an object only if the start reaches it. -/
theorem inside_reach {v : Value}
    (h : ∀ id, v = .object id → m.heap.Reaches (m.frame.slots.toList ++ t.constants) id) :
    (t.reach m).Inside v :=
  fun id hv hout => hout.2 (h id hv)

theorem inside_get (s : Nat) : (t.reach m).Inside (m.frame.get s) := by
  by_cases hs : s < m.frame.slots.size
  · have hget : m.frame.get s = m.frame.slots[s] := by simp [Frame.get, hs]
    have hmem : m.frame.get s ∈ m.frame.slots.toList := by
      rw [hget]
      exact Array.getElem_mem_toList hs
    exact t.inside_reach fun id hid => .root (List.mem_append_left _ (hid ▸ hmem))
  · have hget : m.frame.get s = .undefined := by simp [Frame.get, hs]
    rw [hget]
    exact .of_plain rfl

/-- At the start nothing has changed, and what is reached does not hold what is not. -/
theorem local_start : Local (t.reach m) m where
  size := Nat.le_refl _
  slot _ _ := rfl
  known := t.inside_get
  held id hid v hv := by
    by_cases hlt : id < m.heap.objects.size
    · have hreaches : m.heap.Reaches (m.frame.slots.toList ++ t.constants) id := by
        by_contra hnot
        exact hid ⟨hlt, hnot⟩
      exact t.inside_reach fun id' hv' => .held hreaches (hv' ▸ hv)
    · rw [Heap.get_of_size_le (Nat.le_of_not_lt hlt)] at hv
      exact absurd hv (Object.not_holds_default v)
  bound _ hid := hid.1
  untouched _ _ := rfl

theorem LeavesAlone.of_local (h : Local (t.reach m) n) : t.LeavesAlone m n where
  slot := h.slot
  size := h.size
  object id hlt hreaches := by
    have hout : (t.reach m).out id := ⟨hlt, hreaches⟩
    have hget : n.heap.get id = m.heap.get id := h.untouched id hout
    have hn : n.heap.objects[id]? = some (n.heap.get id) := by simp [Heap.get, h.bound id hout]
    have hm : m.heap.objects[id]? = some (m.heap.get id) := by simp [Heap.get, hlt]
    rw [hn, hm, hget]

/-- An execution of a tree writes no slots but those of its writes and of the indices that its
compound writes keep, and its frame does not shrink. It changes no objects but those that are
reached from its frame or from the constants of the tree. -/
theorem run_leaves_alone (env : Env) (base : Nat) (m : Machine) :
    t.LeavesAlone m ((t.runner env base).generic m).2 ∧
    t.LeavesAlone m ((t.runner env base).int m).2 ∧
    t.LeavesAlone m ((t.runner env base).double m).2 := by
  have hrun : (t.runner env base).InStep (t.reach m) (t.cells base) false :=
    t.runner_inStep env base (indexOnly_nil false t) (List.Subset.refl _) fun v hv =>
      t.inside_reach fun id hid => .root (List.mem_append_right _ (hid ▸ hv))
  have hstart : InStep (t.reach m) (t.cells base) m m :=
    ⟨.refl _ m, t.local_start⟩
  exact ⟨.of_local t (hrun.generic.local_end hstart), .of_local t (hrun.int.local_end hstart),
    .of_local t (hrun.double.local_end hstart)⟩

end AdaptiveTree.Node
