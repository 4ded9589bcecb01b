import AdaptiveTree.Node.Instrument
import AdaptiveTree.Routine

/-!
# Instrumenting twice

A tree that is instrumented for one tool and then for another is the tree instrumented once for both
(`instrument_union`), so that neither repetition nor the order of tools matters
(`instrument_composes`).

The second pass meets marks, adapters and instrumented children. None of them changes what it
decides: a node keeps its kind and its span, and a marked node is not selected again
(`selected_instrument`). So the two passes agree with the one pass node by node
(`instrumentedMeta_instrument`, `instrumentedChild_instrument`).
-/

set_option autoImplicit false

namespace AdaptiveTree

@[simp] theorem TagSet.union_self (f : TagSet) : f.union f = f := by
  simp [union]

theorem TagSet.union_comm (f g : TagSet) : f.union g = g.union f := by
  simp [union, Nat.or_comm]

namespace Node

variable (f g : TagSet)

/-! ## What a pass leaves as it is -/

theorem instrumentAll_eq_map (ns : List Node) : instrumentAll f ns = ns.map (instrument f) := by
  induction ns with
  | nil => rfl
  | cons n ns ih => simp only [instrumentAll, List.map_cons, ih]

@[simp] theorem toolTag?_instrument (t : Node) : (t.instrument f).toolTag? = t.toolTag? := by
  cases t <;> simp [instrument, toolTag?]

@[simp] theorem isTagged_instrument (t : Node) : (t.instrument f).isTagged = t.isTagged := by
  cases t <;> simp [instrument, isTagged]

theorem info_instrument (t : Node) : (t.instrument f).info = t.instrumentedMeta f := by
  cases t <;> simp [instrument, instrumentedMeta, selected, toolTag?, info]

@[simp] theorem span_instrument (t : Node) : (t.instrument f).info.span = t.info.span := by
  rw [info_instrument, instrumentedMeta]
  split <;> rfl

@[simp] theorem lacksSpan_instrument (t : Node) : (t.instrument f).lacksSpan = t.lacksSpan := by
  simp [lacksSpan]

theorem children_instrument (t : Node) : (t.instrument f).children =
    t.children.map fun c => t.instrumentedChild f c (c.instrument f) := by
  cases t <;> simp [instrument, children, instrumentedChild, selected, toolTag?,
    instrumentAll_eq_map]

/-! ## The second pass -/

theorem selected_union (t : Node) :
    t.selected (f.union g) = (t.selected f || t.selected g) := by
  unfold selected
  cases t.toolTag? with
  | none => rfl
  | some tag => simp [Bool.and_or_distrib_right]

/-- A node that the first pass selects is marked, and the second pass leaves it alone. Any other
node has children with the same spans as before. -/
theorem selected_instrument (t : Node) :
    (t.instrument f).selected g = (!t.selected f && t.selected g) := by
  cases hf : t.selected f with
  | true =>
    have hmark : (t.instrument f).info.marked = true := by
      simp [info_instrument, instrumentedMeta, hf, marked]
    simp only [selected, needsAdapters, hmark]
    cases (t.instrument f).toolTag? <;> simp
  | false =>
    have hmark : (t.instrument f).info.marked = t.info.marked := by
      simp [info_instrument, instrumentedMeta, hf]
    have hneeds : (t.instrument f).needsAdapters = t.needsAdapters := by
      simp [needsAdapters, hmark, children_instrument, instrumentedChild, hf, Function.comp_def]
    simp [selected, hneeds]

theorem instrumentedMeta_instrument (t : Node) :
    (t.instrument f).instrumentedMeta g = t.instrumentedMeta (f.union g) := by
  have hsel := selected_instrument f g t
  unfold instrumentedMeta at *
  rw [hsel, selected_union, info_instrument, instrumentedMeta]
  cases t.selected f <;> rfl

/-- An adapter stays where it is, and what is under it is instrumented. -/
theorem instrument_adapt (span : Option Span) (child replacement : Node) :
    (adapt span child replacement).instrument g = adapt span child (replacement.instrument g) := by
  unfold adapt wrap
  split
  · rfl
  · simp only [instrument]

theorem instrumentedChild_instrument (t : Node) {c : Node}
    (hc : (c.instrument f).instrument g = c.instrument (f.union g)) :
    (t.instrument f).instrumentedChild g (t.instrumentedChild f c (c.instrument f))
        ((t.instrumentedChild f c (c.instrument f)).instrument g) =
      t.instrumentedChild (f.union g) c (c.instrument (f.union g)) := by
  have hsel := selected_instrument f g t
  unfold instrumentedChild
  rw [hsel, selected_union]
  cases t.selected f with
  | true => simp [instrument_adapt, hc]
  | false => simp [hc, adapt]

mutual

/-- Two passes, each for the tags of one tool, are one pass for the tags of both. -/
theorem instrument_union : ∀ t : Node,
    (t.instrument f).instrument g = t.instrument (f.union g)
  | .const .. | .read .. | .patternLiteral .. => by simp only [instrument]
  | .write _ _ v => by simp only [instrument, instrument_union v]
  | .binary m op l r => by
    have hn := instrumentedMeta_instrument f g (.binary m op l r)
    have hl := instrumentedChild_instrument f g (.binary m op l r) (instrument_union l)
    have hr := instrumentedChild_instrument f g (.binary m op l r) (instrument_union r)
    simp only [instrument] at hn hl hr
    simp only [instrument, hn, hl, hr]
  | .readElement m t i => by
    have hn := instrumentedMeta_instrument f g (.readElement m t i)
    have ht := instrumentedChild_instrument f g (.readElement m t i) (instrument_union t)
    have hi := instrumentedChild_instrument f g (.readElement m t i) (instrument_union i)
    simp only [instrument] at hn ht hi
    simp only [instrument, hn, ht, hi]
  | .writeElement m s t i v => by
    have hn := instrumentedMeta_instrument f g (.writeElement m s t i v)
    have ht := instrumentedChild_instrument f g (.writeElement m s t i v) (instrument_union t)
    have hi := instrumentedChild_instrument f g (.writeElement m s t i v) (instrument_union i)
    have hv := instrumentedChild_instrument f g (.writeElement m s t i v) (instrument_union v)
    simp only [instrument] at hn ht hi hv
    simp only [instrument, hn, ht, hi, hv]
  | .compound m s c t i v => by
    have hn := instrumentedMeta_instrument f g (.compound m s c t i v)
    have ht := instrumentedChild_instrument f g (.compound m s c t i v) (instrument_union t)
    have hi := instrumentedChild_instrument f g (.compound m s c t i v) (instrument_union i)
    have hv := instrumentedChild_instrument f g (.compound m s c t i v) (instrument_union v)
    simp only [instrument] at hn ht hi hv
    simp only [instrument, hn, ht, hi, hv]
  | .tagged _ c => by simp only [instrument, instrument_union c]
  | .sequence _ ns => by simp only [instrument, instrumentAll_union ns]
  | .patternExec _ p s a => by
    simp only [instrument, instrument_union p, instrument_union s, instrument_union a]
  | .listFormat _ l o => by simp only [instrument, instrument_union l, instrument_union o]

theorem instrumentAll_union : ∀ ns : List Node,
    instrumentAll g (instrumentAll f ns) = instrumentAll (f.union g) ns
  | [] => rfl
  | n :: ns => by simp only [instrumentAll, instrument_union n, instrumentAll_union ns]

end

/-- Instrumenting composes: for one tool after another it is instrumenting for the tags of both, so
that a repetition does nothing and the order of the tools does not matter. A routine gets the same
tree from two passes as from the one, and has learnt nothing after either. -/
theorem instrument_composes (t : Node) (f g : TagSet) :
    (t.instrument f).instrument g = t.instrument (f.union g) ∧
      (t.instrument f).instrument f = t.instrument f ∧
      (t.instrument f).instrument g = (t.instrument g).instrument f ∧
      ∀ (r : Routine) (epoch later : Nat),
        let once := r.withRoot (t.instrument f) epoch
        once.withRoot (once.root.instrument g) later =
          r.withRoot (t.instrument (f.union g)) later := by
  have hunion := instrument_union f g t
  refine ⟨hunion, ?_, ?_, fun r epoch later => ?_⟩
  · rw [instrument_union, TagSet.union_self]
  · rw [hunion, instrument_union, TagSet.union_comm]
  · simp only [Routine.withRoot, Routine.ofRoot, hunion]

end Node

end AdaptiveTree
