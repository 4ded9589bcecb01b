import AdaptiveTree.Proofs.Children
import AdaptiveTree.Proofs.Instrument
import AdaptiveTree.Proofs.Instrument.Union

/-!
# Where adapters are put

`Node.Adapted f t t'` says node by node what `t'` must be to be `t` with adapters for the tool that
asks for `f`, and nothing else changed. Instrumentation gives the one such tree (`adapted_iff`).
Taking the adapters and the marks of the nodes above them out again gives `t` (`prune_instrument`),
and for a tool that asks for no tag of a node that can get adapters, there are none to take out
(`instrument_eq_self`). `instrument_inserts` puts this together.
-/

set_option autoImplicit false

namespace AdaptiveTree.Node

/-! ## The tree with its adapters -/

/-- The tag by which tools ask for nodes of a kind. Only arithmetic and elements have one, and a
compound write is asked for as an element write. -/
inductive HasToolTag : Node → Tag → Prop
  | binary (m : Meta) (op : Op) (l r : Node) : HasToolTag (.binary m op l r) .binaryOperation
  | readElement (m : Meta) (t i : Node) : HasToolTag (.readElement m t i) .readElement
  | writeElement (m : Meta) (flags : StoreFlags) (t i v : Node) :
      HasToolTag (.writeElement m flags t i v) .writeElement
  | compound (m : Meta) (flags : StoreFlags) (cache : Option Nat) (t i v : Node) :
      HasToolTag (.compound m flags cache t i v) .writeElement

theorem toolTag?_eq_some {n : Node} {tag : Tag} : n.toolTag? = some tag ↔ n.HasToolTag tag := by
  constructor
  · intro h
    cases n <;> cases h <;> constructor
  · rintro ⟨⟩ <;> rfl

variable (f : TagSet)

/-- The children of the node get adapters: the tool asks for nodes of its kind, it is unmarked, and
one of its children has no span and is no reporting node. -/
def GetsAdapters (n : Node) : Prop :=
  (∃ tag, n.HasToolTag tag ∧ f.contains tag = true) ∧ n.info.marked = false ∧
    ∃ c ∈ n.children, c.info.span = none ∧ c.isTagged = false

theorem selected_iff (n : Node) : n.selected f = true ↔ n.GetsAdapters f := by
  unfold selected GetsAdapters
  simp only [← toolTag?_eq_some]
  cases n.toolTag? with
  | none => simp
  | some tag => simp [needsAdapters, lacksSpan, Option.isNone_iff_eq_none]

instance (n : Node) : Decidable (n.GetsAdapters f) :=
  decidable_of_iff _ (selected_iff f n)

/-- The second tree is the first with adapters for a tool that asks for `f`. An adapter stands above
each child that has no span of a node that gets adapters, and such a node is marked; below, the
children are what the first tree has there, with adapters. Nothing else is changed. -/
inductive Adapted : Node → Node → Prop
  | intro {n n' : Node} (image : Node → Node) (bare : n'.bare = n.bare)
    (info : n'.info = { n.info with marked := n.info.marked || decide (n.GetsAdapters f) })
    (children : n'.children = n.children.map fun c =>
      if n.GetsAdapters f ∧ c.info.span = none then
        .tagged { span := n.info.span, tags := .of .expression, marked := true } (image c)
      else image c)
    (below : ∀ c ∈ n.children, Adapted c (image c)) : Adapted n n'

variable {f} in
/-- At most one tree is the first with its adapters. -/
theorem Adapted.unique {t u u' : Node} (h : Adapted f t u) (h' : Adapted f t u') : u = u' := by
  induction h generalizing u' with
  | intro image bare info children _ ih =>
    obtain ⟨image', bare', info', children', below'⟩ := h'
    refine ext_bare (bare.trans bare'.symm) (info.trans info'.symm) ?_
    rw [children, children']
    refine List.map_congr_left fun c hc => ?_
    rw [ih c hc (below' c hc)]

@[simp] theorem bare_instrument (t : Node) : (t.instrument f).bare = t.bare := by
  cases t <;> simp [instrument, bare, mapChildren, withMeta, instrumentAll_eq_map,
    Function.comp_def]

theorem info_of_getsAdapters (t : Node) : (t.instrument f).info =
    { t.info with marked := t.info.marked || decide (t.GetsAdapters f) } := by
  rw [info_instrument, instrumentedMeta]
  by_cases h : t.GetsAdapters f
  · simp [(selected_iff f t).2 h, h, marked]
  · simp [mt (selected_iff f t).1 h, h]

theorem instrumentedChild_eq (t c replacement : Node) :
    t.instrumentedChild f c replacement =
      if t.GetsAdapters f ∧ c.info.span = none then
        .tagged { span := t.info.span, tags := .of .expression, marked := true } replacement
      else replacement := by
  rw [instrumentedChild, adapt, wrap, adapterMeta]
  by_cases h : t.GetsAdapters f
  · cases hspan : c.info.span <;> simp [(selected_iff f t).2 h, h]
  · simp [mt (selected_iff f t).1 h, h]

/-- Instrumentation puts adapters where a tool needs them, and does nothing else. -/
theorem adapted_instrument (t : Node) : Adapted f t (t.instrument f) := by
  induction t using induction_children with
  | node t ih =>
    refine .intro (instrument f) (bare_instrument f t) (info_of_getsAdapters f t) ?_ ih
    rw [children_instrument]
    exact List.map_congr_left fun c _ => instrumentedChild_eq f t c _

theorem adapted_iff (t t' : Node) : Adapted f t t' ↔ t' = t.instrument f :=
  ⟨fun h => h.unique (adapted_instrument f t), fun h => h ▸ adapted_instrument f t⟩

/-- Instrumentation wraps the children of one node, and then goes on with what stands there, that is
also below the adapters that it has just made. -/
theorem instrument_eq_materialize (t : Node) :
    t.instrument f = (t.materialize f).mapChildren (instrument f) := by
  unfold materialize
  have hinfo := info_instrument f t
  have hchildren := children_instrument f t
  unfold instrumentedMeta at hinfo
  unfold instrumentedChild at hchildren
  split
  · rename_i h
    refine ext_bare (by simp) (by simp [hinfo, h]) ?_
    simp [hchildren, h, instrument_adapt]
  · rename_i h
    exact ext_bare (by simp) (by simp [hinfo, h]) (by simp [hchildren, h])

/-! ## Taking adapters out -/

/-- Whether the node is a reporting one that `g` leaves out. -/
def leftOut (g : Meta → Option Meta) (n : Node) : Bool :=
  n.isTagged && (g n.info).isNone

/-- The metadata without its mark if one of the children is left out. -/
def unmarkAbove (g : Meta → Option Meta) (m : Meta) (children : List Node) : Meta :=
  if children.any (leftOut g) then { m with marked := false } else m

mutual

/-- The tree with its reporting nodes renamed or left out as `g` says, and without the marks of the
nodes above those that are left out. -/
def prune (g : Meta → Option Meta) : Node → Node
  | .const m v => .const m v
  | .read m s => .read m s
  | .patternLiteral m p => .patternLiteral m p
  | .write m s v => .write (unmarkAbove g m [v]) s (v.prune g)
  | .binary m op l r => .binary (unmarkAbove g m [l, r]) op (l.prune g) (r.prune g)
  | .readElement m t i => .readElement (unmarkAbove g m [t, i]) (t.prune g) (i.prune g)
  | .writeElement m f t i v =>
    .writeElement (unmarkAbove g m [t, i, v]) f (t.prune g) (i.prune g) (v.prune g)
  | .compound m f c t i v =>
    .compound (unmarkAbove g m [t, i, v]) f c (t.prune g) (i.prune g) (v.prune g)
  | .tagged m c =>
    match g m with
    | some m => .tagged m (c.prune g)
    | none => c.prune g
  | .sequence m ns => .sequence (unmarkAbove g m ns) (pruneAll g ns)
  | .patternExec m p s a =>
    .patternExec (unmarkAbove g m [p, s, a]) (p.prune g) (s.prune g) (a.prune g)
  | .listFormat m l o => .listFormat (unmarkAbove g m [l, o]) (l.prune g) (o.prune g)

/-- Renames and leaves out reporting nodes in several trees. -/
def pruneAll (g : Meta → Option Meta) : List Node → List Node
  | [] => []
  | n :: ns => n.prune g :: pruneAll g ns

end

section

variable {g : Meta → Option Meta}

theorem pruneAll_eq_map (ns : List Node) : pruneAll g ns = ns.map (prune g) := by
  induction ns with
  | nil => rfl
  | cons n ns ih => simp only [pruneAll, List.map_cons, ih]

/-- A node that is not left out, without the ones that are. -/
theorem prune_eq {n : Node} (h : n.leftOut g = false) :
    n.prune g = (n.mapChildren (prune g)).withMeta
      (if n.isTagged then (g n.info).getD n.info else unmarkAbove g n.info n.children) := by
  cases n with
  | tagged m c =>
    cases hm : g m with
    | none => simp [leftOut, isTagged, info, hm] at h
    | some m' => simp [prune, mapChildren, withMeta, isTagged, info, hm]
  | sequence m ns =>
    simp [prune, mapChildren, withMeta, isTagged, info, children, pruneAll_eq_map]
  | _ => simp [prune, mapChildren, withMeta, isTagged, info, children, unmarkAbove]

theorem labelledAll_eq_map (ns : List Node) : labelledAll ns = ns.map labelled := by
  induction ns with
  | nil => rfl
  | cons n ns ih => simp only [labelledAll, List.map_cons, ih]

theorem labelled_eq (n : Node) : n.labelled =
    (n.mapChildren labelled).withMeta (if n.isTagged then n.info.labelled else n.info) := by
  cases n <;> simp [labelled, mapChildren, withMeta, isTagged, info, labelledAll_eq_map]

end

/-! ### Adapters in a tree with labels -/

theorem isTagged_labelled_instrument (t : Node) :
    (t.labelled.instrument f).isTagged = t.isTagged := by
  rw [isTagged_instrument]
  cases t <;> rfl

theorem info_labelled_instrument (t : Node) : (t.labelled.instrument f).info =
    if t.isTagged then t.info.labelled else (t.instrument f).info := by
  rw [info_instrument, info_instrument, instrumentedMeta, instrumentedMeta, selected_labelled]
  cases t <;> simp [labelled, info, isTagged, selected, toolTag?]

theorem children_labelled_instrument (t : Node) : (t.labelled.instrument f).children =
    t.children.map fun c => t.instrumentedChild f c (c.labelled.instrument f) := by
  have hchildren : t.labelled.children = t.children.map labelled := by
    rw [labelled_eq]
    simp
  rw [children_instrument, hchildren, List.map_map]
  refine List.map_congr_left fun c _ => ?_
  simp only [Function.comp_apply, instrumentedChild, adapt, selected_labelled, span_labelled]

section

variable {f} {g : Meta → Option Meta} (hg : ∀ m : Meta, g m.labelled = some m)
include hg

/-- A node that has its label is not left out. -/
theorem leftOut_labelled_instrument (t : Node) : (t.labelled.instrument f).leftOut g = false := by
  rw [leftOut, isTagged_labelled_instrument, info_labelled_instrument]
  cases ht : t.isTagged <;> simp [hg]

theorem bare_prune_instrument (t : Node) : ((t.labelled.instrument f).prune g).bare = t.bare := by
  rw [prune_eq (leftOut_labelled_instrument hg t), labelled_eq]
  simp

theorem children_prune_instrument (t : Node) : ((t.labelled.instrument f).prune g).children =
    t.children.map fun c => (t.instrumentedChild f c (c.labelled.instrument f)).prune g := by
  rw [prune_eq (leftOut_labelled_instrument hg t), children_withMeta, children_mapChildren,
    children_labelled_instrument, List.map_map]
  rfl

theorem info_prune_instrument (t : Node) : ((t.labelled.instrument f).prune g).info =
    if t.isTagged then t.info
    else unmarkAbove g (t.instrument f).info
      (t.children.map fun c => t.instrumentedChild f c (c.labelled.instrument f)) := by
  rw [prune_eq (leftOut_labelled_instrument hg t), info_withMeta, isTagged_labelled_instrument,
    info_labelled_instrument, children_labelled_instrument]
  cases t.isTagged <;> simp [hg]

end

/-- Labels do not matter: without them, the labelled tree with its adapters is the tree with its
adapters. -/
theorem prune_plain_instrument (t : Node) :
    (t.labelled.instrument f).prune (fun m => some m.plain) = t.instrument f := by
  have hg : ∀ m : Meta, some m.labelled.plain = some m := by simp
  have hadapter : ∀ span, (adapterMeta span).plain = adapterMeta span := by simp [Meta.plain]
  induction t using induction_children with
  | node t ih =>
    refine ext_bare (by rw [bare_prune_instrument hg, bare_instrument]) ?_ ?_
    · rw [info_prune_instrument hg]
      split
      · rename_i h
        rw [info_instrument, instrumentedMeta]
        cases t <;> simp_all [isTagged, selected, toolTag?]
      · simp [unmarkAbove, leftOut]
    · rw [children_prune_instrument hg, children_instrument]
      refine List.map_congr_left fun c hc => ?_
      unfold instrumentedChild adapt wrap
      split
      · split
        · exact ih c hc
        · simp only [prune, hadapter, ih c hc]
      · exact ih c hc

/-- A node has a child to leave out exactly if it got adapters, and so it gets its metadata back. -/
theorem unmarkAbove_instrument (t : Node) :
    unmarkAbove Meta.own? (t.instrument f).info
      (t.children.map fun c => t.instrumentedChild f c (c.labelled.instrument f)) = t.info := by
  have hown : ∀ m : Meta, m.labelled.own? = some m := by simp [Meta.own?]
  have hkept := leftOut_labelled_instrument (f := f) hown
  rw [unmarkAbove, info_of_getsAdapters]
  by_cases h : t.GetsAdapters f
  · obtain ⟨-, hmarked, c, hc, hspan, -⟩ := id h
    have hany : (t.children.map fun c =>
        t.instrumentedChild f c (c.labelled.instrument f)).any (leftOut Meta.own?) = true := by
      refine List.any_eq_true.2 ⟨_, List.mem_map_of_mem hc, ?_⟩
      rw [instrumentedChild_eq, if_pos ⟨h, hspan⟩]
      exact congrArg Option.isNone (own?_adapterMeta t.info.span)
    simp [hany, ← hmarked]
  · have hany : (t.children.map fun c =>
        t.instrumentedChild f c (c.labelled.instrument f)).any (leftOut Meta.own?) = false := by
      simp [instrumentedChild_eq, h, hkept]
    simp [hany, h]

/-- Without its adapters and the marks above them, a tree is what it was. -/
theorem prune_instrument (t : Node) : (t.labelled.instrument f).prune Meta.own? = t := by
  have hg : ∀ m : Meta, m.labelled.own? = some m := by simp [Meta.own?]
  induction t using induction_children with
  | node t ih =>
    refine ext_bare (bare_prune_instrument hg t) ?_ ?_
    · rw [info_prune_instrument hg, unmarkAbove_instrument]
      exact ite_self _
    · rw [children_prune_instrument hg]
      refine (List.map_congr_left fun c hc => ?_).trans (List.map_id _)
      unfold instrumentedChild adapt wrap
      split
      · split
        · exact ih c hc
        · simp only [prune, own?_adapterMeta]
          exact ih c hc
      · exact ih c hc

/-! ## What a tool finds -/

/-- A tool that asks for no tag of a node that can get adapters changes nothing. -/
theorem instrument_eq_self
    (h : ∀ tag ∈ [Tag.binaryOperation, .readElement, .writeElement], f.contains tag = false)
    (t : Node) : t.instrument f = t := by
  have hnone : ∀ n : Node, ¬ n.GetsAdapters f := by
    rintro n ⟨⟨tag, htag, hcontains⟩, -⟩
    have hmem : tag ∈ [Tag.binaryOperation, .readElement, .writeElement] := by
      cases htag <;> simp
    simp [h tag hmem] at hcontains
  refine ((adapted_iff f t t).1 ?_).symm
  induction t using induction_children with
  | node t ih => exact .intro id rfl (by simp [hnone]) (by simp [hnone]) ih

/-- A tool can follow every child of an unmarked node that it asks for. -/
theorem children_followed {tag : Tag} {n c : Node} (htag : n.HasToolTag tag)
    (hcontains : f.contains tag = true) (hmarked : n.info.marked = false)
    (hc : c ∈ (n.instrument f).children) : c.info.span ≠ none ∨ c.isTagged = true := by
  rw [children_instrument] at hc
  obtain ⟨d, hd, rfl⟩ := List.mem_map.1 hc
  rw [instrumentedChild_eq]
  split
  · exact .inr rfl
  · rename_i h
    rw [span_instrument, isTagged_instrument]
    by_contra hlost
    simp only [ne_eq, not_or, not_not, Bool.not_eq_true] at hlost
    exact h ⟨⟨⟨tag, htag, hcontains⟩, hmarked, d, hd, hlost⟩, hlost.1⟩

theorem mem_preorder {n t : Node} :
    n ∈ t.preorder ↔ n = t ∨ ∃ c ∈ t.children, n ∈ c.preorder := by
  have hall : ∀ ns : List Node, preorderAll ns = ns.flatMap preorder := by
    intro ns
    induction ns with
    | nil => rfl
    | cons c cs ih => simp only [preorderAll, List.flatMap_cons, ih]
  cases t <;> simp [preorder, children, hall]

/-- Every node of the tree is in the tree with adapters, with adapters of its own. -/
theorem mem_preorder_instrument {n t : Node} (h : n ∈ t.preorder) :
    n.instrument f ∈ (t.instrument f).preorder := by
  induction t using induction_children with
  | node t ih =>
    obtain rfl | ⟨c, hc, hn⟩ := mem_preorder.1 h
    · exact mem_preorder.2 (.inl rfl)
    · have hmem := ih c hc hn
      refine mem_preorder.2 (.inr ⟨t.instrumentedChild f c (c.instrument f), ?_, ?_⟩)
      · rw [children_instrument]
        exact List.mem_map_of_mem hc
      · rw [instrumentedChild_eq]
        split
        · exact mem_preorder.2 (.inr ⟨_, List.mem_singleton_self _, hmem⟩)
        · exact hmem

/-- Instrumentation inserts exactly the adapters that are required. The tree with its adapters is
the only one, and wrapping the children of one node after the other gives it. Without the adapters
and the marks above them it is the tree again, where labels tell the adapters from other reporting
nodes. For a tool that asks for none of the three tags nothing changes. The children of unmarked
nodes that a tool asks for are such as it can follow. A routine has learnt nothing about the tree
with adapters. -/
theorem instrument_inserts (t : Node) :
    ((∀ t', Adapted f t t' ↔ t' = t.instrument f) ∧
        t.instrument f = (t.materialize f).mapChildren (instrument f)) ∧
      ((t.labelled.instrument f).prune (fun m => some m.plain) = t.instrument f ∧
        (t.labelled.instrument f).prune Meta.own? = t) ∧
      ((∀ tag ∈ [Tag.binaryOperation, .readElement, .writeElement], f.contains tag = false) →
        t.instrument f = t) ∧
      (∀ n ∈ t.preorder, ∀ tag, n.HasToolTag tag → f.contains tag = true →
        n.info.marked = false → n.instrument f ∈ (t.instrument f).preorder ∧
          ∀ c ∈ (n.instrument f).children, c.info.span ≠ none ∨ c.isTagged = true) ∧
      ∀ (r : Routine) (epoch : Nat),
        let tool := r.withRoot (t.instrument f) epoch
        tool.root = t.instrument f ∧ ∀ i, tool.profile.get i = {} := by
  refine ⟨⟨adapted_iff f t, instrument_eq_materialize f t⟩,
    ⟨prune_plain_instrument f t, prune_instrument f t⟩, fun h => instrument_eq_self f h t,
    fun n hn tag htag hcontains hmarked => ?_, fun r epoch => ⟨rfl, fun i => ?_⟩⟩
  · exact ⟨mem_preorder_instrument f hn, fun c hc => children_followed f htag hcontains hmarked hc⟩
  · simp [Routine.withRoot, Routine.ofRoot, Profile.get, Profile.empty]

/-- A compound write of a sum, of which the tool for element writes finds the target and the index
without a span, and the tool for calls finds nothing. -/
theorem instrument_inserts_compound :
    let write : Meta := { span := some ⟨0, 14⟩, tags := .ofList [.expression, .writeElement] }
    let sum : Meta := { span := some ⟨8, 5⟩, tags := .of .binaryOperation }
    let t : Node := .compound write {} none (.read {} 1) (.const {} (.string "k"))
      (.binary sum .add (.read {} 0) (.const {} (.int 1)))
    let calls := TagSet.of .call
    let writes := TagSet.of .writeElement
    ((∀ tag ∈ [Tag.binaryOperation, .readElement, .writeElement], calls.contains tag = false) ∧
        t.instrument calls = t) ∧
      (t ∈ t.preorder ∧ t.HasToolTag .writeElement ∧ writes.contains .writeElement = true ∧
        t.info.marked = false) ∧
      t.instrument writes ∈ (t.instrument writes).preorder ∧
      ∀ c ∈ (t.instrument writes).children, c.info.span ≠ none ∨ c.isTagged = true := by
  intro write sum t calls writes
  have hcalls : ∀ tag ∈ [Tag.binaryOperation, .readElement, .writeElement],
      calls.contains tag = false := by decide
  have ht : t ∈ t.preorder := List.mem_cons_self
  have hwrites : writes.contains .writeElement = true := by decide
  have htag : t.HasToolTag .writeElement := .compound ..
  exact ⟨⟨hcalls, (instrument_inserts calls t).2.2.1 hcalls⟩, ⟨ht, htag, hwrites, rfl⟩,
    (instrument_inserts writes t).2.2.2.1 t ht .writeElement htag hwrites rfl⟩

end AdaptiveTree.Node
