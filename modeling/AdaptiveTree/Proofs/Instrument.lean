import AdaptiveTree.Node.Instrument
import AdaptiveTree.Proofs.Exec.Erase

/-!
# Instrumentation changes nothing but the events

An instrumented tree is the tree with more reporting nodes (`erase_instrument`), so its run is that
of the tree with more events (`instrument_transparent`).

The metadata of an event does not tell whether an adapter reported it, because a tree may have a
reporting node of its own with the metadata of an adapter. To tell them apart, the reporting nodes
that the tree has before it is instrumented are labelled. Neither evaluation nor instrumentation
depends on labels.
-/

set_option autoImplicit false

namespace AdaptiveTree

open Exec

/-! ## Labels -/

/-- The metadata with a label: one more bit in its set of tags, below all tags. -/
def Meta.labelled (m : Meta) : Meta :=
  { m with tags := ⟨2 * m.tags.bits + 1⟩ }

/-- Whether there is a label. -/
def Meta.isLabelled (m : Meta) : Bool :=
  m.tags.bits % 2 == 1

/-- The metadata without its label, if it has one. -/
def Meta.plain (m : Meta) : Meta :=
  if m.isLabelled then { m with tags := ⟨m.tags.bits / 2⟩ } else m

@[simp] theorem Meta.isLabelled_labelled (m : Meta) : m.labelled.isLabelled = true := by
  simp [labelled, isLabelled]

@[simp] theorem Meta.plain_labelled (m : Meta) : m.labelled.plain = m := by
  have hbits : (2 * m.tags.bits + 1) / 2 = m.tags.bits := by omega
  simp only [plain, isLabelled_labelled, if_true]
  simp only [labelled, hbits]

@[simp] theorem Meta.isLabelled_adapterMeta (span : Option Span) :
    (Node.adapterMeta span).isLabelled = false := by
  simp [isLabelled, Node.adapterMeta, TagSet.of, Tag.index]

/-- The metadata of a labelled node without its label; no other nodes are kept. -/
def Meta.own? (m : Meta) : Option Meta :=
  if m.isLabelled then some m.plain else none

@[simp] theorem own?_adapterMeta (span : Option Span) : (Node.adapterMeta span).own? = none := by
  simp [Meta.own?]

namespace Event

/-- The metadata of the node that reported an event. -/
def about : Event → Meta
  | .enter m | .leave m _ | .fail m _ => m

/-- Whether a labelled node reported the event. -/
def isOwn (e : Event) : Bool :=
  e.about.isLabelled

/-- The event without the label. -/
def plain : Event → Event
  | .enter m => .enter m.plain
  | .leave m v => .leave m.plain v
  | .fail m f => .fail m.plain f

theorem under_plain (e : Event) : e.under (fun m => some m.plain) = some e.plain := by
  cases e <;> rfl

theorem under_own? (e : Event) : e.under Meta.own? = if e.isOwn then some e.plain else none := by
  have hown : e.isOwn = e.about.isLabelled := rfl
  rw [hown]
  cases h : e.about.isLabelled <;> cases e <;> simp_all [under, Meta.own?, about, plain]

/-- Taking all labels off changes the events one by one. -/
theorem filterMap_plain (es : List Event) :
    es.filterMap (under fun m => some m.plain) = es.map plain := by
  rw [← List.filterMap_eq_map]
  exact congrArg (es.filterMap ·) (funext under_plain)

/-- Keeping labelled nodes keeps the events that they report. -/
theorem filterMap_own? (es : List Event) :
    es.filterMap (under Meta.own?) = (es.filter isOwn).map plain := by
  rw [← List.filterMap_eq_map, List.filterMap_filter]
  exact congrArg (es.filterMap ·) (funext under_own?)

theorem filterMap_some (es : List Event) : es.filterMap (under some) = es := by
  have h : under some = some := by
    funext e
    cases e <;> rfl
  rw [h, List.filterMap_some]

end Event

namespace Node

open Event (filterMap_plain filterMap_own? filterMap_some)

mutual

/-- The tree with its reporting nodes labelled. -/
def labelled : Node → Node
  | .const m v => .const m v
  | .read m s => .read m s
  | .patternLiteral m p => .patternLiteral m p
  | .write m s v => .write m s v.labelled
  | .binary m op l r => .binary m op l.labelled r.labelled
  | .readElement m t i => .readElement m t.labelled i.labelled
  | .writeElement m f t i v => .writeElement m f t.labelled i.labelled v.labelled
  | .compound m f c t i v => .compound m f c t.labelled i.labelled v.labelled
  | .tagged m c => .tagged m.labelled c.labelled
  | .sequence m ns => .sequence m (labelledAll ns)
  | .patternExec m p s a => .patternExec m p.labelled s.labelled a.labelled
  | .listFormat m l o => .listFormat m l.labelled o.labelled

/-- Labels the reporting nodes of several trees. -/
def labelledAll : List Node → List Node
  | [] => []
  | n :: ns => n.labelled :: labelledAll ns

end

@[simp] theorem span_labelled (n : Node) : n.labelled.info.span = n.info.span := by
  cases n <;> simp [labelled, info, Meta.labelled]

@[simp] theorem lacksSpan_labelled (n : Node) : n.labelled.lacksSpan = n.lacksSpan := by
  have htagged : n.labelled.isTagged = n.isTagged := by
    cases n <;> simp [labelled, isTagged]
  simp [lacksSpan, htagged]

/-- What instrumentation decides about a node does not depend on labels. -/
theorem selected_labelled (filter : TagSet) (n : Node) :
    n.labelled.selected filter = n.selected filter := by
  cases n <;> simp [labelled, selected, toolTag?, needsAdapters, info, children]

/-! ## Instrumented trees -/

/-- Adapters that are left out leave their children. -/
theorem erase_instrumentedChild {g : Meta → Option Meta} (hg : ∀ span, g (adapterMeta span) = none)
    (filter : TagSet) (n child replacement : Node) :
    (instrumentedChild filter n child replacement).erase g = replacement.erase g := by
  unfold instrumentedChild adapt wrap
  split
  · split
    · rfl
    · simp only [erase, hg]
  · rfl

/-- A labelled tree gets its adapters in the same places. -/
theorem erase_instrumentedChild_labelled (filter : TagSet) (n child : Node) {r r' : Node}
    (h : r.erase (fun m => some m.plain) = r'.erase some) :
    (instrumentedChild filter n.labelled child.labelled r).erase (fun m => some m.plain) =
      (instrumentedChild filter n child r').erase some := by
  have hplain : ∀ span, (adapterMeta span).plain = adapterMeta span := fun _ => by
    simp [Meta.plain]
  unfold instrumentedChild adapt wrap
  rw [selected_labelled, span_labelled, span_labelled]
  split
  · split
    · exact h
    · simp only [erase, hplain, h]
  · exact h

mutual

/-- Without its adapters an instrumented tree is the tree. -/
theorem erase_instrument (filter : TagSet) : ∀ t : Node,
    (t.labelled.instrument filter).erase Meta.own? = t.erase some
  | .const .. | .read .. | .patternLiteral .. => by simp only [labelled, instrument, erase]
  | .write _ _ v => by simp only [labelled, instrument, erase, erase_instrument filter v]
  | .binary _ _ l r => by
    simp only [labelled, instrument, erase, erase_instrumentedChild own?_adapterMeta,
      erase_instrument filter l, erase_instrument filter r]
  | .readElement _ t i => by
    simp only [labelled, instrument, erase, erase_instrumentedChild own?_adapterMeta,
      erase_instrument filter t, erase_instrument filter i]
  | .writeElement _ _ t i v => by
    simp only [labelled, instrument, erase, erase_instrumentedChild own?_adapterMeta,
      erase_instrument filter t, erase_instrument filter i, erase_instrument filter v]
  | .compound _ _ _ t i v => by
    simp only [labelled, instrument, erase, erase_instrumentedChild own?_adapterMeta,
      erase_instrument filter t, erase_instrument filter i, erase_instrument filter v]
  | .tagged m c => by
    simp only [labelled, instrument, erase, Meta.own?, Meta.isLabelled_labelled,
      Meta.plain_labelled, if_true, erase_instrument filter c]
  | .sequence _ ns => by simp only [labelled, instrument, erase, eraseAll_instrument filter ns]
  | .patternExec _ p s a => by
    simp only [labelled, instrument, erase, erase_instrument filter p, erase_instrument filter s,
      erase_instrument filter a]
  | .listFormat _ l o => by
    simp only [labelled, instrument, erase, erase_instrument filter l, erase_instrument filter o]

theorem eraseAll_instrument (filter : TagSet) : ∀ ns : List Node,
    eraseAll Meta.own? (instrumentAll filter (labelledAll ns)) = eraseAll some ns
  | [] => rfl
  | n :: ns => by
    simp only [labelledAll, instrumentAll, eraseAll, erase_instrument filter n,
      eraseAll_instrument filter ns]

end

mutual

/-- Labels do not matter to instrumentation: without them the tree is instrumented alike. -/
theorem erase_instrument_labelled (filter : TagSet) : ∀ t : Node,
    (t.labelled.instrument filter).erase (fun m => some m.plain) =
      (t.instrument filter).erase some
  | .const .. | .read .. | .patternLiteral .. => by simp only [labelled, instrument, erase]
  | .write _ _ v => by simp only [labelled, instrument, erase, erase_instrument_labelled filter v]
  | .binary m op l r => by
    have hl := erase_instrumentedChild_labelled filter (.binary m op l r) l
      (erase_instrument_labelled filter l)
    have hr := erase_instrumentedChild_labelled filter (.binary m op l r) r
      (erase_instrument_labelled filter r)
    simp only [labelled] at hl hr
    simp only [labelled, instrument, erase, hl, hr]
  | .readElement m t i => by
    have ht := erase_instrumentedChild_labelled filter (.readElement m t i) t
      (erase_instrument_labelled filter t)
    have hi := erase_instrumentedChild_labelled filter (.readElement m t i) i
      (erase_instrument_labelled filter i)
    simp only [labelled] at ht hi
    simp only [labelled, instrument, erase, ht, hi]
  | .writeElement m f t i v => by
    have ht := erase_instrumentedChild_labelled filter (.writeElement m f t i v) t
      (erase_instrument_labelled filter t)
    have hi := erase_instrumentedChild_labelled filter (.writeElement m f t i v) i
      (erase_instrument_labelled filter i)
    have hv := erase_instrumentedChild_labelled filter (.writeElement m f t i v) v
      (erase_instrument_labelled filter v)
    simp only [labelled] at ht hi hv
    simp only [labelled, instrument, erase, ht, hi, hv]
  | .compound m f c t i v => by
    have ht := erase_instrumentedChild_labelled filter (.compound m f c t i v) t
      (erase_instrument_labelled filter t)
    have hi := erase_instrumentedChild_labelled filter (.compound m f c t i v) i
      (erase_instrument_labelled filter i)
    have hv := erase_instrumentedChild_labelled filter (.compound m f c t i v) v
      (erase_instrument_labelled filter v)
    simp only [labelled] at ht hi hv
    simp only [labelled, instrument, erase, ht, hi, hv]
  | .tagged m c => by
    simp only [labelled, instrument, erase, Meta.plain_labelled,
      erase_instrument_labelled filter c]
  | .sequence _ ns => by
    simp only [labelled, instrument, erase, eraseAll_instrument_labelled filter ns]
  | .patternExec _ p s a => by
    simp only [labelled, instrument, erase, erase_instrument_labelled filter p,
      erase_instrument_labelled filter s, erase_instrument_labelled filter a]
  | .listFormat _ l o => by
    simp only [labelled, instrument, erase, erase_instrument_labelled filter l,
      erase_instrument_labelled filter o]

theorem eraseAll_instrument_labelled (filter : TagSet) : ∀ ns : List Node,
    eraseAll (fun m => some m.plain) (instrumentAll filter (labelledAll ns)) =
      eraseAll some (instrumentAll filter ns)
  | [] => rfl
  | n :: ns => by
    simp only [labelledAll, instrumentAll, eraseAll, erase_instrument_labelled filter n,
      eraseAll_instrument_labelled filter ns]

end

/-- The kinds of the sites of a tree, in the order of their numbers. -/
def siteNames (n : Node) : List String :=
  (n.preorder.filter isSite).map name

mutual

/-- Renaming and leaving out reporting nodes keeps the sites in place. -/
theorem siteNames_erase (g : Meta → Option Meta) : ∀ n : Node,
    ((n.erase g).preorder.filter isSite).map name = (n.preorder.filter isSite).map name
  | .const .. | .read .. | .patternLiteral .. => by simp [erase, preorder, isSite]
  | .write _ _ v => by simp [erase, preorder, isSite, siteNames_erase g v]
  | .binary _ _ l r => by
    simp [erase, preorder, List.filter_cons, isSite, name, siteNames_erase g l, siteNames_erase g r]
  | .readElement _ t i => by
    simp [erase, preorder, isSite, siteNames_erase g t, siteNames_erase g i]
  | .writeElement _ _ t i v => by
    simp [erase, preorder, List.filter_cons, isSite, name, siteNames_erase g t,
      siteNames_erase g i, siteNames_erase g v]
  | .compound _ _ _ t i v => by
    simp [erase, preorder, List.filter_cons, isSite, name, siteNames_erase g t,
      siteNames_erase g i, siteNames_erase g v]
  | .tagged m c => by
    have hc := siteNames_erase g c
    simp only [erase]
    split <;> simp [preorder, isSite, hc]
  | .sequence _ ns => by simp [erase, preorder, isSite, siteNamesAll_erase g ns]
  | .patternExec _ p s a => by
    simp [erase, preorder, isSite, siteNames_erase g p, siteNames_erase g s, siteNames_erase g a]
  | .listFormat _ l o => by
    simp [erase, preorder, isSite, siteNames_erase g l, siteNames_erase g o]

theorem siteNamesAll_erase (g : Meta → Option Meta) : ∀ ns : List Node,
    ((preorderAll (eraseAll g ns)).filter isSite).map name =
      ((preorderAll ns).filter isSite).map name
  | [] => rfl
  | n :: ns => by
    simp [eraseAll, preorderAll, siteNames_erase g n, siteNamesAll_erase g ns]

end

/-- An instrumented tree has the sites of the tree under the same numbers. -/
theorem siteNames_instrument (filter : TagSet) (t : Node) :
    (t.instrument filter).siteNames = t.siteNames := by
  have h := siteNames_erase Meta.own? (t.labelled.instrument filter)
  have h' := siteNames_erase (fun m => some m.plain) (t.labelled.instrument filter)
  rw [erase_instrument, siteNames_erase] at h
  rw [erase_instrument_labelled, siteNames_erase] at h'
  exact h'.trans h.symm

/-- On one channel the instrumented tree does what the tree does. The events of the instrumented
tree are known with labels on those that the tree reports itself; without the events of the adapters
they are the events of the tree. -/
def SameButReports {α : Type} (run : Node → Exec α) (filter : TagSet) (t : Node) (m : Machine) :
    Prop :=
  let (result, final) := run t m
  let (toolResult, toolFinal) := run (t.instrument filter) m
  toolResult = result ∧ toolFinal.heap = final.heap ∧ toolFinal.frame = final.frame ∧
    toolFinal.profile = final.profile ∧ toolFinal.epoch = final.epoch ∧
    toolFinal.formats = final.formats ∧
    ∃ events : List Event,
      (run (t.labelled.instrument filter) m).2.trace = m.trace ++ events ∧
      toolFinal.trace = m.trace ++ events.map Event.plain ∧
      final.trace = m.trace ++ (events.filter Event.isOwn).map Event.plain

theorem sameButReports {α : Type} {channel : Runner → Exec α}
    (hchannel : ∀ {φ : List Event → List Event} {x y : Runner}, Echoes φ x y →
      Follows (Retraced φ) Eq (channel x) (channel y))
    (filter : TagSet) (t : Node) (env : Env) (base : Nat) (m : Machine) :
    SameButReports (fun n => channel (n.runner env base)) filter t m := by
  have hplain := run_of_erase_eq hchannel (erase_instrument filter t) env base m
  have htool := run_of_erase_eq hchannel (erase_instrument_labelled filter t) env base m
  have htold := run_of_erase_eq hchannel (g := some) (n := t.labelled.instrument filter) rfl env
    base m
  generalize channel ((t.labelled.instrument filter).runner env base) { m with trace := [] } = r
    at hplain htool htold
  obtain ⟨result, final⟩ := r
  simp only [filterMap_plain, filterMap_own?, filterMap_some] at hplain htool htold
  simp only [SameButReports]
  rw [hplain, htool, htold]
  exact ⟨rfl, rfl, rfl, rfl, rfl, rfl, final.trace, rfl, rfl, rfl⟩

/-- Instrumentation does not change behaviour: on each channel the outcome, the objects, the local
values, the observations and the invalidations are those of the tree, and so are the events, but for
those of the adapters. -/
theorem instrument_transparent (filter : TagSet) (t : Node) (env : Env) (base : Nat)
    (m : Machine) :
    (t.instrument filter).siteNames = t.siteNames ∧
      SameButReports (fun n => (n.runner env base).generic) filter t m ∧
      SameButReports (fun n => (n.runner env base).int) filter t m ∧
      SameButReports (fun n => (n.runner env base).double) filter t m :=
  ⟨siteNames_instrument filter t, sameButReports Echoes.generic filter t env base m,
    sameButReports Echoes.int filter t env base m,
    sameButReports Echoes.double filter t env base m⟩

end Node

end AdaptiveTree
