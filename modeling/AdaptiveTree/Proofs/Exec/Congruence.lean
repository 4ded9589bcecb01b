import AdaptiveTree.Exec.Run
import AdaptiveTree.Proofs.Exec.Simulation
import Mathlib.Data.List.Forall2

/-!
# Relations that evaluation respects

Two evaluations of one tree, or of trees of the same shape, are compared step by step. A relation
between computations is `Congruent` if every computation that takes no notice of the trace (`Blind`)
is related to itself, and sequencing keeps the relation. Then the runner of a node is related to
another one channel by channel (`Linked`) if the runners of its children are, for every kind of node
but the reporting one. Two writes may have different flags, as long as their stores are related.
-/

set_option autoImplicit false

namespace AdaptiveTree

open Exec

/-! ## Computations that take no notice of the trace -/

/-- The computation neither reads nor changes the trace. -/
def Blind {α : Type} (x : Exec α) : Prop :=
  ∀ (m : Machine) (t : List Event),
    x { m with trace := t } = ((x m).1, { (x m).2 with trace := t }) ∧ (x m).2.trace = m.trace

theorem blind_pure {α : Type} (a : α) : Blind (pure a : Exec α) :=
  fun _ _ => ⟨rfl, rfl⟩

theorem blind_fail {α : Type} (e : Fault) : Blind (fail e : Exec α) :=
  fun _ _ => ⟨rfl, rfl⟩

theorem blind_read {α : Type} {f : Machine → α} (h : ∀ m t, f { m with trace := t } = f m) :
    Blind (Exec.read f) := by
  intro m t
  simp [h]

theorem blind_modify {f : Machine → Machine}
    (h : ∀ m t, f { m with trace := t } = { f m with trace := t } ∧ (f m).trace = m.trace) :
    Blind (Exec.modify f) := by
  intro m t
  simp [(h m t).1, (h m t).2]

theorem blind_ofExcept {α : Type} (x : Except Fault α) : Blind (Exec.ofExcept x) :=
  fun _ _ => ⟨rfl, rfl⟩

theorem blind_runStore (flags : StoreFlags) (target : Value) (k : Key) (v : Value) :
    Blind (Element.runStore flags target k v) := by
  intro m t
  unfold Element.runStore
  cases Element.store flags m.heap target k v <;> exact ⟨rfl, rfl⟩

theorem blind_setLocal (slot : Nat) (v : Value) : Blind (Exec.setLocal slot v) :=
  blind_modify fun _ _ => ⟨rfl, rfl⟩

theorem blind_widenValue (site : Nat) (k : Kind) : Blind (Exec.widenValue site k) :=
  blind_modify fun _ _ => ⟨rfl, rfl⟩

theorem blind_widenIndex (site : Nat) (k : Kind) : Blind (Exec.widenIndex site k) :=
  blind_modify fun _ _ => ⟨rfl, rfl⟩

theorem blind_publishTargetCheck (site : Nat) : Blind (Exec.publishTargetCheck site) :=
  blind_modify fun _ _ => ⟨rfl, rfl⟩

theorem blind_publishConversion (site : Nat) (v : Value) :
    Blind (Exec.publishConversion site v) :=
  blind_modify fun _ _ => ⟨rfl, rfl⟩

theorem blind_site (site : Nat) : Blind (Exec.site site) :=
  blind_read fun _ _ => rfl

theorem blind_key (v : Value) : Blind (Exec.key v) :=
  blind_read fun _ _ => rfl

theorem blind_apply (op : Op) (l r : Value) : Blind (Binary.apply op l r) :=
  blind_read fun _ _ => rfl

/-! ## Congruences -/

/-- Computations that take no notice of the trace are related to themselves, and sequencing keeps
the relation. -/
structure Congruent (R : (α : Type) → Exec α → Exec α → Prop) : Prop where
  blind : ∀ {α : Type} {x : Exec α}, Blind x → R α x x
  bind : ∀ {α β : Type} {x y : Exec α} {f g : α → Exec β}, R α x y → (∀ a, R β (f a) (g a)) →
    R β (x >>= f) (y >>= g)

/-- Each channel of the first runner is related to the same channel of the second. -/
structure Linked (R : (α : Type) → Exec α → Exec α → Prop) (x y : Runner) : Prop where
  generic : R Value x.generic y.generic
  int : R (Speculated Int32) x.int y.int
  double : R (Speculated Float) x.double y.double

namespace Congruent

variable {R : (α : Type) → Exec α → Exec α → Prop} (hR : Congruent R)

include hR

theorem pure {α : Type} (a : α) : R α (pure a) (pure a) :=
  hR.blind (blind_pure a)

/-- A step that takes no notice of the trace, before related computations. -/
theorem after {α β : Type} {x : Exec α} (hx : Blind x) {f g : α → Exec β}
    (h : ∀ a, R β (f a) (g a)) : R β (x >>= f) (x >>= g) :=
  hR.bind (hR.blind hx) h

theorem ofGeneric {x y : Exec Value} (h : R Value x y) : Linked R (.ofGeneric x) (.ofGeneric y) where
  generic := h
  int := hR.bind h fun _ => hR.pure _
  double := hR.bind h fun _ => hR.pure _

variable {x y l l' r r' : Runner}

theorem write (h : Linked R x y) (slot : Nat) : Linked R (.write slot x) (.write slot y) where
  generic := hR.bind h.generic fun v => hR.after (blind_setLocal slot v) fun _ => hR.pure _
  int := hR.bind h.int fun a => hR.after (blind_setLocal slot a.intValue) fun _ => hR.pure _
  double := hR.bind h.double fun a =>
    hR.after (blind_setLocal slot a.doubleValue) fun _ => hR.pure _

theorem binary (hl : Linked R l l') (hr : Linked R r r') (op : Op) (site : Nat) (env : Env) :
    Linked R (Binary.runner op site l r env) (Binary.runner op site l' r' env) := by
  have hwiden := blind_widenValue site
  have hgeneric : R Value (Binary.runGeneric op site l r) (Binary.runGeneric op site l' r') :=
    hR.bind hl.generic fun a => hR.bind hr.generic fun b => hR.after (blind_apply op a b) fun _ =>
      hR.after (hwiden _) fun _ => hR.pure _
  have hsettle : ∀ v, R _ (Binary.settleInt site v) (Binary.settleInt site v) := fun v =>
    hR.after (hwiden _) fun _ => hR.pure _
  have hint : R _ (Binary.runInt op site l r) (Binary.runInt op site l' r') := by
    refine hR.bind hl.int fun a => hR.bind hr.int fun b => ?_
    split
    · split
      · exact hR.after (hwiden _) fun _ => hR.pure _
      · exact hsettle _
    · exact hR.after (blind_apply op _ _) hsettle
  have hdouble : R _ (Binary.runDouble op site l r) (Binary.runDouble op site l' r') := by
    refine hR.bind hl.double fun a => hR.bind hr.double fun b => ?_
    split
    · exact hR.after (hwiden _) fun _ => hR.pure _
    · exact hR.after (blind_apply op _ _) fun _ => hR.after (hwiden _) fun _ => hR.pure _
  refine ⟨?_, hint, hdouble⟩
  show R Value (Binary.runObserved op site l r env) (Binary.runObserved op site l' r' env)
  unfold Binary.runObserved
  split
  · exact hgeneric
  · refine hR.after (blind_site site) fun s => ?_
    split
    · exact hR.bind hint fun _ => hR.pure _
    · exact hR.bind hint fun _ => hR.pure _
    · exact hR.bind hdouble fun _ => hR.pure _
    · exact hgeneric

theorem readElement (hl : Linked R l l') (hr : Linked R r r') :
    Linked R (Element.readRunner l r) (Element.readRunner l' r') :=
  hR.ofGeneric <| hR.bind hl.generic fun _ => hR.bind hr.generic fun i =>
    hR.after (blind_key i) fun _ => hR.blind fun _ _ => ⟨rfl, rfl⟩

/-! ### Element writes -/

section

variable {env : Env} {flags flags' : StoreFlags} {site : Nat} {i i' v v' : Runner}

theorem runIndex (hi : Linked R i i') :
    R _ (Write.runIndex env ⟨flags, site, i, v⟩) (Write.runIndex env ⟨flags', site, i', v'⟩) := by
  have hwiden := blind_widenIndex site
  refine hR.after (blind_site site) fun s => ?_
  split
  · refine hR.bind hi.int fun a => ?_
    split
    · exact hR.after (hwiden _) fun _ => hR.pure _
    · exact hR.after (hwiden _) fun _ => hR.pure _
  · exact hR.bind hi.generic fun a => hR.after (hwiden _) fun _ => hR.pure _

/-- The three ways to store, under a target and key that are found alike. -/
theorem runnerAfter
    (hstore : ∀ t k w, R Value (Element.runStore flags t k w) (Element.runStore flags' t k w))
    (hv : Linked R v v') {place place' : Exec (Value × Key)} (hp : R _ place place') :
    Linked R (Write.runnerAfter env ⟨flags, site, i, v⟩ place)
      (Write.runnerAfter env ⟨flags', site, i', v'⟩ place') := by
  have hwiden := blind_widenValue site
  have hgeneric : ∀ t k, R Value
      (Write.storeGeneric ⟨flags, site, i, v⟩ t k) (Write.storeGeneric ⟨flags', site, i', v'⟩ t k) :=
    fun t k => hR.bind hv.generic fun w => hR.after (hwiden _) fun _ => hstore t k w
  have hint : ∀ t k, R _
      (Write.storeInt ⟨flags, site, i, v⟩ t k) (Write.storeInt ⟨flags', site, i', v'⟩ t k) := by
    intro t k
    refine hR.bind hv.int fun w => ?_
    split
    · exact hR.after (hwiden _) fun _ => hR.bind (hstore t k _) fun _ => hR.pure _
    · exact hR.after (hwiden _) fun _ => hR.bind (hstore t k _) fun _ => hR.pure _
  have hdouble : ∀ t k, R _ (Write.storeDouble ⟨flags, site, i, v⟩ t k)
      (Write.storeDouble ⟨flags', site, i', v'⟩ t k) := by
    intro t k
    refine hR.bind hv.double fun w => ?_
    split
    · exact hR.after (hwiden _) fun _ => hR.bind (hstore t k _) fun _ => hR.pure _
    · exact hR.after (hwiden _) fun _ => hR.bind (hstore t k _) fun _ => hR.pure _
  refine ⟨hR.bind hp fun (t, k) => ?_, hR.bind hp fun (t, k) => hint t k,
    hR.bind hp fun (t, k) => hdouble t k⟩
  show R Value (Write.storeObserved env ⟨flags, site, i, v⟩ t k)
    (Write.storeObserved env ⟨flags', site, i', v'⟩ t k)
  unfold Write.storeObserved
  split
  · exact hgeneric t k
  · refine hR.after (blind_site site) fun s => ?_
    split
    · exact hR.bind (hint t k) fun _ => hR.pure _
    · exact hR.bind (hint t k) fun _ => hR.pure _
    · exact hR.bind (hdouble t k) fun _ => hR.pure _
    · exact hgeneric t k

theorem writeElement
    (hstore : ∀ t k w, R Value (Element.runStore flags t k w) (Element.runStore flags' t k w))
    (hx : Linked R x y) (hi : Linked R i i') (hv : Linked R v v') :
    Linked R (Write.runner env ⟨flags, site, i, v⟩ x)
      (Write.runner env ⟨flags', site, i', v'⟩ y) := by
  refine hR.runnerAfter hstore hv (hR.bind hx.generic fun t => ?_)
  refine hR.bind ?_ fun _ => hR.pure _
  refine hR.bind (hR.runIndex hi) fun a => ?_
  split
  · exact hR.pure _
  · exact hR.blind (blind_key _)

theorem keepIndex (cache : Option Nat) (w : Value) :
    R _ (Write.keepIndex cache w) (Write.keepIndex cache w) := by
  cases cache with
  | none => exact hR.pure _
  | some slot => exact hR.blind (blind_setLocal slot w)

theorem compound (cache : Option Nat)
    (hstore : ∀ t k w, R Value (Element.runStore flags t k w) (Element.runStore flags' t k w))
    (hx : Linked R x y) (hi : Linked R i i') (hv : Linked R v v') :
    Linked R (Write.compoundRunner env ⟨flags, site, i, v⟩ cache x)
      (Write.compoundRunner env ⟨flags', site, i', v'⟩ cache y) := by
  refine hR.runnerAfter hstore hv (hR.bind hx.generic fun t => ?_)
  refine hR.bind ?_ fun _ => hR.bind (hR.runIndex hi) fun a => ?_
  · exact hR.after (blind_publishTargetCheck site) fun _ => hR.blind (blind_ofExcept _)
  · split
    · refine hR.bind ?_ fun _ => hR.pure _
      exact hR.bind (hR.keepIndex cache _) fun _ => hR.pure _
    · refine hR.bind ?_ fun _ => hR.pure _
      exact hR.after (blind_publishConversion site _) fun _ => hR.after (blind_key _) fun _ =>
        hR.bind (hR.keepIndex cache _) fun _ => hR.pure _

end

/-! ### The other nodes -/

theorem sequence {xs ys : List Runner} (h : List.Forall₂ (Linked R) xs ys) :
    Linked R (.sequence xs) (.sequence ys) := by
  induction h with
  | nil => exact ⟨hR.pure _, hR.pure _, hR.pure _⟩
  | @cons x y xs ys hxy hrest ih =>
    cases hrest with
    | nil => exact hxy
    | cons _ _ =>
      exact ⟨hR.bind hxy.generic fun _ => ih.generic, hR.bind hxy.generic fun _ => ih.int,
        hR.bind hxy.generic fun _ => ih.double⟩

theorem patternExec {p p' s s' a a' : Runner} (hp : Linked R p p') (hs : Linked R s s')
    (ha : Linked R a a') : Linked R (Match.runner p s a) (Match.runner p' s' a') := by
  have hdisplay : ∀ v, Blind (Exec.read fun m => m.heap.display v) := fun v =>
    blind_read fun _ _ => rfl
  have hpattern : ∀ v, R _ (Match.patternOf v) (Match.patternOf v) := by
    intro v
    unfold Match.patternOf
    split
    · exact hR.pure _
    · exact hR.after (hdisplay v) fun _ => hR.blind (blind_fail _)
  refine hR.ofGeneric <| hR.bind hp.generic fun v => hR.bind (hpattern v) fun pat =>
    hR.bind hs.generic fun w => hR.after (hdisplay w) fun text =>
      hR.bind ha.generic fun position => ?_
  split
  · exact hR.pure _
  · exact hR.after (blind_ofExcept _) fun _ => hR.blind fun _ _ => ⟨rfl, rfl⟩

theorem listFormat (env : Env) (hl : Linked R l l') (hr : Linked R r r') :
    Linked R (Locale.runner env l r) (Locale.runner env l' r') :=
  hR.ofGeneric <| hR.bind hl.generic fun _ => hR.bind hr.generic fun _ =>
    hR.after (fun _ _ => ⟨rfl, rfl⟩) fun _ => hR.blind fun _ _ => ⟨rfl, rfl⟩

end Congruent

end AdaptiveTree
