import AdaptiveTree.Proofs.Speculation
import Mathlib.Logic.Function.Basic

/-!
# Compound assignments

`update` says what the assignment `t[i] op= rhs` is to do: find the target and the key once, read
the old element there, and store the new one at the same place. The tree that is built for it keeps
the target and the index in two temporaries, from which the old element is read (`updateParked`).
Its evaluation has the outcome of `update`, in every environment and on every channel, also when a
part of it fails (`compoundAssign_eq_update`).

The parts are arbitrary trees that do not mention the temporaries. While they are evaluated, the
temporaries are pinned: they hold the target and the index, whatever the parts do. At the end they
are hidden.
-/

set_option autoImplicit false

namespace AdaptiveTree

open Exec

namespace Exec

/-- Reads the element under a key, applies `op` to it and `rhs`, and stores the result there. -/
def updateAt (op : Op) (flags : StoreFlags) (rhs : Exec Value) (t : Value) (k : Key) :
    Exec Value := do
  let old ← Element.runRead t k
  let r ← rhs
  let v ← Binary.apply op old r
  Element.runStore flags t k v

/-- What an assignment of `op`, applied to an element and `rhs`, to that element is to do. The
target is checked before anything else is evaluated. -/
def update (op : Op) (flags : StoreFlags) (target index rhs : Exec Value) : Exec Value := do
  let t ← target
  if t.isNullish then
    Exec.fail (.notConvertible t.typeName)
  else
    let i ← index
    let k ← Exec.key i
    updateAt op flags rhs t k

/-- The update at a target and key with the old element read from the temporaries. -/
def updateAtParked (op : Op) (flags : StoreFlags) (targetSlot indexSlot : Nat) (rhs : Exec Value)
    (t : Value) (k : Key) : Exec Value := do
  let t' ← Exec.getLocal targetSlot
  let i' ← Exec.getLocal indexSlot
  let k' ← Exec.key i'
  let old ← Element.runRead t' k'
  let r ← rhs
  let v ← Binary.apply op old r
  Element.runStore flags t k v

/-- Checks the target, keeps the index and updates, after the target has been kept. -/
def updateFromParked (op : Op) (flags : StoreFlags) (targetSlot indexSlot : Nat)
    (index rhs : Exec Value) (t : Value) : Exec Value := do
  Exec.ofExcept (Write.checkTarget t)
  let i ← index
  let k ← Exec.key i
  Exec.setLocal indexSlot k.toValue
  updateAtParked op flags targetSlot indexSlot rhs t k

/-- The assignment with the target and the index kept in two temporaries. -/
def updateParked (op : Op) (flags : StoreFlags) (targetSlot indexSlot : Nat)
    (target index rhs : Exec Value) : Exec Value := do
  let t ← target
  Exec.setLocal targetSlot t
  updateFromParked op flags targetSlot indexSlot index rhs t

end Exec

theorem Builder.meaning_compoundAssign (b : Builder) (layout : Layout) (op : Op)
    (target index rhs : Node) (d : Locale.Data) :
    (b.compoundAssign layout op target index rhs).1.meaning d =
      updateParked op b.flags layout.size (layout.size + 1) (target.meaning d) (index.meaning d)
        (rhs.meaning d) := by
  have hsize : (layout.names.push (Layout.tempName layout.temps)).size = layout.size + 1 :=
    Array.size_push ..
  simp only [compoundAssign, Layout.addTemp, compoundWrite, write, binary, readElement, read,
    Node.meaning, Layout.size, hsize, storeAt, checkedPlaceAt, keepKey, Write.keepIndex,
    updateParked, updateFromParked, updateAtParked, bind_assoc, pure_bind]

/-! ## The reference on alike machines -/

section

variable {cached : List Nat} {pins : Nat → Option Value} {op : Op} {flags : StoreFlags}
  {target index rhs target' index' rhs' : Exec Value}

/-- The part of an update after the old element has been read. -/
theorem follows_combine {t u old old' : Value} {k : Key} (htu : SameValue t u)
    (hold : SameValue old old') (hr : Follows (Alike cached pins) SameValue rhs rhs') :
    Follows (Alike cached pins) SameValue (do
      let r ← rhs
      let v ← Binary.apply op old r
      Element.runStore flags t k v) (do
      let r ← rhs'
      let v ← Binary.apply op old' r
      Element.runStore flags u k v) :=
  hr.bind fun _ _ hrr => (follows_apply op hold hrr).bind fun _ _ hvw =>
    follows_runStore flags htu k hvw

theorem follows_updateAt {t u : Value} {k : Key} (htu : SameValue t u)
    (hr : Follows (Alike cached pins) SameValue rhs rhs') :
    Follows (Alike cached pins) SameValue (updateAt op flags rhs t k)
      (updateAt op flags rhs' u k) :=
  (follows_runRead htu k).bind fun _ _ hold => follows_combine htu hold hr

/-- Alike parts give alike assignments. -/
theorem follows_update (op : Op) (flags : StoreFlags)
    (ht : Follows (Alike cached pins) SameValue target target')
    (hi : Follows (Alike cached pins) SameIndex index index')
    (hr : Follows (Alike cached pins) SameValue rhs rhs') :
    Follows (Alike cached pins) SameValue (update op flags target index rhs)
      (update op flags target' index' rhs') := by
  refine ht.bind fun t u htu => ?_
  rw [htu.isNullish, htu.typeName]
  split
  · exact .fail _
  · exact hi.bind fun i j hij => (follows_key hij).bind_eq fun k => follows_updateAt htu hr

end

/-! ## The temporaries -/

/-- Pins a slot that only the first machine writes. -/
theorem Alike.pin {cached : List Nat} {pins : Nat → Option Value} {m n : Machine}
    (h : Alike cached pins m n) (slot : Nat) (v : Value) :
    Alike cached (Function.update pins slot (some v))
      { m with frame := m.frame.set slot v } n where
  heap := h.heap
  formats := h.formats
  slot s hs := by
    by_cases heq : s = slot
    · simp [heq] at hs
    · rw [Function.update_of_ne heq] at hs
      simpa [Frame.get_set, heq] using h.slot s hs
  pinned s u hs := by
    by_cases heq : s = slot
    · subst heq
      rw [Function.update_self, Option.some.injEq] at hs
      rw [← hs]
      exact .of_canon (by simp [Frame.get_set])
    · rw [Function.update_of_ne heq] at hs
      simpa [Frame.get_set, heq] using h.pinned s u hs
  size hall := by simpa using hall slot

/-- Only the temporaries are pinned. -/
def OnlyPins (hidden : List Nat) (pins : Nat → Option Value) : Prop :=
  ∀ s, s ∉ hidden → pins s = none

theorem OnlyPins.pin {hidden : List Nat} {pins : Nat → Option Value} (h : OnlyPins hidden pins)
    {slot : Nat} (hslot : slot ∈ hidden) (v : Value) :
    OnlyPins hidden (Function.update pins slot (some v)) := by
  intro s hs
  have hne : s ≠ slot := fun heq => hs (heq ▸ hslot)
  rw [Function.update_of_ne hne]
  exact h s hs

section

variable {cached : List Nat} {op : Op} {flags : StoreFlags} {targetSlot indexSlot : Nat}
  {target index rhs : Exec Value}

/-- The temporaries have the values that they are pinned to, so that the element is read from the
place that is written. -/
theorem follows_updateAtParked {pins : Nat → Option Value} {t u : Value} {k : Key}
    (hr : Follows (Alike cached pins) SameValue rhs rhs) (htu : SameValue t u) (hk : k.Proper)
    (htarget : targetSlot ∉ cached) (hindex : indexSlot ∈ cached)
    (hpt : pins targetSlot = some t) (hpi : pins indexSlot = some k.toValue) :
    Follows (Alike cached pins) SameValue
      (updateAtParked op flags targetSlot indexSlot rhs t k) (updateAt op flags rhs u k) := by
  -- reading the temporaries gives the target, an index and from it the key
  refine Sim.step (S := fun a m n => SameValue a u ∧ Alike cached pins m n)
    (fun m n h => ⟨_, m, rfl, ?_, h⟩) fun t' => ?_
  · have hget := h.pinned targetSlot t hpt
    rw [SlotAlike, if_neg htarget] at hget
    exact Eq.trans hget htu
  refine Sim.step (S := fun i' m n => SameIndex i' k.toValue ∧ SameValue t' u ∧
    Alike cached pins m n) (fun m n h => ⟨_, m, rfl, ?_, h⟩) fun i' => ?_
  · have hget := h.2.pinned indexSlot k.toValue hpi
    rwa [SlotAlike, if_pos hindex] at hget
  refine Sim.step (S := fun k' m n => k' = k ∧ SameValue t' u ∧ Alike cached pins m n)
    (fun m n h => ⟨_, m, rfl, ?_, h.2⟩) fun k' => ?_
  · show m.heap.key i' = k
    rw [Heap.key_congr rfl h.1, Heap.key_toValue _ hk]
  rintro m n ⟨rfl, htu', hmn⟩
  exact Follows.bind (follows_runRead htu' k') (fun _ _ hold => follows_combine htu hold hr) hmn

/-- The computation keeps machines alike while only the hidden slots are pinned. -/
def Undisturbed (cached hidden : List Nat) (V : Value → Value → Prop) (x : Exec Value) : Prop :=
  ∀ pins : Nat → Option Value, OnlyPins hidden pins → Follows (Alike cached pins) V x x

theorem updateFromParked_sim {t u : Value}
    (hi : Undisturbed cached [targetSlot, indexSlot] SameIndex index)
    (hr : Undisturbed cached [targetSlot, indexSlot] SameValue rhs)
    (htu : SameValue t u) (htarget : targetSlot ∉ cached) (hindex : indexSlot ∈ cached) :
    Sim (Alike cached (Function.update (fun _ => none) targetSlot (some t)))
      (SameState cached [targetSlot, indexSlot])
      (fun v w m n => v.canon = w.canon ∧ SameState cached [targetSlot, indexSlot] m n)
      (updateFromParked op flags targetSlot indexSlot index rhs t) (do
      if u.isNullish then
        Exec.fail (.notConvertible u.typeName)
      else
        let i ← index
        let k ← Exec.key i
        updateAt op flags rhs u k) := by
  have hne : targetSlot ≠ indexSlot := fun h => htarget (h ▸ hindex)
  have hpins : OnlyPins [targetSlot, indexSlot]
      (Function.update (fun _ => none) targetSlot (some t)) :=
    OnlyPins.pin (fun _ _ => rfl) (by simp) t
  unfold updateFromParked
  rw [htu.checkTarget]
  unfold Write.checkTarget
  split
  · exact fun m n h => .error (h.sameState hpins)
  refine Sim.step (S := fun _ => Alike cached _) (fun m n h => ⟨(), m, rfl, h⟩) fun _ => ?_
  refine ((hi _ hpins).sim fun _ _ h => h.sameState hpins).bind fun i j => ?_
  -- both find the same key, which is proper, so that it can be read back
  refine Sim.bind (Q := fun k l m n => (k = l ∧ k.Proper) ∧ Alike cached _ m n)
    (fun m n h => .ok ⟨⟨Heap.key_congr h.2.heap h.1, Heap.key_proper _ _⟩, h.2⟩) fun k l => ?_
  rintro m n ⟨⟨rfl, hk⟩, hmn⟩
  have hkept := hmn.pin indexSlot k.toValue
  have hpins' : OnlyPins [targetSlot, indexSlot] (Function.update _ indexSlot _) :=
    hpins.pin (by simp) k.toValue
  have hrest : Follows _ SameValue (updateAtParked op flags targetSlot indexSlot rhs t k) _ :=
    follows_updateAtParked (hr _ hpins') htu hk htarget hindex
      (by rw [Function.update_of_ne hne, Function.update_self]) (Function.update_self ..)
  exact (hrest hkept).mono (fun _ _ h => h.sameState hpins')
    fun _ _ _ _ h => ⟨h.1, h.2.sameState hpins'⟩

/-- With the temporaries hidden, the assignment through them does what it is to do. -/
theorem updateParked_sameOutcome (op : Op) (flags : StoreFlags)
    (ht : Undisturbed cached [targetSlot, indexSlot] SameValue target)
    (hi : Undisturbed cached [targetSlot, indexSlot] SameIndex index)
    (hr : Undisturbed cached [targetSlot, indexSlot] SameValue rhs)
    (htarget : targetSlot ∉ cached) (hindex : indexSlot ∈ cached) (m : Machine) :
    SameOutcome cached [targetSlot, indexSlot]
      (updateParked op flags targetSlot indexSlot target index rhs m)
      (update op flags target index rhs m) := by
  have hstart : Alike cached (fun _ => none) m m := .of_eq rfl rfl rfl
  have hnone : OnlyPins [targetSlot, indexSlot] fun _ => none := fun _ _ => rfl
  have htarget' := (ht _ hnone).sim fun _ _ h => h.sameState hnone
  refine htarget'.bind (fun t u => ?_) hstart
  rintro m n ⟨htu, hmn⟩
  exact Sim.step (fun m n h => ⟨(), _, rfl, h.pin targetSlot t⟩)
    (fun _ => updateFromParked_sim hi hr htu htarget hindex) hmn

end

/-! ## The parts -/

namespace Node

mutual

/-- A slot that the tree does not mention may be one that keeps an index. -/
theorem confined_cons {cached : List Nat} {slot : Nat} {asIndex : Bool} :
    (n : Node) → slot ∉ n.slots →
      n.confined (slot :: cached) asIndex = n.confined cached asIndex
  | .const .., _ | .patternLiteral .., _ => rfl
  | .read _ s, h => by
    have hne : s ≠ slot := fun heq => h (by simp [slots, heq])
    simp [confined, hne]
  | .write _ _ v, h => by
    simp only [slots, List.mem_cons, not_or] at h
    exact confined_cons v h.2
  | .binary _ _ l r, h => by
    simp only [slots, List.mem_append, not_or] at h
    simp only [confined, confined_cons l h.1, confined_cons r h.2]
  | .readElement _ t i, h => by
    simp only [slots, List.mem_append, not_or] at h
    simp only [confined, confined_cons t h.1, confined_cons i h.2]
  | .writeElement _ _ t i v, h => by
    simp only [slots, List.mem_append, not_or] at h
    simp only [confined, confined_cons t h.1.1, confined_cons i h.1.2, confined_cons v h.2]
  | .compound _ _ _ t i v, h => by
    simp only [slots, List.mem_append, not_or] at h
    simp only [confined, confined_cons t h.1.1.2, confined_cons i h.1.2, confined_cons v h.2]
  | .tagged _ c, h => confined_cons c h
  | .sequence _ ns, h => confinedAll_cons ns h
  | .patternExec _ p s a, h => by
    simp only [slots, List.mem_append, not_or] at h
    simp only [confined, confined_cons p h.1.1, confined_cons s h.1.2, confined_cons a h.2]
  | .listFormat _ l o, h => by
    simp only [slots, List.mem_append, not_or] at h
    simp only [confined, confined_cons l h.1, confined_cons o h.2]

theorem confinedAll_cons {cached : List Nat} {slot : Nat} :
    (ns : List Node) → slot ∉ slotsAll ns →
      confinedAll (slot :: cached) ns = confinedAll cached ns
  | [], _ => rfl
  | n :: ns, h => by
    simp only [slotsAll, List.mem_append, not_or] at h
    simp only [confinedAll, confined_cons n h.1, confinedAll_cons ns h.2]

end

mutual

/-- The slots that keep indices are slots that the tree mentions. -/
theorem caches_sublist_slots : (n : Node) → n.caches.Sublist n.slots
  | .const .. | .read .. | .patternLiteral .. => List.nil_sublist _
  | .write _ _ v => (caches_sublist_slots v).cons _
  | .binary _ _ l r => (caches_sublist_slots l).append (caches_sublist_slots r)
  | .readElement _ t i => (caches_sublist_slots t).append (caches_sublist_slots i)
  | .writeElement _ _ t i v =>
    ((caches_sublist_slots t).append (caches_sublist_slots i)).append (caches_sublist_slots v)
  | .compound _ _ c t i v =>
    (((List.Sublist.refl c.toList).append (caches_sublist_slots t)).append
      (caches_sublist_slots i)).append (caches_sublist_slots v)
  | .tagged _ c => caches_sublist_slots c
  | .sequence _ ns => cachesAll_sublist_slotsAll ns
  | .patternExec _ p s a =>
    ((caches_sublist_slots p).append (caches_sublist_slots s)).append (caches_sublist_slots a)
  | .listFormat _ l o => (caches_sublist_slots l).append (caches_sublist_slots o)

theorem cachesAll_sublist_slotsAll : (ns : List Node) →
    (cachesAll ns).Sublist (slotsAll ns)
  | [] => List.nil_sublist _
  | n :: ns => (caches_sublist_slots n).append (cachesAll_sublist_slotsAll ns)

end

/-- The tree reads the slots `cached`, among which are its own, as indices only, and does not
mention the hidden slots. It may be an index itself if `asIndex` is true. -/
structure Fits (cached hidden : List Nat) (asIndex : Bool) (n : Node) : Prop where
  confined : n.confined cached asIndex = true
  caches : n.caches ⊆ cached
  slots : ∀ s ∈ n.slots, s ∉ hidden

namespace Fits

variable {cached hidden : List Nat} {asIndex : Bool} {n : Node}

theorem not_mem_caches (h : n.Fits cached hidden asIndex) {s : Nat} (hs : s ∈ hidden) :
    s ∉ n.caches :=
  fun hmem => h.slots s (n.caches_sublist_slots.subset hmem) hs

theorem undisturbed (h : n.Fits cached hidden asIndex) (d : Locale.Data) :
    Undisturbed cached hidden (SameAs asIndex) (n.meaning d) :=
  fun _ hpins => n.meaning_follows d h.confined h.caches fun s hs => hpins s (h.slots s hs)

theorem follows (h : n.Fits cached hidden asIndex) (env : Env) (base : Nat) (c : Channel) :
    Follows (Alike cached fun _ => none) (SameAs asIndex) ((n.runner env base).value c)
      (n.meaning env.locales) :=
  (n.runner_means env base h.confined h.caches fun _ _ => rfl).value c

end Fits

end Node

/-- What the parts of a compound assignment have to respect: they do not mention the temporaries,
and read the slots in which any of them keeps indices as indices only. -/
structure Assignable (layout : Layout) (target index rhs : Node) : Prop where
  fresh : ∀ s ∈ target.slots ++ index.slots ++ rhs.slots, s ∉ [layout.size, layout.size + 1]
  targetReads : target.confined (target.caches ++ index.caches ++ rhs.caches) false = true
  indexReads : index.confined (target.caches ++ index.caches ++ rhs.caches) true = true
  rhsReads : rhs.confined (target.caches ++ index.caches ++ rhs.caches) false = true

namespace Builder

variable (b : Builder) (layout : Layout) (op : Op) (target index rhs : Node)

/-- The tree keeps its own index in the second temporary. -/
theorem caches_compoundAssign :
    (b.compoundAssign layout op target index rhs).1.caches =
      (layout.size + 1) :: (target.caches ++ index.caches ++ rhs.caches) := by
  simp [compoundAssign, Layout.addTemp, compoundWrite, write, binary, readElement, read,
    Node.caches, Layout.size]

variable {b layout op target index rhs}

/-- A part that fits together with the others also fits when the tree keeps its own index. -/
theorem fits_compoundAssign {n : Node} {asIndex : Bool} {cached : List Nat}
    (hslots : ∀ s ∈ n.slots, s ∉ [layout.size, layout.size + 1])
    (hconf : n.confined cached asIndex = true) (hcaches : n.caches ⊆ cached) :
    n.Fits ((layout.size + 1) :: cached) [layout.size, layout.size + 1] asIndex where
  confined := by rwa [Node.confined_cons n fun hmem => hslots _ hmem (by simp)]
  caches := List.subset_cons_of_subset _ hcaches
  slots := hslots

theorem wellCached_compoundAssign {cached hidden : List Nat}
    (htarget : target.Fits cached hidden false) (hindex : index.Fits cached hidden true)
    (hrhs : rhs.Fits cached hidden false) (hslot : layout.size ∉ cached) :
    (b.compoundAssign layout op target index rhs).1.confined cached false = true := by
  simp only [compoundAssign, Layout.addTemp, compoundWrite, write, binary, readElement, read,
    Node.confined, htarget.confined, hindex.confined, hrhs.confined]
  simp [hslot]

/-- The tree that is built for a compound assignment does what the assignment is to do: its outcome
is the one of `update` on its parts. The parts and the tree may be evaluated in different
environments, after different observations and on any channels. -/
theorem compoundAssign_eq_update (h : Assignable layout target index rhs) (env : Env)
    (speculating recording : Bool) (base targetBase indexBase rhsBase : Nat)
    (c targetChannel indexChannel rhsChannel : Channel) (m : Machine) (profile : Profile)
    (epoch : Nat) (trace : List Event) :
    let built := (b.compoundAssign layout op target index rhs).1
    let partEnv : Env := { env with speculating, recording }
    SameOutcome built.caches [layout.size, layout.size + 1] ((built.runner env base).value c m)
      (update op b.flags ((target.runner partEnv targetBase).value targetChannel)
        ((index.runner partEnv indexBase).value indexChannel)
        ((rhs.runner partEnv rhsBase).value rhsChannel) { m with profile, epoch, trace }) := by
  intro built partEnv
  obtain ⟨hfresh, htarget, hindex, hrhs⟩ := h
  simp only [List.forall_mem_append] at hfresh
  replace htarget := fits_compoundAssign hfresh.1.1 htarget (by simp)
  replace hindex := fits_compoundAssign hfresh.1.2 hindex (by simp)
  replace hrhs := fits_compoundAssign hfresh.2 hrhs (by simp)
  have hcaches : built.caches = _ := b.caches_compoundAssign layout op target index rhs
  rw [← hcaches] at htarget hindex hrhs
  have hslot : layout.size ∉ built.caches := by
    simp [hcaches, htarget.not_mem_caches, hindex.not_mem_caches, hrhs.not_mem_caches]
  have hbuilt : built.WellCached := wellCached_compoundAssign htarget hindex hrhs hslot
  -- the tree follows its meaning, which is the assignment through the temporaries
  have hleft := ((built.runner_means env base hbuilt (List.Subset.refl _) fun _ _ => rfl).value
    c).sameOutcome [layout.size, layout.size + 1] m m.profile m.epoch m.trace
  rw [meaning_compoundAssign] at hleft
  have hparked := updateParked_sameOutcome op b.flags (htarget.undisturbed env.locales)
    (hindex.undisturbed env.locales) (hrhs.undisturbed env.locales) hslot (by simp [hcaches]) m
  have hright := (follows_update op b.flags (htarget.follows partEnv targetBase targetChannel)
    (hindex.follows partEnv indexBase indexChannel)
    (hrhs.follows partEnv rhsBase rhsChannel)).sameOutcome [layout.size, layout.size + 1] m profile
    epoch trace
  exact (hleft.trans hparked).trans hright.symm

end Builder

/-! ## Indices that the parts keep

A slot in which a part keeps an index can end as a number in one evaluation and as a text in
another, so that it is compared by its key. In `o[b[0] = x] += (b[b[0]] = 0)` the store to `b[0]` is
evaluated on the integer channel because it is an index, but may have stored doubles before.
Evaluated by itself, it then stores a double, and the compound write to `b[b[0]]` keeps its index as
a text.
-/

namespace MixedIndices

/-- The slots of `b`, `o` and `x`, and one that keeps an index. -/
def layout : Layout := ⟨#["b", "o", "x", "kept"], 0⟩

/-- The store to `b[0]`. -/
def index : Node :=
  .writeElement {} { strict := true } (.read {} 0) (.const {} (.int 0)) (.read {} 2)

/-- The write to `b[b[0]]`. -/
def rhs : Node :=
  .compound {} {} (some 3) (.read {} 0) (.readElement {} (.read {} 0) (.const {} (.int 0)))
    (.const {} (.int 0))

/-- The assignment to the element of `o`. -/
def built : Node :=
  ((Builder.mk {}).compoundAssign layout .add (.read {} 1) index rhs).1

def env : Env := ⟨true, false, ⟨"en", []⟩⟩

/-- The store to `b[0]`, which is the second site, has met a double; `x` is -1. -/
def start : Machine :=
  ⟨⟨#[.array [.int 7], .ofPairs [("-1", .int 5)]]⟩, .ofArgs 6 [.object 0, .object 1, .int (-1)],
    ⟨#[{ targetCheck := ⟨some ()⟩ }, { value := .double, index := .int }]⟩, 0, [], 0⟩

/-- The assignment as a reference, with the sites of its parts as in the tree. -/
def reference : Exec Value :=
  update .add {} ((Node.read {} 1).runner env 1).generic (index.runner env 1).generic
    (rhs.runner env 3).generic

/-- The state after the store to `b[0]` by itself. -/
def stored : Machine := ((index.runner env 1).generic start).2

theorem assignable : Assignable layout (.read {} 1) index rhs :=
  ⟨by decide, by decide, by decide, by decide⟩

theorem key_double (m : Machine) :
    Exec.key (.double (Value.widen (-1))) m = (.ok (.name "-1"), m) := by
  have hkey : m.heap.key (.double (Value.widen (-1))) = Key.ofDouble (Value.widen (-1)) := rfl
  rw [Exec.key, Exec.read_apply, hkey, Key.ofDouble_widen]
  rfl

/-- After the store of a double, the write to `b[b[0]]` keeps its index as a text. -/
theorem reference_kept : (reference start).2.frame.get 3 = .string "-1" := by
  -- all but the keys of the double can be computed
  have hindex : (index.runner env 1).generic start = (.ok (.double (Value.widen (-1))), stored) :=
    rfl
  have htarget : reference start = (do
      let i ← (index.runner env 1).generic
      let k ← Exec.key i
      updateAt .add {} (rhs.runner env 3).generic (.object 1) k : Exec Value) start := rfl
  have hread : ∀ x, updateAt .add {} x (.object 1) (.name "-1") stored = (do
      let r ← x
      let v ← Binary.apply .add (.int 5) r
      Element.runStore {} (.object 1) (.name "-1") v : Exec Value) stored := fun _ => rfl
  have hrhs : (rhs.runner env 3).generic stored = (do
      let k ← Exec.key (.double (Value.widen (-1)))
      Exec.setLocal 3 k.toValue
      Exec.widenValue 3 .int
      Element.runStore {} (.object 0) k (.int 0) : Exec Value) ((do
      Exec.publishTargetCheck 3
      Exec.widenIndex 3 .double
      Exec.publishConversion 3 (.double (Value.widen (-1))) : Exec Unit) stored).2 := rfl
  rw [htarget, bind_ok hindex, bind_ok (key_double _), hread, bind_apply, hrhs,
    bind_ok (key_double _)]
  rfl

/-- The assignment and its reference may keep the index of a part in different forms. -/
theorem compoundAssign_kept_ne :
    Assignable layout (.read {} 1) index rhs ∧
      (((built.runner env 0).generic start).2.frame.get 3).canon ≠
        ((reference start).2.frame.get 3).canon := by
  have hbuilt : ((built.runner env 0).generic start).2.frame.get 3 = .int (-1) := rfl
  refine ⟨assignable, ?_⟩
  rw [hbuilt, reference_kept]
  exact nofun

/-- All else is the same. -/
theorem compoundAssign_eq_update_mixed :
    Assignable layout (.read {} 1) index rhs ∧
      SameOutcome built.caches [4, 5] ((built.runner env 0).generic start) (reference start) :=
  ⟨assignable, Builder.compoundAssign_eq_update assignable env true false 0 1 1 3 .generic .generic
    .generic .generic start start.profile 0 []⟩

end MixedIndices

end AdaptiveTree
