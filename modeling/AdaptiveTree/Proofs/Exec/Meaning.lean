import AdaptiveTree.Proofs.Exec.Alike
import Mathlib.Data.List.Forall2

/-!
# What a tree means

`meaning` evaluates a tree without channels, observations and reports. Whatever a tree has observed,
whether the typed channels may be used, and on whichever channel it is evaluated, its evaluation
follows its meaning (`runner_means`): it gives the same value or fault, and leaves an alike machine.

This holds for trees that read the slots in which indices are kept as indices only (`confined`). The
proof is by induction on the tree, with one lemma for each kind of node (`Means.binary`,
`Means.compound` and so on) about arbitrary runners of its children.
-/

set_option autoImplicit false

namespace AdaptiveTree

open Exec

/-! ## Slots of a tree -/

namespace Node

mutual

/-- The slots in which the compound writes of the tree keep their indices. -/
def caches : Node → List Nat
  | .const .. | .read .. | .patternLiteral .. => []
  | .write _ _ v => v.caches
  | .binary _ _ l r => l.caches ++ r.caches
  | .readElement _ t i => t.caches ++ i.caches
  | .writeElement _ _ t i v => t.caches ++ i.caches ++ v.caches
  | .compound _ _ c t i v => c.toList ++ t.caches ++ i.caches ++ v.caches
  | .tagged _ c => c.caches
  | .sequence _ ns => cachesAll ns
  | .patternExec _ p s a => p.caches ++ s.caches ++ a.caches
  | .listFormat _ l o => l.caches ++ o.caches

/-- The slots in which the compound writes of several trees keep their indices. -/
def cachesAll : List Node → List Nat
  | [] => []
  | n :: ns => n.caches ++ cachesAll ns

end

mutual

/-- All slots that the tree mentions. -/
def slots : Node → List Nat
  | .const .. | .patternLiteral .. => []
  | .read _ s => [s]
  | .write _ s v => s :: v.slots
  | .binary _ _ l r => l.slots ++ r.slots
  | .readElement _ t i => t.slots ++ i.slots
  | .writeElement _ _ t i v => t.slots ++ i.slots ++ v.slots
  | .compound _ _ c t i v => c.toList ++ t.slots ++ i.slots ++ v.slots
  | .tagged _ c => c.slots
  | .sequence _ ns => slotsAll ns
  | .patternExec _ p s a => p.slots ++ s.slots ++ a.slots
  | .listFormat _ l o => l.slots ++ o.slots

/-- All slots that several trees mention. -/
def slotsAll : List Node → List Nat
  | [] => []
  | n :: ns => n.slots ++ slotsAll ns

end

mutual

/-- Whether the tree reads the slots `cached` only as indices of elements. The tree itself may be
such an index if `asIndex` is true. -/
def confined (cached : List Nat) : Bool → Node → Bool
  | _, .const .. | _, .patternLiteral .. => true
  | asIndex, .read _ s => asIndex || !cached.contains s
  | _, .write _ _ v => confined cached false v
  | _, .binary _ _ l r => confined cached false l && confined cached false r
  | _, .readElement _ t i => confined cached false t && confined cached true i
  | _, .writeElement _ _ t i v | _, .compound _ _ _ t i v =>
    confined cached false t && confined cached true i && confined cached false v
  | asIndex, .tagged _ c => confined cached asIndex c
  | _, .sequence _ ns => confinedAll cached ns
  | _, .patternExec _ p s a =>
    confined cached false p && confined cached false s && confined cached false a
  | _, .listFormat _ l o => confined cached false l && confined cached false o

/-- Whether several trees read the slots `cached` only as indices of elements. -/
def confinedAll (cached : List Nat) : List Node → Bool
  | [] => true
  | n :: ns => confined cached false n && confinedAll cached ns

end

end Node

/-! ## Meanings -/

/-- Evaluates one after the other; the last gives the result. -/
def Exec.last : List (Exec Value) → Exec Value
  | [] => return .undefined
  | [x] => x
  | x :: xs => do
    let _ ← x
    last xs

/-- A store under the target and key that `place` finds, of the value that `value` gives. -/
def Exec.storeAt (flags : StoreFlags) (place : Exec (Value × Key)) (value : Exec Value) :
    Exec Value := do
  let (t, k) ← place
  let v ← value
  Element.runStore flags t k v

/-- The key of the index that `index` gives. -/
def Exec.keyOf (index : Exec Value) : Exec Key := do
  let i ← index
  Exec.key i

/-- The target and key of a plain write. -/
def Exec.placeAt (target index : Exec Value) : Exec (Value × Key) := do
  let t ← target
  let k ← Exec.keyOf index
  return (t, k)

/-- The key of an index, which is kept in the form of its key. -/
def Exec.keepKey (cache : Option Nat) (i : Value) : Exec Key := do
  let k ← Exec.key i
  Write.keepIndex cache k.toValue
  return k

/-- The target and key of a compound write, which checks its target and keeps its index. -/
def Exec.checkedPlaceAt (cache : Option Nat) (target index : Exec Value) : Exec (Value × Key) := do
  let t ← target
  Exec.ofExcept (Write.checkTarget t)
  let i ← index
  let k ← Exec.keepKey cache i
  return (t, k)

namespace Node

mutual

/-- The evaluation of a tree without channels, observations and reports. -/
def meaning (d : Locale.Data) : Node → Exec Value
  | .const _ v => return v
  | .read _ slot => Exec.getLocal slot
  | .write _ slot v => do
    let x ← v.meaning d
    Exec.setLocal slot x
    return x
  | .binary _ op l r => do
    let x ← l.meaning d
    let y ← r.meaning d
    Binary.apply op x y
  | .readElement _ t i => do
    let x ← t.meaning d
    let y ← i.meaning d
    let k ← Exec.key y
    Element.runRead x k
  | .writeElement _ flags t i v =>
    Exec.storeAt flags (Exec.placeAt (t.meaning d) (i.meaning d)) (v.meaning d)
  | .compound _ flags cache t i v =>
    Exec.storeAt flags (Exec.checkedPlaceAt cache (t.meaning d) (i.meaning d)) (v.meaning d)
  | .tagged _ c => c.meaning d
  | .sequence _ ns => Exec.last (meaningAll d ns)
  | .patternLiteral _ p => return .pattern p
  | .patternExec _ p s a => do
    let pattern ← Match.patternOf (← p.meaning d)
    let x ← s.meaning d
    let text ← Exec.read fun m => m.heap.display x
    let position ← a.meaning d
    match (Number.offset? position.toNumber).bind (pattern.run text) with
    | none => return .null
    | some found =>
      let o ← Exec.ofExcept (Match.result text found)
      Match.allocate o
  | .listFormat _ l o => do
    let x ← l.meaning d
    let y ← o.meaning d
    let f ← fun m => (Locale.ListFormat.make m.heap d x y, m)
    Locale.allocate f

/-- The evaluations of several trees. -/
def meaningAll (d : Locale.Data) : List Node → List (Exec Value)
  | [] => []
  | n :: ns => n.meaning d :: meaningAll d ns

end

end Node

/-! ## Runners that follow a meaning -/

/-- Each channel of the runner follows the computation; values are compared by `V`. -/
structure Means (cached : List Nat) (pins : Nat → Option Value) (V : Value → Value → Prop)
    (x : Runner) (y : Exec Value) : Prop where
  generic : Follows (Alike cached pins) V x.generic y
  int : Follows (Alike cached pins) (fun a w => V a.intValue w) x.int y
  double : Follows (Alike cached pins) (fun a w => V a.doubleValue w) x.double y

@[simp] theorem Speculated.intValue_ofIntValue (v : Value) :
    (Speculated.ofIntValue v).intValue = v := by
  cases v <;> rfl

@[simp] theorem Speculated.canon_ofDoubleValue (v : Value) :
    (Speculated.ofDoubleValue v).doubleValue.canon = v.canon := by
  cases v <;> rfl

namespace Means

variable {cached : List Nat} {pins : Nat → Option Value} {x : Runner} {y : Exec Value}

theorem sameIndex (h : Means cached pins SameValue x y) : Means cached pins SameIndex x y where
  generic := h.generic.mono fun _ _ => SameValue.sameIndex
  int := h.int.mono fun _ _ => SameValue.sameIndex
  double := h.double.mono fun _ _ => SameValue.sameIndex

theorem ofGeneric {x y : Exec Value} (h : Follows (Alike cached pins) SameValue x y) :
    Means cached pins SameValue (.ofGeneric x) y where
  generic := h
  int := h.map fun v w hvw => by rwa [Speculated.intValue_ofIntValue]
  double := h.map fun v w hvw => by rwa [SameValue, Speculated.canon_ofDoubleValue]

theorem ofGeneric_index {x y : Exec Value} (h : Follows (Alike cached pins) SameIndex x y) :
    Means cached pins SameIndex (.ofGeneric x) y where
  generic := h
  int := h.map fun v w hvw => by rwa [Speculated.intValue_ofIntValue]
  double := h.map fun v w hvw => by
    rwa [SameIndex, ← Value.indexForm_canon, Speculated.canon_ofDoubleValue, Value.indexForm_canon]

theorem write (h : Means cached pins SameValue x y) {slot : Nat} (hpin : pins slot = none) :
    Means cached pins SameValue (.write slot x) (do
      let v ← y
      Exec.setLocal slot v
      return v) where
  generic := h.generic.bind fun _ _ hvw =>
    (follows_setLocal hpin (.of_canon hvw)).bind_eq fun _ => .pure hvw
  int := h.int.bind fun _ _ haw =>
    (follows_setLocal hpin (.of_canon haw)).bind_eq fun _ => .pure haw
  double := h.double.bind fun _ _ haw =>
    (follows_setLocal hpin (.of_canon haw)).bind_eq fun _ => .pure haw

theorem tagged {V : Value → Value → Prop} (h : Means cached pins V x y) (env : Env)
    (about : Meta) : Means cached pins V (.tagged env about x) y := by
  unfold Runner.tagged
  split
  · exact ⟨follows_reporting h.generic _ _, follows_reporting h.int _ _,
      follows_reporting h.double _ _⟩
  · exact h

theorem sequence {xs : List Runner} {ys : List (Exec Value)}
    (h : List.Forall₂ (Means cached pins SameValue) xs ys) :
    Means cached pins SameValue (.sequence xs) (Exec.last ys) := by
  induction h with
  | nil => exact ⟨.pure rfl, .pure rfl, .pure rfl⟩
  | @cons x y xs ys hxy hrest ih =>
    cases hrest with
    | nil => exact hxy
    | cons _ _ =>
      exact ⟨hxy.generic.bind fun _ _ _ => ih.generic, hxy.generic.bind fun _ _ _ => ih.int,
        hxy.generic.bind fun _ _ _ => ih.double⟩

theorem readElement {t i : Runner} {t' i' : Exec Value} (ht : Means cached pins SameValue t t')
    (hi : Means cached pins SameIndex i i') :
    Means cached pins SameValue (Element.readRunner t i) (do
      let x ← t'
      let y ← i'
      let k ← Exec.key y
      Element.runRead x k) :=
  ofGeneric <| ht.generic.bind fun _ _ htt => hi.generic.bind fun _ _ hii =>
    (follows_key hii).bind_eq fun k => follows_runRead htt k

/-! ### Arithmetic -/

section

variable {l r : Runner} {l' r' : Exec Value} {op : Op} {site : Nat}

theorem runGeneric (hl : Means cached pins SameValue l l') (hr : Means cached pins SameValue r r') :
    Follows (Alike cached pins) SameValue (Binary.runGeneric op site l r) (do
      let x ← l'
      let y ← r'
      Binary.apply op x y) :=
  hl.generic.bind fun _ _ hx => hr.generic.bind fun _ _ hy =>
    (follows_apply op hx hy).after fun v _ h => ⟨v, (silent_widenValue site _).quiet v, h⟩

/-- On the integer channel a pair of integers may have a result; any other pair, and a pair without
one, has the result on arbitrary values. -/
theorem runInt (hl : Means cached pins SameValue l l') (hr : Means cached pins SameValue r r') :
    Follows (Alike cached pins) (fun a w => SameValue a.intValue w) (Binary.runInt op site l r) (do
      let x ← l'
      let y ← r'
      Binary.apply op x y) := by
  refine hl.int.bind fun a x hx => hr.int.bind fun b y hy => ?_
  split
  · rename_i i j
    have happly : ∀ m n, Alike cached pins m n →
        SameValue (op.apply m.heap (.int i) (.int j)) (op.apply n.heap x y) := fun m n h =>
      op.apply_congr h.heap hx hy
    split
    · rename_i k hk
      refine (silent_widenValue site _).skip fun _ => follows_pure_read fun m n h => ?_
      rw [Speculated.intValue, ← Op.apply_int_of_some hk m.heap]
      exact happly m n h
    · rename_i hk
      refine (silent_widenValue site _).skip fun _ => follows_pure_read fun m n h => ?_
      rw [Speculated.intValue_ofIntValue, ← Op.apply_int_of_none hk m.heap]
      exact happly m n h
  · refine (follows_apply op hx hy).after fun v w h =>
      ⟨.ofIntValue v, (silent_widenValue site _).quiet _, ?_⟩
    rwa [Speculated.intValue_ofIntValue]

theorem runDouble (hl : Means cached pins SameValue l l') (hr : Means cached pins SameValue r r') :
    Follows (Alike cached pins) (fun a w => SameValue a.doubleValue w)
      (Binary.runDouble op site l r) (do
      let x ← l'
      let y ← r'
      Binary.apply op x y) := by
  refine hl.double.bind fun a x hx => hr.double.bind fun b y hy => ?_
  split
  · rename_i c d
    refine (silent_widenValue site _).skip fun _ => follows_pure_read fun m n h => ?_
    have hm := op.apply_congr h.heap hx hy
    rw [Speculated.doubleValue, Speculated.doubleValue, Op.apply_double, SameValue,
      Value.canon_number] at hm
    exact hm
  · refine (follows_apply op hx hy).after fun v w h =>
      ⟨.ofDoubleValue v, (silent_widenValue site _).quiet _, ?_⟩
    rwa [SameValue, Speculated.canon_ofDoubleValue]

theorem binary (hl : Means cached pins SameValue l l') (hr : Means cached pins SameValue r r')
    (op : Op) (site : Nat) (env : Env) :
    Means cached pins SameValue (Binary.runner op site l r env) (do
      let x ← l'
      let y ← r'
      Binary.apply op x y) := by
  refine ⟨?_, runInt hl hr, runDouble hl hr⟩
  show Follows _ _ (Binary.runObserved op site l r env) _
  unfold Binary.runObserved
  split
  · exact runGeneric hl hr
  · refine (silent_site site).skip fun s => ?_
    split
    · exact (runInt hl hr).map fun _ _ h => h
    · exact (runInt hl hr).map fun _ _ h => h
    · exact (runDouble hl hr).map fun _ _ h => h
    · exact runGeneric hl hr

end

end Means

/-! ### Element writes -/

/-- The value of an evaluated index. -/
def Write.IndexValue.value : Write.IndexValue → Value
  | .int i => .int i
  | .generic v => v

/-- The same target and key. -/
def SamePlace (p q : Value × Key) : Prop :=
  SameValue p.1 q.1 ∧ p.2 = q.2

theorem SameValue.isNullish {v w : Value} (h : SameValue v w) : v.isNullish = w.isNullish := by
  rw [← Value.isNullish_canon, show v.canon = w.canon from h, Value.isNullish_canon]

theorem SameValue.typeName {v w : Value} (h : SameValue v w) : v.typeName = w.typeName := by
  rw [← Value.typeName_canon, show v.canon = w.canon from h, Value.typeName_canon]

theorem SameValue.checkTarget {v w : Value} (h : SameValue v w) :
    Write.checkTarget v = Write.checkTarget w := by
  unfold Write.checkTarget
  rw [h.isNullish, h.typeName]

namespace Means

variable {cached : List Nat} {pins : Nat → Option Value} {env : Env} {flags : StoreFlags}
  {site : Nat} {t i v : Runner} {t' i' v' : Exec Value}

theorem runIndex (hi : Means cached pins SameIndex i i') :
    Follows (Alike cached pins) (fun a w => SameIndex a.value w)
      (Write.runIndex env ⟨flags, site, i, v⟩) i' := by
  refine (silent_site site).skip fun s => ?_
  split
  · refine hi.int.after fun a w h => ?_
    cases a with
    | exact j => exact ⟨.int j, (silent_widenIndex site _).quiet _, h⟩
    | unexpected u => exact ⟨.generic u, (silent_widenIndex site _).quiet _, h⟩
  · exact hi.generic.after fun u _ h => ⟨.generic u, (silent_widenIndex site _).quiet _, h⟩

theorem place (ht : Means cached pins SameValue t t') (hi : Means cached pins SameIndex i i') :
    Follows (Alike cached pins) SamePlace (Write.place env ⟨flags, site, i, v⟩ t)
      (Exec.placeAt t' i') := by
  refine ht.generic.bind fun _ _ htt => ?_
  refine Follows.bind_eq ?_ fun k => .pure ⟨htt, rfl⟩
  refine (runIndex hi).bind fun a w haw => ?_
  cases a with
  | int j => exact follows_pure_read fun m n h => Heap.key_congr h.heap haw
  | generic u => exact follows_key haw

theorem keepIndex {cache : Option Nat}
    (hcache : ∀ c, cache = some c → c ∈ cached ∧ pins c = none) {u w : Value}
    (h : SameIndex u w) :
    Follows (Alike cached pins) Eq (Write.keepIndex cache u) (Write.keepIndex cache w) := by
  cases cache with
  | none => exact .pure rfl
  | some c =>
    obtain ⟨hc, hpin⟩ := hcache c rfl
    refine follows_setLocal hpin ?_
    unfold SlotAlike
    rwa [if_pos hc]

/-- An integer index is kept as it is, which stands for the same index as the form of its key. -/
theorem convertInt {cache : Option Nat}
    (hcache : ∀ c, cache = some c → c ∈ cached ∧ pins c = none) {j : Int32} {w : Value}
    (h : SameIndex (.int j) w) :
    Follows (Alike cached pins) Eq (Write.convertInt cache j) (Exec.keepKey cache w) := by
  intro m n hr
  have hkey : n.heap.key w = .ofInt j := (Heap.key_congr hr.heap h).symm
  have hkeep := keepIndex hcache (Key.indexForm_toValue_ofInt j).symm
  have hbind : Follows (Alike cached pins) Eq (Write.convertInt cache j) (do
      Write.keepIndex cache (Key.ofInt j).toValue
      return Key.ofInt j) := hkeep.bind_eq fun _ => .pure rfl
  have hrun : Exec.keepKey cache w n = (do
      Write.keepIndex cache (Key.ofInt j).toValue
      return Key.ofInt j : Exec Key) n := by
    unfold Exec.keepKey
    rw [bind_ok (show Exec.key w n = (.ok (Key.ofInt j), n) by rw [← hkey]; rfl)]
  rw [hrun]
  exact hbind hr

theorem convertIndex {cache : Option Nat}
    (hcache : ∀ c, cache = some c → c ∈ cached ∧ pins c = none) {u w : Value}
    (h : SameIndex u w) :
    Follows (Alike cached pins) Eq (Write.convertIndex ⟨flags, site, i, v⟩ cache u)
      (Exec.keepKey cache w) :=
  (silent_publishConversion site u).skip fun _ => (follows_key h).bind_eq fun _ =>
    (keepIndex hcache rfl).bind_eq fun _ => .pure rfl

theorem compoundPlace {cache : Option Nat}
    (hcache : ∀ c, cache = some c → c ∈ cached ∧ pins c = none)
    (ht : Means cached pins SameValue t t') (hi : Means cached pins SameIndex i i') :
    Follows (Alike cached pins) SamePlace (Write.compoundPlace env ⟨flags, site, i, v⟩ cache t)
      (Exec.checkedPlaceAt cache t' i') := by
  refine ht.generic.bind fun x y hxy => ?_
  refine Follows.bind_eq ?_ fun _ => (runIndex hi).bind fun a w haw => ?_
  · rw [← hxy.checkTarget]
    exact (silent_publishTargetCheck site).skip fun _ => follows_ofExcept _
  · cases a with
    | int j => exact (convertInt hcache haw).bind_eq fun _ => .pure ⟨hxy, rfl⟩
    | generic u => exact (convertIndex hcache haw).bind_eq fun _ => .pure ⟨hxy, rfl⟩

theorem storeGeneric (hv : Means cached pins SameValue v v') {x y : Value} (hxy : SameValue x y)
    (k : Key) :
    Follows (Alike cached pins) SameValue (Write.storeGeneric ⟨flags, site, i, v⟩ x k) (do
      let u ← v'
      Element.runStore flags y k u) :=
  hv.generic.bind fun _ _ hu =>
    (silent_widenValue site _).skip fun _ => follows_runStore flags hxy k hu

/-- An exact result is stored as it is, and another one as the value that was computed. -/
theorem storeInt (hv : Means cached pins SameValue v v') {x y : Value} (hxy : SameValue x y)
    (k : Key) :
    Follows (Alike cached pins) (fun a w => SameValue a.intValue w)
      (Write.storeInt ⟨flags, site, i, v⟩ x k) (do
      let u ← v'
      Element.runStore flags y k u) := by
  refine hv.int.bind fun a u hu => ?_
  cases a with
  | exact j =>
    refine (silent_widenValue site _).skip fun _ => (follows_store flags hxy k hu).map ?_
    rintro _ _ ⟨-, rfl⟩
    exact hu
  | unexpected z =>
    refine (silent_widenValue site _).skip fun _ => (follows_runStore flags hxy k hu).map ?_
    intro stored w h
    rwa [Speculated.intValue_ofIntValue]

theorem storeDouble (hv : Means cached pins SameValue v v') {x y : Value} (hxy : SameValue x y)
    (k : Key) :
    Follows (Alike cached pins) (fun a w => SameValue a.doubleValue w)
      (Write.storeDouble ⟨flags, site, i, v⟩ x k) (do
      let u ← v'
      Element.runStore flags y k u) := by
  refine hv.double.bind fun a u hu => ?_
  cases a with
  | exact d =>
    refine (silent_widenValue site _).skip fun _ => (follows_store flags hxy k hu).map ?_
    rintro _ _ ⟨-, rfl⟩
    exact hu
  | unexpected z =>
    refine (silent_widenValue site _).skip fun _ => (follows_runStore flags hxy k hu).map ?_
    intro stored w h
    rwa [SameValue, Speculated.canon_ofDoubleValue]

theorem storeObserved (hv : Means cached pins SameValue v v') {x y : Value} (hxy : SameValue x y)
    (k : Key) :
    Follows (Alike cached pins) SameValue (Write.storeObserved env ⟨flags, site, i, v⟩ x k) (do
      let u ← v'
      Element.runStore flags y k u) := by
  unfold Write.storeObserved
  split
  · exact storeGeneric hv hxy k
  · refine (silent_site site).skip fun s => ?_
    split
    · exact (storeInt hv hxy k).map fun _ _ h => h
    · exact (storeInt hv hxy k).map fun _ _ h => h
    · exact (storeDouble hv hxy k).map fun _ _ h => h
    · exact storeGeneric hv hxy k

/-- The three ways to store, under a target and key that are found alike. -/
theorem runnerAfter (hv : Means cached pins SameValue v v') {place place' : Exec (Value × Key)}
    (hp : Follows (Alike cached pins) SamePlace place place') :
    Means cached pins SameValue (Write.runnerAfter env ⟨flags, site, i, v⟩ place)
      (Exec.storeAt flags place' v') where
  generic := by
    refine hp.bind ?_
    rintro ⟨x, k⟩ ⟨y, _⟩ ⟨hxy, rfl⟩
    exact storeObserved hv hxy k
  int := by
    refine hp.bind ?_
    rintro ⟨x, k⟩ ⟨y, _⟩ ⟨hxy, rfl⟩
    exact storeInt hv hxy k
  double := by
    refine hp.bind ?_
    rintro ⟨x, k⟩ ⟨y, _⟩ ⟨hxy, rfl⟩
    exact storeDouble hv hxy k

theorem writeElement (ht : Means cached pins SameValue t t')
    (hi : Means cached pins SameIndex i i') (hv : Means cached pins SameValue v v') :
    Means cached pins SameValue (Write.runner env ⟨flags, site, i, v⟩ t)
      (Exec.storeAt flags (Exec.placeAt t' i') v') :=
  runnerAfter hv (place ht hi)

theorem compound {cache : Option Nat}
    (hcache : ∀ c, cache = some c → c ∈ cached ∧ pins c = none)
    (ht : Means cached pins SameValue t t') (hi : Means cached pins SameIndex i i')
    (hv : Means cached pins SameValue v v') :
    Means cached pins SameValue (Write.compoundRunner env ⟨flags, site, i, v⟩ cache t)
      (Exec.storeAt flags (Exec.checkedPlaceAt cache t' i') v') :=
  runnerAfter hv (compoundPlace hcache ht hi)

/-! ### Pattern matches and list formats -/

theorem patternOf {x y : Value} (h : SameValue x y) :
    Follows (Alike cached pins) Eq (Match.patternOf x) (Match.patternOf y) := by
  unfold Match.patternOf
  split
  · rename_i p
    obtain rfl : y = .pattern p := Value.canon_eq_pattern.1 h.symm
    exact .pure rfl
  · rename_i hx
    split
    · rename_i q
      exact absurd (Value.canon_eq_pattern.1 h) (hx q)
    · exact (follows_display h).bind_eq fun _ => .fail _

theorem patternExec {p s a : Runner} {p' s' a' : Exec Value}
    (hp : Means cached pins SameValue p p') (hs : Means cached pins SameValue s s')
    (ha : Means cached pins SameValue a a') :
    Means cached pins SameValue (Match.runner p s a) (do
      let pattern ← Match.patternOf (← p')
      let x ← s'
      let text ← Exec.read fun m => m.heap.display x
      let position ← a'
      match (Number.offset? position.toNumber).bind (pattern.run text) with
      | none => return .null
      | some found =>
        let o ← Exec.ofExcept (Match.result text found)
        Match.allocate o) := by
  refine ofGeneric <| hp.generic.bind fun _ _ hpp => (patternOf hpp).bind_eq fun pattern => ?_
  refine hs.generic.bind fun _ _ hss => (follows_display hss).bind_eq fun text => ?_
  refine ha.generic.bind fun u w huw => ?_
  have hnumber : u.toNumber = w.toNumber := by
    rw [← Value.toNumber_canon, show u.canon = w.canon from huw, Value.toNumber_canon]
  rw [hnumber]
  cases (Number.offset? w.toNumber).bind (pattern.run text) with
  | none => exact .pure rfl
  | some found => exact (follows_ofExcept _).bind_eq fun o => follows_allocate o

theorem listFormat {l o : Runner} {l' o' : Exec Value} (hl : Means cached pins SameValue l l')
    (ho : Means cached pins SameValue o o') :
    Means cached pins SameValue (Locale.runner env l o) (do
      let x ← l'
      let y ← o'
      let f ← fun m => (Locale.ListFormat.make m.heap env.locales x y, m)
      Locale.allocate f) :=
  ofGeneric <| hl.generic.bind fun _ _ hll => ho.generic.bind fun _ _ hoo =>
    (follows_make env.locales hll hoo).bind_eq fun f => follows_allocateFormat f

end Means

/-! ## Trees follow their meanings -/

/-- How the values of a tree are compared: as indices if the tree may be one, and else up to the
representation of numbers. -/
def SameAs (asIndex : Bool) : Value → Value → Prop :=
  if asIndex then SameIndex else SameValue

theorem SameAs.join {asIndex : Bool} {u v w : Value} (hv : SameAs asIndex u v)
    (hw : SameAs asIndex u w) : SameAs asIndex v w := by
  cases asIndex with
  | false => exact Eq.trans hv.symm hw
  | true => exact Eq.trans hv.symm hw

theorem Means.sameAs {cached : List Nat} {pins : Nat → Option Value} {x : Runner} {y : Exec Value}
    (h : Means cached pins SameValue x y) (asIndex : Bool) :
    Means cached pins (SameAs asIndex) x y := by
  cases asIndex with
  | false => exact h
  | true => exact h.sameIndex

/-- A read of a slot that keeps an index stands for the index only, and must be one. -/
theorem Means.read {cached : List Nat} {pins : Nat → Option Value} {asIndex : Bool} {slot : Nat}
    (hconf : (asIndex || !cached.contains slot) = true) (hpin : pins slot = none) :
    Means cached pins (SameAs asIndex) (.ofGeneric (Exec.getLocal slot)) (Exec.getLocal slot) := by
  have hget : Follows (Alike cached pins) (SlotAlike cached slot) (Exec.getLocal slot)
      (Exec.getLocal slot) := follows_getLocal hpin
  cases asIndex with
  | true => exact ofGeneric_index (hget.mono fun _ _ h => h.indexForm)
  | false =>
    have hslot : slot ∉ cached := by simpa using hconf
    refine ofGeneric (hget.mono fun _ _ h => ?_)
    rwa [SlotAlike, if_neg hslot] at h

namespace Node

variable {cached : List Nat} {pins : Nat → Option Value}

mutual

/-- A tree that is evaluated from any site on, in any environment and on any channel, follows its
meaning. -/
theorem runner_means (env : Env) {asIndex : Bool} : (n : Node) → (base : Nat) →
    n.confined cached asIndex = true → n.caches ⊆ cached → (∀ s ∈ n.slots, pins s = none) →
    Means cached pins (SameAs asIndex) (n.runner env base) (n.meaning env.locales)
  | .const _ v, _, _, _, _ => (Means.ofGeneric (.pure rfl)).sameAs asIndex
  | .read _ slot, _, hconf, _, hpins => by
    simp only [slots, List.mem_singleton, forall_eq] at hpins
    exact .read hconf hpins
  | .write _ slot v, base, hconf, hcaches, hpins => by
    simp only [slots, List.forall_mem_cons] at hpins
    exact ((runner_means env v base hconf hcaches hpins.2).write hpins.1).sameAs asIndex
  | .binary _ op l r, base, hconf, hcaches, hpins => by
    simp only [confined, Bool.and_eq_true] at hconf
    simp only [caches, List.append_subset] at hcaches
    simp only [slots, List.forall_mem_append] at hpins
    have hl := runner_means env l (base + 1) hconf.1 hcaches.1 hpins.1
    have hr := runner_means env r (base + 1 + l.sites) hconf.2 hcaches.2 hpins.2
    exact (Means.binary hl hr op base env).sameAs asIndex
  | .readElement _ t i, base, hconf, hcaches, hpins => by
    simp only [confined, Bool.and_eq_true] at hconf
    simp only [caches, List.append_subset] at hcaches
    simp only [slots, List.forall_mem_append] at hpins
    have ht := runner_means env t base hconf.1 hcaches.1 hpins.1
    have hi := runner_means env i (base + t.sites) hconf.2 hcaches.2 hpins.2
    exact (Means.readElement ht hi).sameAs asIndex
  | .writeElement _ flags t i v, base, hconf, hcaches, hpins => by
    simp only [confined, Bool.and_eq_true] at hconf
    simp only [caches, List.append_subset] at hcaches
    simp only [slots, List.forall_mem_append] at hpins
    have ht := runner_means env t (base + 1) hconf.1.1 hcaches.1.1 hpins.1.1
    have hi := runner_means env i (base + 1 + t.sites) hconf.1.2 hcaches.1.2 hpins.1.2
    have hv := runner_means env v (base + 1 + t.sites + i.sites) hconf.2 hcaches.2 hpins.2
    exact (Means.writeElement ht hi hv).sameAs asIndex
  | .compound _ flags cache t i v, base, hconf, hcaches, hpins => by
    simp only [confined, Bool.and_eq_true] at hconf
    simp only [caches, List.append_subset] at hcaches
    simp only [slots, List.forall_mem_append] at hpins
    have hcache : ∀ c, cache = some c → c ∈ cached ∧ pins c = none := fun c hc =>
      have hmem : c ∈ cache.toList := Option.mem_toList.mpr hc
      ⟨hcaches.1.1.1 hmem, hpins.1.1.1 c hmem⟩
    have ht := runner_means env t (base + 1) hconf.1.1 hcaches.1.1.2 hpins.1.1.2
    have hi := runner_means env i (base + 1 + t.sites) hconf.1.2 hcaches.1.2 hpins.1.2
    have hv := runner_means env v (base + 1 + t.sites + i.sites) hconf.2 hcaches.2 hpins.2
    exact (Means.compound hcache ht hi hv).sameAs asIndex
  | .tagged about c, base, hconf, hcaches, hpins =>
    (runner_means env c base hconf hcaches hpins).tagged env about
  | .sequence _ ns, base, hconf, hcaches, hpins =>
    (Means.sequence (runnerAll_means env ns base hconf hcaches hpins)).sameAs asIndex
  | .patternLiteral _ p, _, _, _, _ => (Means.ofGeneric (.pure rfl)).sameAs asIndex
  | .patternExec _ p s a, base, hconf, hcaches, hpins => by
    simp only [confined, Bool.and_eq_true] at hconf
    simp only [caches, List.append_subset] at hcaches
    simp only [slots, List.forall_mem_append] at hpins
    have hp := runner_means env p base hconf.1.1 hcaches.1.1 hpins.1.1
    have hs := runner_means env s (base + p.sites) hconf.1.2 hcaches.1.2 hpins.1.2
    have ha := runner_means env a (base + p.sites + s.sites) hconf.2 hcaches.2 hpins.2
    exact (Means.patternExec hp hs ha).sameAs asIndex
  | .listFormat _ l o, base, hconf, hcaches, hpins => by
    simp only [confined, Bool.and_eq_true] at hconf
    simp only [caches, List.append_subset] at hcaches
    simp only [slots, List.forall_mem_append] at hpins
    have hl := runner_means env l base hconf.1 hcaches.1 hpins.1
    have ho := runner_means env o (base + l.sites) hconf.2 hcaches.2 hpins.2
    exact (Means.listFormat hl ho).sameAs asIndex

/-- Several trees follow their meanings one by one. -/
theorem runnerAll_means (env : Env) : (ns : List Node) → (base : Nat) →
    confinedAll cached ns = true → cachesAll ns ⊆ cached → (∀ s ∈ slotsAll ns, pins s = none) →
    List.Forall₂ (Means cached pins SameValue) (runnerAll env ns base)
      (meaningAll env.locales ns)
  | [], _, _, _, _ => .nil
  | n :: ns, base, hconf, hcaches, hpins => by
    simp only [confinedAll, Bool.and_eq_true] at hconf
    simp only [cachesAll, List.append_subset] at hcaches
    simp only [slotsAll, List.forall_mem_append] at hpins
    exact .cons (runner_means env n base hconf.1 hcaches.1 hpins.1)
      (runnerAll_means env ns (base + n.sites) hconf.2 hcaches.2 hpins.2)

end

/-- The meaning of a tree takes alike machines to alike ones: it is what the tree does in an
environment without typed channels. -/
theorem meaning_follows (d : Locale.Data) {asIndex : Bool} (n : Node)
    (hconf : n.confined cached asIndex = true) (hcaches : n.caches ⊆ cached)
    (hpins : ∀ s ∈ n.slots, pins s = none) :
    Follows (Alike cached pins) (SameAs asIndex) (n.meaning d) (n.meaning d) := by
  intro m p h
  have hrunner : Follows (Alike cached fun _ => none) (SameAs asIndex)
      (n.runner ⟨false, false, d⟩ 0).generic (n.meaning d) :=
    (n.runner_means _ 0 hconf hcaches fun _ _ => rfl).generic
  have hleft := hrunner (.of_eq rfl rfl rfl : Alike cached _ m m)
  have hright := (n.runner_means ⟨false, false, d⟩ 0 hconf hcaches hpins).generic h
  exact hleft.symm.trans hright (fun _ _ _ h h' => h.symm.trans h')
    fun _ _ _ _ _ _ h h' => ⟨h.1.join h'.1, h.2.symm.trans h'.2⟩

end Node

end AdaptiveTree
