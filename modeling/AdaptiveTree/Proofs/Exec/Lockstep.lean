import AdaptiveTree.Proofs.Exec.Mirror
import AdaptiveTree.Proofs.Exec.Trail

/-!
# Runs in step

Two runs of one tree are taken step by step and compared as they go. The machines stay `InStep`:
they have the same objects and slots (`Twins`), and the first run does not touch what is outside of
its `Scope` (`Local`), which are the slots that the tree does not write and the objects out of its
reach.

A slot that keeps an index may keep it in two forms, as long as both stand for the same index. A
node that sees these forms observes different kinds. But no node of a tree is evaluated again in the
same run, so the two runs need to have observed the same kinds only at the nodes that are still to
come: a simulation (`Lockstep I`) starts with equal observations in the cells `I` of its tree and in
those of what follows, and gives up those in `I`.

Two scopes are of interest. Where no objects are out of reach, runs are compared that keep an index
in different forms. Where no slot keeps an index, a run is compared with itself, which shows what it
leaves alone.
-/

set_option autoImplicit false

namespace AdaptiveTree

open Exec

/-! ## Machines in step -/

/-- What two runs are compared by: the slots that keep indices, the slots that may be written, the
objects that are out of reach, and the machine in which the first run starts. -/
structure Scope where
  kept : List Nat
  assigned : List Nat
  out : Nat → Prop
  start : Machine

/-- The value is not an object out of reach. -/
def Scope.Inside (c : Scope) (v : Value) : Prop :=
  ∀ id, v = .object id → ¬ c.out id

theorem Scope.Inside.of_plain {c : Scope} {v : Value} (h : v.isPlain = true) : c.Inside v := by
  rintro id rfl
  cases h

/-- What the first run has left alone: slots that may not be written, and objects out of reach. It
has kept these out of reach, too. -/
structure Local (c : Scope) (m : Machine) : Prop where
  size : c.start.frame.size ≤ m.frame.size
  slot : ∀ s, s ∉ c.assigned → m.frame.get s = c.start.frame.get s
  known : ∀ s, c.Inside (m.frame.get s)
  held : ∀ id, ¬ c.out id → ∀ v, (m.heap.get id).Holds v → c.Inside v
  bound : ∀ id, c.out id → id < m.heap.objects.size
  untouched : ∀ id, c.out id → m.heap.get id = c.start.heap.get id

/-- The machines have the same objects, the same slots but for the form of kept indices, and the
same observations of kinds in the given cells. -/
structure Twins (kept : List Nat) (S : Finset Cell) (m n : Machine) : Prop where
  heap : m.heap = n.heap
  formats : m.formats = n.formats
  size : m.frame.size = n.frame.size
  slot : ∀ s, s ∉ kept → m.frame.get s = n.frame.get s
  form : ∀ s, SameIndex (m.frame.get s) (n.frame.get s)
  value : ∀ i, .value i ∈ S → (m.profile.get i).value = (n.profile.get i).value
  index : ∀ i, .index i ∈ S → (m.profile.get i).index = (n.profile.get i).index

theorem Twins.refl {kept : List Nat} (S : Finset Cell) (m : Machine) : Twins kept S m m where
  heap := rfl
  formats := rfl
  size := rfl
  slot _ _ := rfl
  form _ := rfl
  value _ _ := rfl
  index _ _ := rfl

/-- Twins of which the first is local. -/
structure InStep (c : Scope) (S : Finset Cell) (m n : Machine) : Prop where
  twins : Twins c.kept S m n
  inside : Local c m

section

variable {c : Scope} {S T : Finset Cell} {m n m' n' : Machine} {v w : Value}

theorem Local.setLocal (h : Local c m) {slot : Nat} (hslot : slot ∈ c.assigned)
    (hv : c.Inside v) : Local c { m with frame := m.frame.set slot v } where
  size := by
    rw [Frame.size_set]
    exact Nat.le_trans h.size (Nat.le_max_left _ _)
  slot s hs := by
    have hne : s ≠ slot := by
      rintro rfl
      exact hs hslot
    rw [Frame.get_set, if_neg hne]
    exact h.slot s hs
  known s := by
    rw [Frame.get_set]
    split
    · exact hv
    · exact h.known s
  held := h.held
  bound := h.bound
  untouched := h.untouched

/-- An object within reach is replaced by one that holds only values within reach. -/
theorem Local.setObject (h : Local c m) {id : Nat} (hid : ¬ c.out id) {o : Object}
    (ho : ∀ v, o.Holds v → c.Inside v) : Local c { m with heap := m.heap.set id o } where
  size := h.size
  slot := h.slot
  known := h.known
  held id' hid' v hv := by
    by_cases hlt : id' < m.heap.objects.size
    · rw [Heap.get_set _ _ _ _ hlt] at hv
      split at hv
      · exact ho v hv
      · exact h.held id' hid' v hv
    · rw [Heap.get_of_size_le (by rw [Heap.size_set]; omega)] at hv
      exact absurd hv (Object.not_holds_default v)
  bound id' hid' := by
    rw [Heap.size_set]
    exact h.bound id' hid'
  untouched id' hid' := by
    have hne : id ≠ id' := by
      rintro rfl
      exact hid hid'
    rw [Heap.get_set _ _ _ _ (h.bound id' hid'), if_neg hne]
    exact h.untouched id' hid'

/-- A new object is within reach. -/
theorem Local.allocObject (h : Local c m) {o : Object} (ho : ∀ v, o.Holds v → c.Inside v) :
    Local c { m with heap := (m.heap.alloc o).2 } ∧ c.Inside (.object m.heap.objects.size) := by
  have hnew : ¬ c.out m.heap.objects.size := fun hout => Nat.lt_irrefl _ (h.bound _ hout)
  refine ⟨⟨h.size, h.slot, h.known, ?_, ?_, ?_⟩, ?_⟩
  · intro id hid v hv
    rw [Heap.get_alloc] at hv
    split at hv
    · exact ho v hv
    · exact h.held id hid v hv
  · intro id hid
    rw [Heap.size_alloc]
    exact Nat.lt_succ_of_lt (h.bound id hid)
  · intro id hid
    have hne : id ≠ m.heap.objects.size := Nat.ne_of_lt (h.bound id hid)
    rw [Heap.get_alloc, if_neg hne]
    exact h.untouched id hid
  · intro id hid
    cases hid
    exact hnew

/-- A store changes no object but its target. -/
theorem Local.store (h : Local c m) {t : Value} (ht : c.Inside t) (hv : c.Inside v)
    {flags : StoreFlags} {k : Key} {heap : Heap}
    (hstore : Element.store flags m.heap t k v = .ok heap) :
    Local c { m with heap := heap } := by
  cases t with
  | object id =>
    simp only [Element.store] at hstore
    cases hput : (m.heap.get id).put k v flags with
    | error e =>
      rw [hput] at hstore
      cases hstore
    | ok o =>
      rw [hput] at hstore
      cases hstore
      refine h.setObject (ht id rfl) fun u hu => ?_
      rcases Object.holds_of_put hput hu with rfl | hu
      · exact hv
      · exact h.held id (ht id rfl) u hu
  | undefined | null => cases hstore
  | _ =>
    simp only [Element.store] at hstore
    split at hstore
    · cases hstore
    · cases hstore
      exact h

theorem Local.congr (h : Local c m) (hheap : m'.heap = m.heap) (hframe : m'.frame = m.frame) :
    Local c m' := by
  obtain ⟨hsize, hslot, hknown, hheld, hbound, huntouched⟩ := h
  rw [← hframe] at hsize hslot hknown
  rw [← hheap] at hheld hbound huntouched
  exact ⟨hsize, hslot, hknown, hheld, hbound, huntouched⟩

namespace InStep

theorem mono (h : InStep c T m n) (hST : S ⊆ T) : InStep c S m n where
  twins := { h.twins with
    value := fun i hi => h.twins.value i (hST hi)
    index := fun i hi => h.twins.index i (hST hi) }
  inside := h.inside

/-- Both machines have learnt or reported something. -/
theorem learn (h : InStep c T m n)
    (hm : m'.heap = m.heap ∧ m'.frame = m.frame ∧ m'.formats = m.formats)
    (hn : n'.heap = n.heap ∧ n'.frame = n.frame ∧ n'.formats = n.formats)
    (hvalue : ∀ i, .value i ∈ S → (m'.profile.get i).value = (n'.profile.get i).value)
    (hindex : ∀ i, .index i ∈ S → (m'.profile.get i).index = (n'.profile.get i).index) :
    InStep c S m' n' := by
  obtain ⟨hmheap, hmframe, hmformats⟩ := hm
  obtain ⟨hnheap, hnframe, hnformats⟩ := hn
  refine ⟨?_, h.inside.congr hmheap hmframe⟩
  constructor
  case heap => rw [hmheap, hnheap, h.twins.heap]
  case formats => rw [hmformats, hnformats, h.twins.formats]
  case size => rw [hmframe, hnframe, h.twins.size]
  case slot =>
    rw [hmframe, hnframe]
    exact h.twins.slot
  case form =>
    rw [hmframe, hnframe]
    exact h.twins.form
  case value => exact hvalue
  case index => exact hindex

theorem setLocal (h : InStep c S m n) {slot : Nat} (hslot : slot ∈ c.assigned)
    (hv : c.Inside v) (hform : SameIndex v w) (hvw : slot ∉ c.kept → v = w) :
    InStep c S { m with frame := m.frame.set slot v } { n with frame := n.frame.set slot w } where
  twins := { h.twins with
    size := by rw [Frame.size_set, Frame.size_set, h.twins.size]
    slot := fun s hs => by
      rw [Frame.get_set, Frame.get_set]
      split
      · rename_i heq
        exact hvw (heq ▸ hs)
      · exact h.twins.slot s hs
    form := fun s => by
      rw [Frame.get_set, Frame.get_set]
      split
      · exact hform
      · exact h.twins.form s }
  inside := h.inside.setLocal hslot hv

end InStep

end

/-! ## Computations in step -/

section

variable {α β α' β' : Type} {c : Scope} {I J : Finset Cell} {V : α → β → Prop}
  {W : α' → β' → Prop}

/-- Started in machines that have observed the same kinds in the cells `I` and in others, the two
computations stay in step and give results related by `V`. Then the machines have still observed the
same kinds in the other cells. -/
def Lockstep (c : Scope) (I : Finset Cell) (V : α → β → Prop) (x : Exec α) (y : Exec β) : Prop :=
  ∀ S, Disjoint I S →
    Sim (InStep c (I ∪ S)) (InStep c ∅) (fun a b m n => V a b ∧ InStep c S m n) x y

namespace Lockstep

/-- How the computations end if nothing follows. -/
theorem related {x : Exec α} {y : Exec β} (h : Lockstep c I V x y) {m n : Machine}
    (hmn : InStep c I m n) :
    Related (InStep c ∅) (fun a b m n => V a b ∧ InStep c ∅ m n) (x m) (y n) := by
  rw [← Finset.union_empty I] at hmn
  exact h ∅ (Finset.disjoint_empty_right I) hmn

/-- Whether it gives a result or fails, a computation in step with itself is local. -/
theorem local_end {V : α → α → Prop} {x : Exec α} (h : Lockstep c I V x x) {m : Machine}
    (hm : InStep c I m m) : Local c (x m).2 := by
  have hend := h.related hm
  generalize x m = r at hend
  cases hend with
  | ok hend => exact hend.2.inside
  | error hend => exact hend.inside

theorem bind {x : Exec α} {y : Exec β} {f : α → Exec α'} {g : β → Exec β'}
    (hx : Lockstep c I V x y) (hf : ∀ a b, V a b → Lockstep c J W (f a) (g b))
    (hd : Disjoint I J) : Lockstep c (I ∪ J) W (x >>= f) (y >>= g) := by
  intro S hS
  obtain ⟨hIS, hJS⟩ := Finset.disjoint_union_left.1 hS
  rw [Finset.union_assoc]
  refine (hx (J ∪ S) (Finset.disjoint_union_right.2 ⟨hd, hIS⟩)).bind fun a b m n h => ?_
  exact hf a b h.1 S hJS h.2

/-- A computation that gives up no cells, before another one. -/
theorem skip {x : Exec α} {y : Exec β} {f : α → Exec α'} {g : β → Exec β'}
    (hx : Lockstep c ∅ V x y) (hf : ∀ a b, V a b → Lockstep c J W (f a) (g b)) :
    Lockstep c J W (x >>= f) (y >>= g) := by
  have h := hx.bind hf (Finset.disjoint_empty_left J)
  rwa [Finset.empty_union] at h

/-- A computation that gives up no cells, after another one. -/
theorem andThen {x : Exec α} {y : Exec β} {f : α → Exec α'} {g : β → Exec β'}
    (hx : Lockstep c I V x y) (hf : ∀ a b, V a b → Lockstep c ∅ W (f a) (g b)) :
    Lockstep c I W (x >>= f) (y >>= g) := by
  have h := hx.bind hf (Finset.disjoint_empty_right I)
  rwa [Finset.union_empty] at h

theorem mono {V' : α → β → Prop} {x : Exec α} {y : Exec β} (h : Lockstep c I V x y)
    (hV : ∀ a b, V a b → V' a b) : Lockstep c I V' x y :=
  fun S hS _ _ hmn => (h S hS hmn).mono (fun _ _ h => h) fun a b _ _ h => ⟨hV a b h.1, h.2⟩

/-- More cells may be given up. -/
theorem subset {x : Exec α} {y : Exec β} (h : Lockstep c I V x y) (hIJ : I ⊆ J) :
    Lockstep c J V x y := by
  intro S hS m n hmn
  exact h S (Finset.disjoint_of_subset_left hIJ hS) (hmn.mono (Finset.union_subset_union_left hIJ))

theorem pure {a : α} {b : β} (h : V a b) : Lockstep c ∅ V (Pure.pure a) (Pure.pure b) :=
  fun _ _ _ _ hmn => .ok ⟨h, hmn.mono Finset.subset_union_right⟩

theorem map {x : Exec α} {y : Exec β} {f : α → α'} {g : β → β'} (h : Lockstep c I V x y)
    (hf : ∀ a b, V a b → W (f a) (g b)) :
    Lockstep c I W (x >>= fun a => Pure.pure (f a)) (y >>= fun b => Pure.pure (g b)) :=
  h.andThen fun a b hab => .pure (hf a b hab)

theorem fail (e : Fault) : Lockstep c ∅ V (Exec.fail e) (Exec.fail e) :=
  fun _ _ _ _ hmn => .error (hmn.mono (Finset.empty_subset _))

theorem ofExcept (x : Except Fault α) : Lockstep c ∅ Eq (Exec.ofExcept x) (Exec.ofExcept x) := by
  intro S _ m n hmn
  cases x with
  | ok a => exact .ok ⟨rfl, hmn.mono Finset.subset_union_right⟩
  | error e => exact .error (hmn.mono (Finset.empty_subset _))

theorem read {f : Machine → α} {g : Machine → β}
    (h : ∀ m n, InStep c ∅ m n → V (f m) (g n)) :
    Lockstep c ∅ V (Exec.read f) (Exec.read g) :=
  fun _ _ m n hmn => .ok ⟨h m n (hmn.mono (Finset.empty_subset _)),
    hmn.mono Finset.subset_union_right⟩

/-! ### Observations -/

/-- What goes on as the observed kind of values says, while the machines agree on it. -/
theorem siteValue {i : Nat} (hi : .value i ∈ I) {f : Site → Exec α} {g : Site → Exec β}
    (h : ∀ s s' : Site, s.value = s'.value → Lockstep c I V (f s) (g s')) :
    Lockstep c I V (Exec.site i >>= f) (Exec.site i >>= g) :=
  fun S hS _ _ hmn => h _ _ (hmn.twins.value i (Finset.mem_union_left S hi)) S hS hmn

/-- The same for the observed kind of indices. -/
theorem siteIndex {i : Nat} (hi : .index i ∈ I) {f : Site → Exec α} {g : Site → Exec β}
    (h : ∀ s s' : Site, s.index = s'.index → Lockstep c I V (f s) (g s')) :
    Lockstep c I V (Exec.site i >>= f) (Exec.site i >>= g) :=
  fun S hS _ _ hmn => h _ _ (hmn.twins.index i (Finset.mem_union_left S hi)) S hS hmn

/-- Both machines learn something at one site. Each of the two kinds observed there is given up, or
stays the same. -/
theorem learn {i : Nat} (f g : Site → Site) (e e' : Machine → Nat)
    (hvalue : .value i ∈ I ∨ ∀ s s' : Site, s.value = s'.value → (f s).value = (g s').value)
    (hindex : .index i ∈ I ∨ ∀ s s' : Site, s.index = s'.index → (f s).index = (g s').index) :
    Lockstep c I (fun _ _ => True)
      (Exec.modify fun m =>
        { m with profile := m.profile.set i (f (m.profile.get i)), epoch := e m })
      (Exec.modify fun m =>
        { m with profile := m.profile.set i (g (m.profile.get i)), epoch := e' m }) := by
  intro S hS m n hmn
  rw [Finset.disjoint_left] at hS
  refine .ok ⟨trivial, hmn.learn ⟨rfl, rfl, rfl⟩ ⟨rfl, rfl, rfl⟩ ?_ ?_⟩
  · intro j hj
    have hkind := hmn.twins.value j (Finset.mem_union_right I hj)
    simp only [Profile.get_set]
    split
    · rename_i heq
      subst heq
      exact hvalue.resolve_left (fun hi => hS hi hj) _ _ hkind
    · exact hkind
  · intro j hj
    have hkind := hmn.twins.index j (Finset.mem_union_right I hj)
    simp only [Profile.get_set]
    split
    · rename_i heq
      subst heq
      exact hindex.resolve_left (fun hi => hS hi hj) _ _ hkind
    · exact hkind

theorem widenValue (i : Nat) (k k' : Kind) :
    Lockstep c {.value i} (fun _ _ => True) (Exec.widenValue i k) (Exec.widenValue i k') :=
  learn (fun s => { s with value := s.value.widen k })
    (fun s => { s with value := s.value.widen k' })
    _ _ (.inl (Finset.mem_singleton_self _)) (.inr fun _ _ h => h)

theorem widenIndex (i : Nat) (k k' : Kind) :
    Lockstep c {.index i} (fun _ _ => True) (Exec.widenIndex i k) (Exec.widenIndex i k') :=
  learn (fun s => { s with index := s.index.widen k })
    (fun s => { s with index := s.index.widen k' })
    _ _ (.inr fun _ _ h => h) (.inl (Finset.mem_singleton_self _))

theorem publishTargetCheck (i : Nat) :
    Lockstep c ∅ (fun _ _ => True) (Exec.publishTargetCheck i) (Exec.publishTargetCheck i) :=
  learn (fun s => { s with targetCheck := s.targetCheck.publish () })
    (fun s => { s with targetCheck := s.targetCheck.publish () }) _ _ (.inr fun _ _ h => h)
    (.inr fun _ _ h => h)

theorem kinds_publishConversion (m : Machine) (i j : Nat) (v : Value) :
    ((Exec.publishConversion i v m).2.profile.get j).value = (m.profile.get j).value ∧
      ((Exec.publishConversion i v m).2.profile.get j).index = (m.profile.get j).index := by
  simp only [Exec.publishConversion, modify_apply, Profile.get_set]
  split
  · rename_i heq
    rw [heq]
    exact ⟨rfl, rfl⟩
  · exact ⟨rfl, rfl⟩

/-- What an index conversion has met makes no difference, so it may be shown an index in one run
only. -/
theorem publishLeft {x : Exec α} {y : Exec β} (h : Lockstep c I V x y) (i : Nat) (v : Value) :
    Lockstep c I V (Exec.publishConversion i v >>= fun _ => x) y := by
  intro S hS m n hmn
  refine h S hS (hmn.learn ⟨rfl, rfl, rfl⟩ ⟨rfl, rfl, rfl⟩ (fun j hj => ?_) fun j hj => ?_)
  · exact (kinds_publishConversion m i j v).1.trans (hmn.twins.value j hj)
  · exact (kinds_publishConversion m i j v).2.trans (hmn.twins.index j hj)

theorem publishRight {x : Exec α} {y : Exec β} (h : Lockstep c I V x y) (i : Nat) (v : Value) :
    Lockstep c I V x (Exec.publishConversion i v >>= fun _ => y) := by
  intro S hS m n hmn
  refine h S hS (hmn.learn ⟨rfl, rfl, rfl⟩ ⟨rfl, rfl, rfl⟩ (fun j hj => ?_) fun j hj => ?_)
  · exact (hmn.twins.value j hj).trans (kinds_publishConversion n i j v).1.symm
  · exact (hmn.twins.index j hj).trans (kinds_publishConversion n i j v).2.symm

end Lockstep

end

/-! ## Results in step -/

/-- How results are compared that stand for values: by the index, where only that will be used, and
else they are the same and within reach. -/
def AgreeAs {α : Type} (c : Scope) (asIndex : Bool) (value : α → Value) (a b : α) : Prop :=
  if asIndex then SameIndex (value a) (value b) else a = b ∧ c.Inside (value a)

theorem AgreeAs.of_eq {α : Type} {c : Scope} {value : α → Value} {a b : α}
    (h : AgreeAs c false value a b) (asIndex : Bool) : AgreeAs c asIndex value a b := by
  obtain ⟨rfl, ha⟩ := h
  cases asIndex with
  | false => exact ⟨rfl, ha⟩
  | true => exact rfl

/-- Results may be given in another form that stands for the same value. -/
theorem AgreeAs.map {α β : Type} {c : Scope} {asIndex : Bool} {value : α → Value}
    {value' : β → Value} {a b : α} (h : AgreeAs c asIndex value a b) (f : α → β)
    (hf : ∀ a, value' (f a) = value a) : AgreeAs c asIndex value' (f a) (f b) := by
  cases asIndex with
  | false =>
    obtain ⟨rfl, ha⟩ := h
    exact ⟨rfl, by rwa [hf]⟩
  | true =>
    show SameIndex _ _
    rw [hf, hf]
    exact h

theorem AgreeAs.sameIndex {α : Type} {c : Scope} {asIndex : Bool} {value : α → Value} {a b : α}
    (h : AgreeAs c asIndex value a b) : SameIndex (value a) (value b) := by
  cases asIndex with
  | false =>
    obtain ⟨rfl, -⟩ := h
    exact rfl
  | true => exact h

namespace Lockstep

variable {c : Scope} {t u v w : Value}

theorem setLocal {slot : Nat} (hslot : slot ∈ c.assigned) (hv : c.Inside v)
    (hform : SameIndex v w) (hvw : slot ∉ c.kept → v = w) :
    Lockstep c ∅ (fun _ _ => True) (Exec.setLocal slot v) (Exec.setLocal slot w) :=
  fun _ _ _ _ hmn =>
    .ok ⟨trivial, (hmn.mono Finset.subset_union_right).setLocal hslot hv hform hvw⟩

theorem key (h : SameIndex v w) : Lockstep c ∅ Eq (Exec.key v) (Exec.key w) :=
  .read fun _ _ hmn => Heap.key_congr (congrArg Heap.canon hmn.twins.heap) h

theorem display (v : Value) :
    Lockstep c ∅ Eq (Exec.read fun m => m.heap.display v) (Exec.read fun m => m.heap.display v) :=
  .read fun _ _ hmn => by rw [hmn.twins.heap]

theorem apply (op : Op) (v w : Value) :
    Lockstep c ∅ (AgreeAs c false id) (Binary.apply op v w) (Binary.apply op v w) :=
  .read fun _ _ hmn => ⟨by rw [hmn.twins.heap], .of_plain (op.isPlain_apply _ v w)⟩

/-- An element of an object within reach is within reach, and other values have plain ones only. -/
theorem runRead (ht : c.Inside t) (k : Key) :
    Lockstep c ∅ (AgreeAs c false id) (Element.runRead t k) (Element.runRead t k) := by
  intro S _ m n hmn
  have hmono : InStep c S m n := hmn.mono Finset.subset_union_right
  have hread : Element.runRead t k n = (Element.read m.heap t k, n) := by
    rw [Element.runRead, hmn.twins.heap]
  rw [hread]
  unfold Element.runRead
  cases t with
  | object id =>
    refine .ok ⟨⟨rfl, ?_⟩, hmono⟩
    rcases Object.get_cases (m.heap.get id) k with hheld | hplain
    · exact hmn.inside.held id (ht id rfl) _ hheld
    · exact .of_plain hplain
  | undefined | null => exact .error (hmn.mono (Finset.empty_subset _))
  | string s => exact .ok ⟨⟨rfl, .of_plain (Element.isPlain_ofString s k)⟩, hmono⟩
  | pattern p => exact .ok ⟨⟨rfl, .of_plain (Element.isPlain_ofPattern p.value k)⟩, hmono⟩
  | listFormat f => exact .ok ⟨⟨rfl, .of_plain (Element.isPlain_ofListFormat f.value k)⟩, hmono⟩
  | bool | int | double => exact .ok ⟨⟨rfl, .of_plain rfl⟩, hmono⟩

theorem runStore (flags : StoreFlags) (ht : c.Inside t) (k : Key) (hv : c.Inside v) :
    Lockstep c ∅ (AgreeAs c false id) (Element.runStore flags t k v)
      (Element.runStore flags t k v) := by
  intro S _ m n hmn
  unfold Element.runStore
  rw [← hmn.twins.heap]
  cases hstore : Element.store flags m.heap t k v with
  | error e => exact .error (hmn.mono (Finset.empty_subset _))
  | ok h =>
    have hmono : InStep c S m n := hmn.mono Finset.subset_union_right
    exact .ok ⟨⟨rfl, hv⟩, { hmono.twins with heap := rfl }, hmn.inside.store ht hv hstore⟩

theorem getLocal {asIndex : Bool} {slot : Nat} (h : asIndex = true ∨ slot ∉ c.kept) :
    Lockstep c ∅ (AgreeAs c asIndex id) (Exec.getLocal slot) (Exec.getLocal slot) := by
  refine .read fun m n hmn => ?_
  cases asIndex with
  | true => exact hmn.twins.form slot
  | false => exact ⟨hmn.twins.slot slot (h.resolve_left nofun), hmn.inside.known slot⟩

theorem patternOf (v : Value) :
    Lockstep c ∅ Eq (Match.patternOf v) (Match.patternOf v) := by
  unfold Match.patternOf
  split
  · exact .pure rfl
  · exact (display v).skip fun a b hab => hab ▸ .fail _

/-- The array that a match gives is new and holds plain values. -/
theorem allocate {o : Object} (ho : ∀ v, o.Holds v → v.isPlain = true) :
    Lockstep c ∅ (AgreeAs c false id) (Match.allocate o) (Match.allocate o) := by
  intro S _ m n hmn
  have hmono : InStep c S m n := hmn.mono Finset.subset_union_right
  obtain ⟨hlocal, hinside⟩ := hmn.inside.allocObject (o := o) fun v hv => .of_plain (ho v hv)
  have hrun : Match.allocate o n =
      (.ok (.object m.heap.objects.size), { n with heap := (m.heap.alloc o).2 }) := by
    rw [hmn.twins.heap]
    rfl
  rw [hrun]
  exact .ok ⟨⟨rfl, hinside⟩, { hmono.twins with heap := rfl }, hlocal⟩

theorem result (text : String) (found : Pattern.Match) :
    Lockstep c ∅ (fun o o' => o = o' ∧ ∀ v, o.Holds v → v.isPlain = true)
      (Exec.ofExcept (Match.result text found)) (Exec.ofExcept (Match.result text found)) := by
  intro S _ m n hmn
  cases hres : Match.result text found with
  | ok o =>
    exact .ok ⟨⟨rfl, fun _ => Match.isPlain_result hres⟩, hmn.mono Finset.subset_union_right⟩
  | error e => exact .error (hmn.mono (Finset.empty_subset _))

theorem make (d : Locale.Data) (v w : Value) :
    Lockstep c ∅ Eq (fun m => (Locale.ListFormat.make m.heap d v w, m))
      (fun m => (Locale.ListFormat.make m.heap d v w, m)) := by
  intro S hS m n hmn
  show Related _ _ _ (Locale.ListFormat.make n.heap d v w, n)
  rw [← hmn.twins.heap]
  exact ofExcept _ S hS hmn

theorem allocateFormat (f : Locale.ListFormat) :
    Lockstep c ∅ (AgreeAs c false id) (Locale.allocate f) (Locale.allocate f) := by
  intro S _ m n hmn
  have hmono : InStep c S m n := hmn.mono Finset.subset_union_right
  have hrun : Locale.allocate f n =
      (.ok (.listFormat ⟨m.formats, f⟩), { n with formats := m.formats + 1 }) := by
    rw [hmn.twins.formats]
    rfl
  rw [hrun]
  exact .ok ⟨⟨rfl, nofun⟩, { hmono.twins with formats := rfl }, hmono.inside.congr rfl rfl⟩

theorem reporting {α : Type} {I : Finset Cell} {V : α → α → Prop} {x : Exec α}
    (h : Lockstep c I V x x) (about : Meta) (value : α → Value) :
    Lockstep c I V (Exec.reporting about value x) (Exec.reporting about value x) := by
  intro S hS m n hmn
  have hreport : ∀ {T : Finset Cell} {m n : Machine} (t t' : List Event), InStep c T m n →
      InStep c T { m with trace := t } { n with trace := t' } := fun t t' hmn =>
    hmn.learn ⟨rfl, rfl, rfl⟩ ⟨rfl, rfl, rfl⟩ hmn.twins.value hmn.twins.index
  have hx := h S hS (hreport (m.trace ++ [.enter about]) (n.trace ++ [.enter about]) hmn)
  simp only [Exec.reporting]
  generalize x { m with trace := m.trace ++ [.enter about] } = r at hx
  generalize x { n with trace := n.trace ++ [.enter about] } = s at hx
  cases hx with
  | ok hab => exact .ok ⟨hab.1, hreport _ _ hab.2⟩
  | error hm => exact .error (hreport _ _ hm)

/-- Checking a target takes no notice of what is learnt. -/
theorem runCheck (w : Write.Parts) (u : Value) :
    Lockstep c ∅ (fun _ _ => True) (Write.runCheck w u) (Write.runCheck w u) :=
  (publishTargetCheck w.site).skip fun _ _ _ => (ofExcept _).mono fun _ _ _ => trivial

end Lockstep

end AdaptiveTree
