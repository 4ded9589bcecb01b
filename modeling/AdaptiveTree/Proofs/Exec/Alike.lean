import AdaptiveTree.Exec.Run
import AdaptiveTree.Proofs.Canon
import AdaptiveTree.Proofs.Exec.Simulation

/-!
# Machines that are alike

Two machines are `Alike` when programs cannot tell them apart: their heaps and slots are the same up
to the representation of numbers. Two kinds of slots are special. A slot that keeps an index is
compared by the index that it stands for (`indexForm`), because an index is kept as a number or as
a text. A *pinned* slot is not compared at all; instead its value in the first machine is known.

Computations on the machine take alike machines to alike ones (`Alike.setLocal`, `follows_key`,
`follows_runRead`, `follows_runStore` and so on), and what only learns or reports keeps the first
machine alike to the second (`Silent`).
-/

set_option autoImplicit false

namespace AdaptiveTree

open Number

/-! ## Indices -/

namespace Value

/-- What a value stands for as an index: a number stands for its text. -/
def indexForm : Value → Value
  | .int i => .string (intText i.toInt)
  | .double d => .string (Number.text d)
  | v => v

@[simp] theorem indexForm_canon (v : Value) : v.canon.indexForm = v.indexForm := by
  cases v with
  | int i => exact congrArg Value.string (text_ofInt (fitsDouble_toInt i))
  | _ => rfl

theorem indexForm_eq_of_canon_eq {v w : Value} (h : v.canon = w.canon) :
    v.indexForm = w.indexForm := by
  rw [← indexForm_canon, h, indexForm_canon]

end Value

@[simp] theorem Heap.key_indexForm (h : Heap) (v : Value) : h.key v.indexForm = h.key v := by
  rw [Heap.key_eq, Heap.key_eq]
  cases v <;> rfl

theorem Heap.display_congr {h k : Heap} {v w : Value} (hh : h.canon = k.canon)
    (hv : v.canon = w.canon) : h.display v = k.display w := by
  rw [← Heap.display_canon, hh, hv, Heap.display_canon]

/-- Values that stand for the same index address the same key. -/
theorem Heap.key_congr {h k : Heap} {v w : Value} (hh : h.canon = k.canon)
    (hv : v.indexForm = w.indexForm) : h.key v = k.key w := by
  rw [← Heap.key_indexForm, hv, ← Heap.key_canon, hh, Heap.key_canon, Heap.key_indexForm]

/-- The key of an integer that is not negative is kept as the integer. -/
theorem Key.toValue_ofInt {i : Int32} (h : 0 ≤ i.toInt) : (Key.ofInt i).toValue = .int i := by
  have hlt := i.toInt_lt
  have hnat : (UInt32.ofNat i.toInt.toNat).toNat = i.toInt.toNat :=
    UInt32.toNat_ofNat_of_lt' (by show _ < 2 ^ 32; omega)
  have hint : Int32.ofNat i.toInt.toNat = i := by
    rw [← Int32.ofInt_eq_ofNat, Int.toNat_of_nonneg h, Int32.ofInt_toInt]
  rw [Key.ofInt, if_pos h, Key.toValue, hnat, if_pos (by omega), hint]

/-- An integer index and the form in which its key is kept stand for the same index. -/
theorem Key.indexForm_toValue_ofInt (i : Int32) :
    (Key.ofInt i).toValue.indexForm = (Value.int i).indexForm := by
  by_cases h : 0 ≤ i.toInt
  · rw [Key.toValue_ofInt h]
  · rw [Key.ofInt, if_neg h]
    rfl

/-! ## Slots -/

namespace Frame

/-- A slot that is written has the value; the others keep theirs, also when the frame grows. -/
theorem get_set (f : Frame) (slot s : Nat) (v : Value) :
    (f.set slot v).get s = if s = slot then v else f.get s := by
  unfold set get
  split
  · rename_i hlt
    by_cases hs : s = slot
    · subst hs
      simp [hlt]
    · have hne : slot ≠ s := fun h => hs h.symm
      simp [hs, Array.getElem?_setIfInBounds_ne hne]
  · rename_i hge
    have hsize :
        (f.slots ++ Array.replicate (slot - f.slots.size) Value.undefined).size = slot := by
      simp
      omega
    simp only [Array.getD_eq_getD_getElem?, Array.getElem?_push, hsize, Array.getElem?_append,
      Array.getElem?_replicate]
    split
    · rfl
    · split
      · rfl
      · rw [Array.getElem?_eq_none (by omega)]
        split <;> rfl

theorem size_set (f : Frame) (slot : Nat) (v : Value) :
    (f.set slot v).size = max f.size (slot + 1) := by
  unfold set size
  split
  · simp
    omega
  · simp
    omega

end Frame

/-! ## Alike machines -/

/-- Two values of one slot: by the index they stand for if the slot keeps an index, and else up to
the representation of numbers. -/
def SlotAlike (cached : List Nat) (slot : Nat) (v w : Value) : Prop :=
  if slot ∈ cached then v.indexForm = w.indexForm else v.canon = w.canon

theorem SlotAlike.of_canon {cached : List Nat} {slot : Nat} {v w : Value}
    (h : v.canon = w.canon) : SlotAlike cached slot v w := by
  unfold SlotAlike
  split
  · exact Value.indexForm_eq_of_canon_eq h
  · exact h

theorem SlotAlike.symm {cached : List Nat} {slot : Nat} {v w : Value}
    (h : SlotAlike cached slot v w) : SlotAlike cached slot w v := by
  unfold SlotAlike at *
  by_cases hs : slot ∈ cached
  · simp only [if_pos hs] at h ⊢
    exact h.symm
  · simp only [if_neg hs] at h ⊢
    exact h.symm

theorem SlotAlike.trans {cached : List Nat} {slot : Nat} {u v w : Value}
    (h : SlotAlike cached slot u v) (h' : SlotAlike cached slot v w) :
    SlotAlike cached slot u w := by
  unfold SlotAlike at *
  by_cases hs : slot ∈ cached
  · simp only [if_pos hs] at h h' ⊢
    exact h.trans h'
  · simp only [if_neg hs] at h h' ⊢
    exact h.trans h'

theorem SlotAlike.indexForm {cached : List Nat} {slot : Nat} {v w : Value}
    (h : SlotAlike cached slot v w) : v.indexForm = w.indexForm := by
  unfold SlotAlike at h
  split at h
  · exact h
  · exact Value.indexForm_eq_of_canon_eq h

/-- The machines are the same to programs that read the slots `cached` as indices only and do not
mention the pinned slots. -/
structure Alike (cached : List Nat) (pins : Nat → Option Value) (m n : Machine) : Prop where
  heap : m.heap.canon = n.heap.canon
  formats : m.formats = n.formats
  slot : ∀ s, pins s = none → SlotAlike cached s (m.frame.get s) (n.frame.get s)
  pinned : ∀ s v, pins s = some v → SlotAlike cached s (m.frame.get s) v
  size : (∀ s, pins s = none) → m.frame.size = n.frame.size

namespace Alike

variable {cached : List Nat} {pins : Nat → Option Value} {m n : Machine}

/-- A machine is alike to one with the same heap, frame and number of list formats. -/
theorem of_eq (hheap : m.heap = n.heap) (hframe : m.frame = n.frame)
    (hformats : m.formats = n.formats) : Alike cached (fun _ => none) m n where
  heap := by rw [hheap]
  formats := hformats
  slot s _ := by
    rw [hframe]
    exact .of_canon rfl
  pinned _ _ h := by cases h
  size _ := by rw [hframe]

theorem symm (h : Alike cached (fun _ => none) m n) : Alike cached (fun _ => none) n m where
  heap := h.heap.symm
  formats := h.formats.symm
  slot s hs := (h.slot s hs).symm
  pinned _ _ h := by cases h
  size hall := (h.size hall).symm

theorem trans {p : Machine} (h : Alike cached (fun _ => none) m n) (h' : Alike cached pins n p) :
    Alike cached pins m p where
  heap := h.heap.trans h'.heap
  formats := h.formats.trans h'.formats
  slot s hs := (h.slot s rfl).trans (h'.slot s hs)
  pinned s v hs := (h.slot s rfl).trans (h'.pinned s v hs)
  size hall := (h.size fun _ => rfl).trans (h'.size hall)

/-- Writing a slot that is not pinned. -/
theorem setLocal (h : Alike cached pins m n) {slot : Nat} (hpin : pins slot = none) {v w : Value}
    (hvw : SlotAlike cached slot v w) :
    Alike cached pins { m with frame := m.frame.set slot v } { n with frame := n.frame.set slot w }
    where
  heap := h.heap
  formats := h.formats
  slot s hs := by
    simp only [Frame.get_set]
    split
    · rename_i heq
      exact heq ▸ hvw
    · exact h.slot s hs
  pinned s u hs := by
    have hne : s ≠ slot := by
      rintro rfl
      rw [hpin] at hs
      cases hs
    simpa [Frame.get_set, hne] using h.pinned s u hs
  size hall := by rw [Frame.size_set, Frame.size_set, h.size hall]

end Alike

/-! ## Computations on alike machines -/

open Exec

/-- The two values are the same up to the representation of numbers. -/
def SameValue (v w : Value) : Prop :=
  v.canon = w.canon

/-- The two values stand for the same index. -/
def SameIndex (v w : Value) : Prop :=
  v.indexForm = w.indexForm

theorem SameValue.sameIndex {v w : Value} (h : SameValue v w) : SameIndex v w :=
  Value.indexForm_eq_of_canon_eq h

section

variable {α β γ : Type} {cached : List Nat} {pins : Nat → Option Value} {V : α → β → Prop}

/-- The computation gives a result and leaves heap, frame and list formats alone. -/
def Silent (x : Exec γ) : Prop :=
  ∀ m, ∃ c m', x m = (.ok c, m') ∧ m'.heap = m.heap ∧ m'.frame = m.frame ∧ m'.formats = m.formats

theorem silent_read (f : Machine → γ) : Silent (Exec.read f) :=
  fun m => ⟨f m, m, rfl, rfl, rfl, rfl⟩

theorem silent_modify {f : Machine → Machine}
    (h : ∀ m, (f m).heap = m.heap ∧ (f m).frame = m.frame ∧ (f m).formats = m.formats) :
    Silent (Exec.modify f) :=
  fun m => ⟨(), f m, rfl, h m⟩

theorem silent_site (site : Nat) : Silent (Exec.site site) :=
  silent_read _

theorem silent_widenValue (site : Nat) (k : Kind) : Silent (Exec.widenValue site k) :=
  silent_modify fun _ => ⟨rfl, rfl, rfl⟩

theorem silent_widenIndex (site : Nat) (k : Kind) : Silent (Exec.widenIndex site k) :=
  silent_modify fun _ => ⟨rfl, rfl, rfl⟩

theorem silent_publishTargetCheck (site : Nat) : Silent (Exec.publishTargetCheck site) :=
  silent_modify fun _ => ⟨rfl, rfl, rfl⟩

theorem silent_publishConversion (site : Nat) (v : Value) :
    Silent (Exec.publishConversion site v) :=
  silent_modify fun _ => ⟨rfl, rfl, rfl⟩

theorem Alike.congr_left {m m' n : Machine} (h : Alike cached pins m n) (hheap : m'.heap = m.heap)
    (hframe : m'.frame = m.frame) (hformats : m'.formats = m.formats) : Alike cached pins m' n :=
  ⟨hheap ▸ h.heap, hformats ▸ h.formats, hframe ▸ h.slot, hframe ▸ h.pinned, hframe ▸ h.size⟩

/-- What only the first computation does, and is silent, does not matter. -/
theorem Silent.skip {x : Exec γ} (hx : Silent x) {f : γ → Exec α} {y : Exec β}
    (hf : ∀ c, Follows (Alike cached pins) V (f c) y) :
    Follows (Alike cached pins) V (x >>= f) y := by
  refine Sim.step (fun m n hr => ?_) hf
  obtain ⟨c, m', hrun, hheap, hframe, hformats⟩ := hx m
  exact ⟨c, m', hrun, hr.congr_left hheap hframe hformats⟩

/-- The computation gives `c` and is silent. -/
def Quiet (c : γ) (x : Exec γ) : Prop :=
  ∀ m, ∃ m', x m = (.ok c, m') ∧ m'.heap = m.heap ∧ m'.frame = m.frame ∧ m'.formats = m.formats

theorem Silent.quiet {δ : Type} {x : Exec γ} (hx : Silent x) (d : δ) :
    Quiet d (x >>= fun _ => pure d) := by
  intro m
  obtain ⟨c, m', hrun, hsame⟩ := hx m
  exact ⟨m', bind_ok hrun, hsame⟩

/-- What the first computation does afterwards, and is quiet, only changes its result. -/
theorem Exec.Follows.after {x : Exec α} {y : Exec β} (h : Follows (Alike cached pins) V x y)
    {f : α → Exec γ} {U : γ → β → Prop} (hf : ∀ a b, V a b → ∃ c, Quiet c (f a) ∧ U c b) :
    Follows (Alike cached pins) U (x >>= f) y := by
  intro m n hr
  have hxy := h hr
  rw [bind_apply]
  generalize x m = r at hxy
  generalize y n = s at hxy
  cases hxy with
  | @ok a b m' n' hab =>
    obtain ⟨c, hquiet, hc⟩ := hf a b hab.1
    obtain ⟨m'', hrun, hheap, hframe, hformats⟩ := hquiet m'
    simp only [hrun]
    exact .ok ⟨hc, hab.2.congr_left hheap hframe hformats⟩
  | error hm => exact .error hm

/-- Reports of the first computation do not matter. -/
theorem follows_reporting {x : Exec α} {y : Exec β} (h : Follows (Alike cached pins) V x y)
    (about : Meta) (value : α → Value) :
    Follows (Alike cached pins) V (reporting about value x) y := by
  intro m n hr
  have hstart : Alike cached pins { m with trace := m.trace ++ [.enter about] } n :=
    hr.congr_left rfl rfl rfl
  have hxy := h hstart
  simp only [reporting]
  generalize x { m with trace := m.trace ++ [.enter about] } = r at hxy
  generalize y n = s at hxy
  cases hxy with
  | ok hab => exact .ok ⟨hab.1, hab.2.congr_left rfl rfl rfl⟩
  | error hm => exact .error (hm.congr_left rfl rfl rfl)

/-- A result that was computed before, against one that is read off the machine. -/
theorem follows_pure_read {a : α} {f : Machine → β}
    (h : ∀ m n, Alike cached pins m n → V a (f n)) :
    Follows (Alike cached pins) V (pure a) (Exec.read f) :=
  fun m n hr => .ok ⟨h m n hr, hr⟩

theorem follows_read {f : Machine → α} {g : Machine → β}
    (h : ∀ m n, Alike cached pins m n → V (f m) (g n)) :
    Follows (Alike cached pins) V (Exec.read f) (Exec.read g) :=
  fun m n hr => .ok ⟨h m n hr, hr⟩

theorem follows_ofExcept (x : Except Fault α) :
    Follows (Alike cached pins) Eq (Exec.ofExcept x) (Exec.ofExcept x) := by
  intro m n hr
  cases x with
  | ok a => exact .ok ⟨rfl, hr⟩
  | error e => exact .error hr

end

section

variable {cached : List Nat} {pins : Nat → Option Value} {t u v w l r l' r' : Value}

theorem follows_getLocal {slot : Nat} (hpin : pins slot = none) :
    Follows (Alike cached pins) (SlotAlike cached slot) (Exec.getLocal slot)
      (Exec.getLocal slot) :=
  follows_read fun _ _ hr => hr.slot slot hpin

theorem follows_setLocal {slot : Nat} (hpin : pins slot = none) (h : SlotAlike cached slot v w) :
    Follows (Alike cached pins) Eq (Exec.setLocal slot v) (Exec.setLocal slot w) :=
  fun _ _ hr => .ok ⟨rfl, hr.setLocal hpin h⟩

theorem follows_key (h : SameIndex v w) :
    Follows (Alike cached pins) Eq (Exec.key v) (Exec.key w) :=
  follows_read fun _ _ hr => Heap.key_congr hr.heap h

theorem follows_display (h : SameValue v w) :
    Follows (Alike cached pins) Eq (Exec.read fun m => m.heap.display v)
      (Exec.read fun m => m.heap.display w) :=
  follows_read fun _ _ hr => Heap.display_congr hr.heap h

namespace Op

theorem apply_int_of_some {op : Op} {a b i : Int32} (hi : op.applyInt a b = some i) (h : Heap) :
    op.apply h (.int a) (.int b) = .int i := by
  simp only [apply, hi]

theorem apply_int_of_none {op : Op} {a b : Int32} (hi : op.applyInt a b = none) (h : Heap) :
    op.apply h (.int a) (.int b) = Binary.intMiss op a b := by
  simp [apply, hi, applyWide, joins, Value.toNumber, Binary.intMiss]

theorem apply_double (op : Op) (a b : Float) (h : Heap) :
    op.apply h (.double a) (.double b) = Value.number (op.applyDouble a b) := by
  simp [apply, applyWide, joins, Value.toNumber]

end Op

/-- The result of an operator depends on canonical forms only. -/
theorem Op.apply_congr (op : Op) {h k : Heap} (hh : h.canon = k.canon) (hl : SameValue l l')
    (hr : SameValue r r') : SameValue (op.apply h l r) (op.apply k l' r') := by
  unfold SameValue at *
  rw [← Op.apply_canon, hh, hl, hr, Op.apply_canon]

theorem follows_apply (op : Op) (hl : SameValue l l') (hr : SameValue r r') :
    Follows (Alike cached pins) SameValue (Binary.apply op l r) (Binary.apply op l' r') :=
  follows_read fun _ _ h => op.apply_congr h.heap hl hr

theorem follows_runRead (h : SameValue t u) (k : Key) :
    Follows (Alike cached pins) SameValue (Element.runRead t k) (Element.runRead u k) := by
  intro m n hr
  have hread : (Element.read m.heap t k).map Value.canon =
      (Element.read n.heap u k).map Value.canon := by
    rw [← Element.read_canon, hr.heap, show t.canon = u.canon from h, Element.read_canon]
  simp only [Element.runRead]
  cases hm : Element.read m.heap t k <;> cases hn : Element.read n.heap u k <;>
    rw [hm, hn] at hread
  · cases hread
    exact .error hr
  · cases hread
  · cases hread
  · exact .ok ⟨Except.ok.inj hread, hr⟩

/-- A store that is made gives the value itself. -/
theorem follows_store (flags : StoreFlags) (h : SameValue t u) (k : Key) (hv : SameValue v w) :
    Follows (Alike cached pins) (fun a b => a = v ∧ b = w) (Element.runStore flags t k v)
      (Element.runStore flags u k w) := by
  intro m n hr
  have hstore : (Element.store flags m.heap t k v).map Heap.canon =
      (Element.store flags n.heap u k w).map Heap.canon := by
    rw [Element.store_canon, Element.store_canon, hr.heap, show t.canon = u.canon from h,
      show v.canon = w.canon from hv]
  simp only [Element.runStore]
  cases hm : Element.store flags m.heap t k v <;> cases hn : Element.store flags n.heap u k w <;>
    rw [hm, hn] at hstore
  · cases hstore
    exact .error hr
  · cases hstore
  · cases hstore
  · exact .ok ⟨⟨rfl, rfl⟩, Except.ok.inj hstore, hr.formats, hr.slot, hr.pinned, hr.size⟩

theorem follows_runStore (flags : StoreFlags) (h : SameValue t u) (k : Key) (hv : SameValue v w) :
    Follows (Alike cached pins) SameValue (Element.runStore flags t k v)
      (Element.runStore flags u k w) := by
  refine (follows_store flags h k hv).mono ?_
  rintro _ _ ⟨rfl, rfl⟩
  exact hv

theorem follows_allocate (o : Object) :
    Follows (Alike cached pins) SameValue (Match.allocate o) (Match.allocate o) := by
  intro m n hr
  have hsize : m.heap.objects.size = n.heap.objects.size := by
    rw [← Heap.size_canon, hr.heap, Heap.size_canon]
  refine .ok ⟨?_, ?_, hr.formats, hr.slot, hr.pinned, hr.size⟩
  · show (Value.object m.heap.objects.size).canon = (Value.object n.heap.objects.size).canon
    rw [hsize]
  · show (m.heap.alloc o).2.canon = (n.heap.alloc o).2.canon
    rw [Heap.canon_alloc, Heap.canon_alloc, hr.heap]

theorem follows_make (d : Locale.Data) (hl : SameValue l l') (hr : SameValue r r') :
    Follows (Alike cached pins) Eq
      (fun m => (Locale.ListFormat.make m.heap d l r, m))
      (fun m => (Locale.ListFormat.make m.heap d l' r', m)) := by
  intro m n h
  have hmake : Locale.ListFormat.make m.heap d l r = Locale.ListFormat.make n.heap d l' r' := by
    rw [← Locale.make_canon, h.heap, show l.canon = l'.canon from hl,
      show r.canon = r'.canon from hr, Locale.make_canon]
  simp only [hmake]
  cases Locale.ListFormat.make n.heap d l' r' with
  | ok f => exact .ok ⟨rfl, h⟩
  | error e => exact .error h

theorem follows_allocateFormat (f : Locale.ListFormat) :
    Follows (Alike cached pins) SameValue (Locale.allocate f) (Locale.allocate f) := by
  intro m n hr
  refine .ok ⟨?_, hr.heap, congrArg (· + 1) hr.formats, hr.slot, hr.pinned, hr.size⟩
  show (Value.listFormat ⟨m.formats, f⟩).canon = (Value.listFormat ⟨n.formats, f⟩).canon
  rw [hr.formats]

end

end AdaptiveTree
