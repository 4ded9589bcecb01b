import AdaptiveTree.Proofs.Object.Map

/-!
# Index arithmetic

A store at an index counts in 32 bits, where a sum or a size that does not fit wraps around, and it
writes at a place of the vector without asking whether the place is there. `putIndex?` is the same
store with each of these steps checked: it gives nothing as soon as a number does not fit, a
difference is below zero, or a place is not the one that is meant. On an object that operations lead
to, all checks pass at every index that a value addresses (`index_arithmetic_exact`). What they need
is that the object is `Bounded`, which every operation preserves.
-/

set_option autoImplicit false

namespace AdaptiveTree

open Key (indexText maxIndex)

/-! ## Checked steps -/

namespace Checked

/-- A number in 32 bits, if it fits. -/
def word? (n : Nat) : Option UInt32 :=
  if n < 4294967296 then some (UInt32.ofNat n) else none

/-- A difference, if it is not below zero. -/
def sub? (a b : UInt32) : Option UInt32 :=
  if b ≤ a then some (a - b) else none

variable {α : Type}

/-- The vector with the entry at a place replaced, if there is the place. -/
def set? (es : Array α) (i : Nat) (e : α) : Option (Array α) :=
  if i < es.size then some (es.setIfInBounds i e) else none

/-- The vector with an entry added, if that comes to stand at the given place. -/
def push? (es : Array α) (i : Nat) (e : α) : Option (Array α) :=
  if es.size = i then some (es.push e) else none

/-- The vector in another size: cut off, or filled up. -/
def resize (es : Array α) (size : Nat) (fill : α) : Array α :=
  (es ++ Array.replicate (size - es.size) fill).take size

theorem word?_eq {n : Nat} (h : n < 4294967296) : word? n = some (UInt32.ofNat n) :=
  if_pos h

/-- The entry after a vector that was filled up stands where it was to stand. -/
theorem push?_resize {es : Array α} {i : Nat} (h : es.size ≤ i) (fill e : α) :
    push? (resize es i fill) i e = some ((es ++ Array.replicate (i - es.size) fill).push e) := by
  have hsize : (es ++ Array.replicate (i - es.size) fill).size = i := by
    simp only [Array.size_append, Array.size_replicate]
    omega
  have hresize : resize es i fill = es ++ Array.replicate (i - es.size) fill := by
    rw [resize, Array.take_eq_extract]
    exact Array.extract_eq_self_of_le (Nat.le_of_eq hsize)
  rw [push?, hresize, if_pos hsize]

end Checked

/-! ## Checked stores -/

namespace Object

open Checked

/-- The vector and the table after a store at an index, with the place in the vector and the
distance from its end checked. -/
def storeAt? (o : Object) (size i : UInt32) (v : Value) : Option Object :=
  if i < size then
    (set? o.elements i.toNat (some v)).map fun es => { o with elements := es }
  else
    (sub? i size).bind fun gap =>
      if gap ≤ maxGap then
        (push? (resize o.elements i.toNat none) i.toNat (some v)).map fun es =>
          { o with elements := es }
      else some { o with properties := o.properties.insert (indexText i) v }

/-- Stores a value at an index, with every step checked. -/
def putIndex? (o : Object) (i : UInt32) (v : Value) : Option Object :=
  (word? o.elements.size).bind fun size =>
    (word? (i.toNat + 1)).bind fun next =>
      (storeAt? o size i v).map fun stored =>
        if o.kind = .array then { stored with length := max o.length next } else stored

variable {o : Object}

theorem storeAt?_eq (hsize : o.elements.size ≤ maxIndex + 1) (i : UInt32) (v : Value) :
    o.storeAt? (UInt32.ofNat o.elements.size) i v =
      some (if i < UInt32.ofNat o.elements.size then
          { o with elements := o.elements.setIfInBounds i.toNat (some v) }
        else if i - UInt32.ofNat o.elements.size ≤ maxGap then
          { o with
            elements :=
              (o.elements ++ Array.replicate (i.toNat - o.elements.size) none).push (some v) }
        else { o with properties := o.properties.insert (indexText i) v }) := by
  have hlt := lt_ofNat_size hsize i
  unfold storeAt?
  by_cases hi : i < UInt32.ofNat o.elements.size
  · rw [if_pos hi, if_pos hi, set?, if_pos (hlt.1 hi)]
    rfl
  · have hge : o.elements.size ≤ i.toNat := Nat.le_of_not_lt fun h => hi (hlt.2 h)
    have hsub : sub? i (UInt32.ofNat o.elements.size) =
        some (i - UInt32.ofNat o.elements.size) :=
      if_pos (UInt32.not_lt.1 hi)
    rw [if_neg hi, if_neg hi, hsub, Option.bind_some, push?_resize hge]
    split <;> rfl

/-- All checks pass when the vector is not longer than there are indices. -/
theorem putIndex?_eq (hsize : o.elements.size ≤ maxIndex + 1) {i : UInt32}
    (hi : i.toNat ≤ maxIndex) (v : Value) : o.putIndex? i v = some (o.putIndex i v) := by
  have hword : word? o.elements.size = some (UInt32.ofNat o.elements.size) :=
    word?_eq (Nat.lt_of_le_of_lt hsize (by decide))
  have hfits : i.toNat + 1 < 4294967296 := Nat.lt_of_le_of_lt (Nat.succ_le_succ hi) (by decide)
  have hnext : word? (i.toNat + 1) = some (i + 1) := by
    rw [word?_eq hfits, Option.some.injEq]
    apply UInt32.toNat_inj.1
    rw [toNat_succ hi, UInt32.toNat_ofNat_of_lt' hfits]
  rw [putIndex?, hword, Option.bind_some, hnext, Option.bind_some, storeAt?_eq hsize,
    Option.map_some]
  rfl

/-! ## All operations -/

/-- The length of an array covers its vector, and fits 32 bits. -/
def LengthCovers (o : Object) : Prop :=
  o.kind = .array → o.elements.size ≤ o.length.toNat ∧ o.length.toNat ≤ 4294967295

theorem Bounded.lengthCovers (h : o.Bounded) : o.LengthCovers := by
  intro ha
  have hlt := o.length.toNat_lt
  exact ⟨h.dense ha, by omega⟩

/-- What a store at an index does to an object. -/
theorem step_put_index (o : Object) {h : Heap} {w : Value} {i : UInt32} (hk : h.key w = .index i)
    (v : Value) (flags : StoreFlags) :
    (operations.step o (.put h w v flags)).2 =
      if o.rejection? (.index i) = none then
        { o.putIndex i v with stores := o.stores + 1 }
      else o := by
  have hstores := (putIndex_frame o i v).2.2.2.1
  have hlength : o.isLengthKey (.index i) = false := by simp [isLengthKey]
  simp only [Operations.step, operations, store, hk, hlength, Bool.false_and]
  cases o.rejection? (.index i) with
  | none => simp [commit]
  | some why => cases flags.fails <;> rfl

/-- After any operations on a new object, and after one more, the length of an array covers its
vector and fits 32 bits. A store to an index passes all checks of its arithmetic: the size of the
vector and the number after the index fit 32 bits, the distance of the index from the end of the
vector is not below zero, and the place that is written is there. If the store is not refused, the
object is then what the checked store gives, with one more store counted. The length that is stored
to an array is the number that the value stands for. -/
theorem index_arithmetic_exact (start : Start) (ops : List Operation) :
    let o := (operations.run start.object ops).2
    o.LengthCovers ∧ (∀ op, (operations.step o op).2.LengthCovers) ∧
      (∀ (h : Heap) (w v : Value) (flags : StoreFlags) (i : UInt32), h.key w = .index i →
        ∃ o', o.putIndex? i v = some o' ∧
          (operations.step o (.put h w v flags)).2 =
            if o.rejection? (.index i) = none then { o' with stores := o.stores + 1 } else o) ∧
      ∀ (v : Value) (n : UInt32),
        arrayLength? v = some n ↔ Number.integer? v.toNumber = some (n.toNat : Int) := by
  have href := ((Refines.start start).run ops).2
  refine ⟨href.bounded.lengthCovers, fun op => (href.step op).2.bounded.lengthCovers, ?_,
    fun v n => arrayLength?_eq_some_iff⟩
  intro h w v flags i hk
  have hi : i.toNat ≤ maxIndex := Key.proper_index.1 (hk ▸ h.key_proper w)
  exact ⟨_, putIndex?_eq href.bounded.size hi v, step_put_index _ hk v flags⟩

/-- The greatest index, in an array with a hole: it is far past the end of the vector, which stays
as it is, and the length becomes the greatest one. -/
theorem index_arithmetic_exact_greatest :
    let o := (operations.run (Start.array [.null] (by decide)).object
      [.put .empty (.int 2) .null {}]).2
    Heap.empty.key (.string "4294967294") = .index 4294967294 ∧
      ∃ o', o.putIndex? 4294967294 .null = some o' ∧
        (operations.step o (.put .empty (.string "4294967294") .null {})).2 =
          { o' with stores := 2 } ∧
        o'.elements.size = 3 ∧ o'.length = 4294967295 := by
  have hkey : Heap.empty.key (.string "4294967294") = .index 4294967294 := by decide +kernel
  obtain ⟨-, -, hstores, -⟩ :=
    index_arithmetic_exact (.array [.null] (by decide)) [.put .empty (.int 2) .null {}]
  obtain ⟨o', hput, hstep⟩ := hstores .empty (.string "4294967294") .null {} 4294967294 hkey
  refine ⟨hkey, o', hput, hstep, ?_⟩
  obtain rfl := Option.some.inj (hput.symm.trans rfl)
  exact ⟨rfl, rfl⟩

end Object

end AdaptiveTree
