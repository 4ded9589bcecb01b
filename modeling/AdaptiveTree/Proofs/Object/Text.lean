import AdaptiveTree.Proofs.Object.Arrays
import AdaptiveTree.Proofs.Reflect

/-!
# Texts of arrays

The text of an array is made of its vector alone. It leaves out what stands in the table, and ends
where the vector ends, also when the length of the array is greater. So two arrays may have
different texts although every answer of theirs is the same (`display_of_raised_length`).

A vector that reaches up to the length, with no index in the table, holds all that is observed of
the array (`Compact`). It stays so as long as no index is stored far past the length and no store
raises the length as such (`Compact.run`); arrays made in this way have the same text if they give
the same answers (`display_of_near`).
-/

set_option autoImplicit false

namespace AdaptiveTree

open Key (maxIndex indexText)

namespace Object

/-! ## What is observed of an array -/

/-- The two objects give the same answers about their length and their indices. -/
structure Agrees (o o' : Object) : Prop where
  length : o.length = o'.length
  hasOwn : ∀ i : UInt32, i.toNat ≤ maxIndex → o.hasOwn (.index i) = o'.hasOwn (.index i)
  get : ∀ i : UInt32, i.toNat ≤ maxIndex → o.get (.index i) = o'.get (.index i)

theorem getElem?_elements {o : Object} {n : Nat} (hsize : o.elements.size ≤ maxIndex + 1)
    (hn : n < o.elements.size) : o.elements[n]? = some (o.dense? (UInt32.ofNat n)) := by
  have hplace : (UInt32.ofNat n).toNat = n :=
    UInt32.toNat_ofNat_of_lt' (by unfold maxIndex at hsize; simp [UInt32.size]; omega)
  simp [dense?, hplace, Array.getElem?_eq_getElem hn]

/-- Vectors of one size with holes at the same places are the same when all values are. -/
theorem elements_eq {o o' : Object} (hsize : o.elements.size ≤ maxIndex + 1)
    (hextent : o.elements.size = o'.elements.size)
    (hholes : ∀ i, (o.dense? i).isSome = (o'.dense? i).isSome)
    (hget : ∀ i : UInt32, i.toNat ≤ maxIndex → o.get (.index i) = o'.get (.index i)) :
    o.elements = o'.elements := by
  refine Array.ext_getElem? fun n => ?_
  by_cases hn : n < o.elements.size
  · rw [getElem?_elements hsize hn, getElem?_elements (hextent ▸ hsize) (hextent ▸ hn)]
    have hplace : (UInt32.ofNat n).toNat ≤ maxIndex := by
      rw [UInt32.toNat_ofNat_of_lt' (by unfold maxIndex at hsize; simp [UInt32.size]; omega)]
      omega
    have hvalue := hget _ hplace
    have hhole := hholes (UInt32.ofNat n)
    simp only [get_index, content?] at hvalue
    cases hd : o.dense? (UInt32.ofNat n) <;> cases hd' : o'.dense? (UInt32.ofNat n) <;>
      simp_all
  · rw [Array.getElem?_eq_none (by omega), Array.getElem?_eq_none (by omega)]

/-! ## Compact arrays -/

/-- The vector reaches up to the length, and no index stands in the table. -/
structure Compact (o : Object) : Prop where
  full : o.elements.size = o.length.toNat
  plain : ∀ i : UInt32, i.toNat ≤ maxIndex → o.named? (indexText i) = none

namespace Compact

variable {o o' : Object}

theorem size_le (hc : o.Compact) : o.elements.size ≤ maxIndex + 1 := by
  have := o.length.toNat_lt
  rw [hc.full]
  unfold maxIndex
  omega

/-- The holes of a compact array are the indices that it does not have. -/
theorem isSome_dense? (hc : o.Compact) {i : UInt32} (hi : i.toNat ≤ maxIndex) :
    (o.dense? i).isSome = o.hasOwn (.index i) := by
  rw [hasOwn_index, content?, hc.plain i hi, Option.or_none]

/-- Compact arrays that agree have the same vector. -/
theorem elements_eq (hc : o.Compact) (hc' : o'.Compact) (h : o.Agrees o') :
    o.elements = o'.elements := by
  have hextent : o.elements.size = o'.elements.size := by rw [hc.full, hc'.full, h.length]
  refine Object.elements_eq hc.size_le hextent (fun i => ?_) h.get
  by_cases hi : i.toNat ≤ maxIndex
  · rw [hc.isSome_dense? hi, hc'.isSome_dense? hi, h.hasOwn i hi]
  · have hsize := hc.size_le
    rw [dense?_of_size_le (by omega), dense?_of_size_le (by omega)]

theorem array {values : List Value} (fits : values.length < 4294967296) :
    (Object.array values).Compact where
  full := by
    simp only [Object.array, ofElements, List.size_toArray, List.length_map]
    rw [UInt32.toNat_ofNat_of_lt' (by simpa [UInt32.size] using fits)]
  plain _ _ := rfl

/-- A store at an index that is not far past the length grows the vector to the new length. -/
theorem putIndex (hc : o.Compact) (ha : o.kind = .array) {i : UInt32} (hi : i.toNat ≤ maxIndex)
    (hnear : i.toNat ≤ o.length.toNat + maxGap.toNat) (v : Value) : (o.putIndex i v).Compact := by
  have hfull := hc.full
  have hlen := length_putIndex ha hi v
  obtain ⟨es, ps, heq, ⟨hlt, rfl, rfl⟩ | ⟨hge, rfl, rfl⟩ | ⟨hfar, -, -⟩⟩ :=
    putIndex_cases hc.size_le i v
  · refine ⟨?_, by rw [heq]; exact hc.plain⟩
    rw [hlen, heq]
    simp only [Array.size_setIfInBounds]
    omega
  · refine ⟨?_, by rw [heq]; exact hc.plain⟩
    rw [hlen, heq]
    simp only [Array.size_push, Array.size_append, Array.size_replicate]
    omega
  · -- only an index far past the vector, which ends at the length, goes to the table
    omega

/-- A name in the table is not the text of an index. -/
theorem insert (hc : o.Compact) {s : String} (hs : Key.parseIndex? s = none) (v : Value) :
    ({ o with properties := o.properties.insert s v } : Object).Compact := by
  refine ⟨hc.full, fun i hi => ?_⟩
  rw [named?_insert_name o hs v hi]
  exact hc.plain i hi

/-- The vector is cut off where the array is. -/
theorem setLength (hc : o.Compact) {n : UInt32} (hn : n ≤ o.length) : (o.setLength n).Compact := by
  have hfull := hc.full
  rw [UInt32.le_iff_toNat_le] at hn
  refine ⟨?_, fun i hi => ?_⟩
  · simp only [Object.setLength, Array.take_eq_extract, Array.size_extract]
    omega
  · have hplain := hc.plain i hi
    simp only [named?, Object.setLength] at hplain ⊢
    split <;> simp [hplain]

end Compact

/-! ## Near operations -/

/-- Whether the operation stores at no index far past the length, and raises no length as such. -/
def near (o : Object) : Operation → Bool
  | .put h w v _ =>
    match h.key w with
    | .index i => i.toNat ≤ o.length.toNat + maxGap.toNat
    | .name s => !o.isLengthKey (.name s) || (arrayLength? v).all (· ≤ o.length)
  | .preventExtensions => true
  | .freeze => true

/-- Whether each of the operations is near when its turn comes. -/
def nearRun (o : Object) : List Operation → Bool
  | [] => true
  | op :: ops => o.near op && (operations.step o op).2.nearRun ops

theorem near_put {o : Object} {h : Heap} {w v : Value} {flags : StoreFlags}
    (hnear : o.near (.put h w v flags) = true) :
    (∀ i, h.key w = .index i → i.toNat ≤ o.length.toNat + maxGap.toNat) ∧
      (o.isLengthKey (h.key w) = true → ∀ n, arrayLength? v = some n → n ≤ o.length) := by
  simp only [near] at hnear
  cases hk : h.key w with
  | index i => simp_all [isLengthKey]
  | name s =>
    simp only [hk, Bool.or_eq_true, Bool.not_eq_true', Option.all_eq_true, decide_eq_true_eq]
      at hnear
    refine ⟨by simp, fun hkey n hn => ?_⟩
    rw [hkey] at hnear
    exact hnear.resolve_left Bool.noConfusion n hn

namespace Compact

variable {o : Object}

theorem commit (hc : o.Compact) (ha : o.kind = .array) {k : Key} (hk : k.Proper) (v : Value)
    {newLength : Option UInt32}
    (hnear : ∀ i, k = .index i → i.toNat ≤ o.length.toNat + maxGap.toNat)
    (hlength : ∀ n, newLength = some n → n ≤ o.length) : (o.commit k v newLength).Compact := by
  have hstored : ∀ {s : Object} (n : Nat), s.Compact → ({ s with stores := n } : Object).Compact :=
    fun n h => ⟨h.full, h.plain⟩
  cases newLength with
  | some n => exact hstored _ (hc.setLength (hlength n rfl))
  | none =>
    cases k with
    | index i => exact hstored _ (hc.putIndex ha (Key.proper_index.1 hk) (hnear i rfl) v)
    | name s => exact hstored _ (hc.insert (Key.proper_name.1 hk) v)

theorem step (hc : o.Compact) (ha : o.kind = .array) {op : Operation} (hnear : o.near op = true) :
    (operations.step o op).2.Compact := by
  cases op with
  | put h w v flags =>
    rw [step_put]
    cases hput : o.put (h.key w) v flags with
    | error e => exact hc
    | ok o' =>
      obtain rfl | ⟨-, newLength, -, hlen, rfl⟩ := put_cases hput
      · exact hc
      · refine hc.commit ha (h.key_proper w) v (near_put hnear).1 fun n hn => ?_
        obtain ⟨hkey, hvalue⟩ := hlen n hn
        exact (near_put hnear).2 hkey n hvalue
  | preventExtensions => exact ⟨hc.full, hc.plain⟩
  | freeze => exact ⟨hc.full, hc.plain⟩

theorem run {ops : List Operation} (hc : o.Compact) (ha : o.kind = .array)
    (hnear : o.nearRun ops = true) : (operations.run o ops).2.Compact := by
  induction ops generalizing o with
  | nil => exact hc
  | cons op ops ih =>
    obtain ⟨hop, hops⟩ := Bool.and_eq_true_iff.1 hnear
    exact ih (hc.step ha hop) ((kind_step o op).trans ha) hops

end Compact

/-- An array that near operations lead to from the values that it was made of. -/
def NearArray (o : Object) : Prop :=
  ∃ (values : List Value) (fits : values.length < 4294967296) (ops : List Operation),
    (Start.array values fits).object.nearRun ops = true ∧
      o = (operations.run (Start.array values fits).object ops).2

namespace NearArray

variable {o : Object}

theorem reachable (h : o.NearArray) : o.ReachableArray := by
  obtain ⟨values, fits, ops, -, ho⟩ := h
  exact ⟨values, fits, ops, ho⟩

theorem compact (h : o.NearArray) : o.Compact := by
  obtain ⟨values, fits, ops, hnear, rfl⟩ := h
  exact (Compact.array fits).run rfl hnear

end NearArray

end Object

/-! ## Texts -/

namespace Heap

variable {h : Heap}

/-- An array is read by its vector when its text is made. -/
theorem render?_congr {id id' : Nat} (hk : (h.get id).kind = .array)
    (hk' : (h.get id').kind = .array) (he : (h.get id).elements = (h.get id').elements)
    (depth : Nat) : h.render? depth (.object id) = h.render? depth (.object id') := by
  cases depth with
  | zero => rw [render?_array_zero hk, render?_array_zero hk']
  | succ depth => rw [render?_array_succ hk, render?_array_succ hk', he]

/-- Two arrays that near operations lead to have the same text if they give the same answers. -/
theorem display_of_near {id id' : Nat} (hn : (h.get id).NearArray) (hn' : (h.get id').NearArray)
    (hagrees : (h.get id).Agrees (h.get id')) :
    h.display (.object id) = h.display (.object id') := by
  have he := hn.compact.elements_eq hn'.compact hagrees
  rw [display, display, render?_congr hn.reachable.kind hn'.reachable.kind he]

/-- Two arrays with holes up to their length, from different values by different stores. -/
theorem display_of_near_holes :
    let o : Object :=
      { kind := .array, elements := #[some (.string "a"), none, none], properties := ⟨[]⟩,
        length := 3, extensible := true, frozen := false, stores := 2 }
    let h : Heap := ⟨#[o, { o with stores := 3 }]⟩
    (h.get 0).NearArray ∧ (h.get 1).NearArray ∧ (h.get 0).Agrees (h.get 1) ∧
      h.display (.object 0) = h.display (.object 1) := by
  intro o h
  let store (key value : Value) := Operation.put .empty key value {}
  have hn : (h.get 0).NearArray :=
    ⟨[.string "a"], by decide, [store (.int 3) (.string "d"), store (.string "length") (.int 3)],
      by decide +kernel, rfl⟩
  have hn' : (h.get 1).NearArray :=
    ⟨[], by decide, [store (.int 0) (.string "a"), store (.int 3) (.string "z"),
      store (.string "length") (.int 3)], by decide +kernel, rfl⟩
  have hagrees : (h.get 0).Agrees (h.get 1) := ⟨rfl, fun _ _ => rfl, fun _ _ => rfl⟩
  exact ⟨hn, hn', hagrees, display_of_near hn hn' hagrees⟩

/-- An empty array whose length is raised has no text, but one that is made longer by a store and
then cut off has the holes in its text, although the two arrays give the same answers. -/
theorem display_of_raised_length :
    let raised : Object :=
      { kind := .array, elements := #[], properties := ⟨[]⟩, length := 3, extensible := true,
        frozen := false, stores := 1 }
    let cut : Object :=
      { kind := .array, elements := #[none, none, none], properties := ⟨[]⟩, length := 3,
        extensible := true, frozen := false, stores := 2 }
    let h : Heap := ⟨#[raised, cut]⟩
    (h.get 0).ReachableArray ∧ (h.get 1).ReachableArray ∧ (h.get 0).Agrees (h.get 1) ∧
      h.display (.object 0) = "" ∧ h.display (.object 1) = ",," := by
  intro raised cut h
  let store (key value : Value) := Operation.put .empty key value {}
  have hraised : (h.get 0).ReachableArray :=
    ⟨[], by decide, [store (.string "length") (.int 3)], rfl⟩
  have hcut : (h.get 1).ReachableArray :=
    ⟨[], by decide, [store (.int 3) (.string "x"), store (.string "length") (.int 3)], rfl⟩
  have hcontent : ∀ i, (h.get 0).content? (.index i) = (h.get 1).content? (.index i) := by
    intro i
    have hholes : cut.dense? i = none := by
      simp only [Object.dense?, cut]
      grind
    show (raised.dense? i).or _ = (cut.dense? i).or _
    rw [hholes]
    rfl
  have hagrees : (h.get 0).Agrees (h.get 1) :=
    ⟨rfl, fun i _ => by rw [Object.hasOwn_index, Object.hasOwn_index, hcontent],
      fun i _ => by rw [Object.get_index, Object.get_index, hcontent]⟩
  exact ⟨hraised, hcut, hagrees, by cbv, by cbv⟩

end Heap

end AdaptiveTree
