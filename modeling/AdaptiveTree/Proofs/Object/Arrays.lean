import AdaptiveTree.Proofs.Object.Map

/-!
# Arrays that operations lead to

An array is made of values and then changed by operations, among them stores to its length. Whatever
they are, it stays an array and `Bounded` (`ReachableArray.kind`, `ReachableArray.bounded`), so that
the indices present in it are all below its length (`Present.lt_length`).
-/

set_option autoImplicit false

namespace AdaptiveTree.Object

open Key (maxIndex)

/-! ## The class of an object -/

theorem kind_commit (o : Object) (k : Key) (v : Value) (newLength : Option UInt32) :
    (o.commit k v newLength).kind = o.kind := by
  cases newLength with
  | some n => rfl
  | none =>
    cases k with
    | index i => exact (o.putIndex_frame i v).1
    | name s => rfl

theorem kind_step (o : Object) (op : Operation) : (operations.step o op).2.kind = o.kind := by
  cases op with
  | put h w v flags =>
    rw [step_put]
    cases hput : o.put (h.key w) v flags with
    | error e => rfl
    | ok o' =>
      obtain rfl | ⟨-, newLength, -, -, rfl⟩ := put_cases hput
      · rfl
      · exact kind_commit o _ v newLength
  | preventExtensions => rfl
  | freeze => rfl

theorem kind_run (o : Object) (ops : List Operation) : (operations.run o ops).2.kind = o.kind := by
  induction ops generalizing o with
  | nil => rfl
  | cons op ops ih => exact (ih _).trans (kind_step o op)

/-! ## Reachable arrays -/

/-- An array that operations lead to from the values that it was made of. -/
def ReachableArray (o : Object) : Prop :=
  ∃ (values : List Value) (fits : values.length < 4294967296) (ops : List Operation),
    o = (operations.run (Start.array values fits).object ops).2

namespace ReachableArray

variable {o : Object}

theorem kind (h : o.ReachableArray) : o.kind = .array := by
  obtain ⟨values, fits, ops, rfl⟩ := h
  exact kind_run _ ops

theorem bounded (h : o.ReachableArray) : o.Bounded := by
  obtain ⟨values, fits, ops, rfl⟩ := h
  exact ((Refines.start _).run ops).2.bounded

end ReachableArray

/-- An array of values as it is made. -/
theorem reachableArray_array {values : List Value} (fits : values.length < 4294967296) :
    (array values).ReachableArray :=
  ⟨values, fits, [], rfl⟩

/-! ## Indices that are present -/

/-- The object has a value of its own under the index. -/
def Present (o : Object) (i : UInt32) : Prop :=
  i.toNat ≤ maxIndex ∧ o.hasOwn (.index i) = true

theorem hasOwn_index (o : Object) (i : UInt32) :
    o.hasOwn (.index i) = (o.content? (.index i)).isSome := by
  simp [hasOwn, get?_eq, isLengthKey]

theorem get_index (o : Object) (i : UInt32) :
    o.get (.index i) = (o.content? (.index i)).getD .undefined := by
  simp [get, get?_eq, isLengthKey]

theorem present_iff {o : Object} {i : UInt32} :
    o.Present i ↔ i.toNat ≤ maxIndex ∧ ∃ v, o.content? (.index i) = some v := by
  rw [Present, hasOwn_index, Option.isSome_iff_exists]

/-- An index that is present stands in the vector, or in the table under its text. -/
theorem Present.dense_or_named {o : Object} {i : UInt32} (h : o.Present i) :
    i.toNat < o.elements.size ∨ ∃ v, o.named? (Key.indexText i) = some v := by
  obtain ⟨-, v, hv⟩ := present_iff.1 h
  simp only [content?, Option.or_eq_some_iff] at hv
  obtain hv | ⟨-, hv⟩ := hv
  · exact .inl (Nat.lt_of_not_le fun hge => by simp [dense?_of_size_le hge] at hv)
  · exact .inr ⟨v, hv⟩

theorem Present.lt_length {o : Object} {i : UInt32} (h : o.Present i) (hb : o.Bounded)
    (ha : o.kind = .array) : i < o.length := by
  rw [UInt32.lt_iff_toNat_lt]
  obtain hdense | ⟨v, hnamed⟩ := h.dense_or_named
  · exact Nat.lt_of_lt_of_le hdense (hb.dense ha)
  · exact hb.named ha i h.1 (by simp [hnamed])

end AdaptiveTree.Object
