import AdaptiveTree.Heap
import AdaptiveTree.Proofs.Number.Arithmetic
import AdaptiveTree.Proofs.Number.Shortest
import Mathlib.Data.Set.Function

/-!
# Keys and their texts

The key that a value addresses is the key of its text, whatever its representation (`key_eq`), so
that two values address one property exactly when they display alike (`key_of_display`). The keys
that arise are exactly the *proper* ones: indices up to the greatest one, and names that are not the
decimal form of an index (`proper_iff`). A proper key is determined by its text (`text_inj`), and
the value that it is kept as addresses it again (`key_toValue`).

A text is an index only in the one spelling that printing gives the index, so that reading keys and
printing them undo each other (`parseIndex?_inverts_decimal`).
-/

set_option autoImplicit false

namespace AdaptiveTree

open Number

namespace Key

/-- The text of the key is read as the key. -/
def Proper (k : Key) : Prop :=
  ofString k.text = k

theorem proper_index {i : UInt32} : (index i).Proper ↔ i.toNat ≤ maxIndex := by
  constructor
  · intro h
    unfold Proper ofString at h
    split at h
    · rename_i j hj
      rw [← Key.index.inj h]
      exact parseIndex?_le hj
    · cases h
  · intro h
    simp [Proper, ofString, text, parseIndex?_indexText h]

theorem proper_name {s : String} : (name s).Proper ↔ parseIndex? s = none := by
  unfold Proper ofString text
  cases parseIndex? s <;> simp

theorem ofString_proper (s : String) : (ofString s).Proper := by
  unfold ofString
  split
  · rename_i i hi
    exact proper_index.2 (parseIndex?_le hi)
  · rename_i hs
    exact proper_name.2 hs

@[simp] theorem text_ofString (s : String) : (ofString s).text = s := by
  unfold ofString
  split
  · rename_i i hi
    exact indexText_of_parseIndex? hi
  · rfl

/-- Different proper keys have different texts. -/
theorem text_inj {k l : Key} (hk : k.Proper) (hl : l.Proper) (h : k.text = l.text) : k = l := by
  rw [← hk, h, hl]

/-! ## Reading and printing -/

theorem indexText_eq_repr (i : UInt32) : indexText i = Nat.repr i.toNat := by
  have hnonneg : ¬ (i.toNat : Int) < 0 := by omega
  rw [indexText, intText, if_neg hnonneg]
  rfl

theorem parseIndex?_eq_some_iff {s : String} {i : UInt32} :
    parseIndex? s = some i ↔ i.toNat ≤ maxIndex ∧ s = Nat.repr i.toNat := by
  rw [← indexText_eq_repr]
  constructor
  · intro h
    exact ⟨parseIndex?_le h, (indexText_of_parseIndex? h).symm⟩
  · rintro ⟨hi, rfl⟩
    exact parseIndex?_indexText hi

theorem parseIndex?_eq_none_iff {s : String} :
    parseIndex? s = none ↔ ¬ ∃ i : UInt32, i.toNat ≤ maxIndex ∧ s = Nat.repr i.toNat := by
  simp only [Option.eq_none_iff_forall_not_mem, Option.mem_def, parseIndex?_eq_some_iff, not_exists]

theorem mem_range_ofString {k : Key} : k ∈ Set.range ofString ↔ k.Proper := by
  constructor
  · rintro ⟨s, rfl⟩
    exact ofString_proper s
  · intro hk
    exact ⟨k.text, hk⟩

/-- A text is read as an index exactly when it is the decimal text of that index and the index is
not above the greatest one. So reading a key and printing it undo each other, between all texts and
the keys that texts have: the indices up to the greatest one, and the names that are no decimal text
of these. -/
theorem parseIndex?_inverts_decimal :
    (∀ (s : String) (i : UInt32),
      parseIndex? s = some i ↔ i.toNat ≤ 4294967294 ∧ s = Nat.repr i.toNat) ∧
      Set.InvOn text ofString Set.univ (Set.range ofString) ∧
      ∀ k, k ∈ Set.range ofString ↔
        match k with
        | .index i => i.toNat ≤ 4294967294
        | .name s => ¬ ∃ i : UInt32, i.toNat ≤ 4294967294 ∧ s = Nat.repr i.toNat := by
  refine ⟨fun s i => parseIndex?_eq_some_iff, ⟨fun s _ => text_ofString s, fun k hk => ?_⟩,
    fun k => mem_range_ofString.trans ?_⟩
  · exact mem_range_ofString.1 hk
  · cases k with
    | index i => exact proper_index
    | name s => exact proper_name.trans parseIndex?_eq_none_iff

/-! ## The keys of numbers -/

theorem ofInt_eq (i : Int32) : ofInt i = ofString (intText i.toInt) := by
  have hlt := i.toInt_lt
  unfold ofInt ofString
  rw [parseIndex?_intText]
  by_cases h : 0 ≤ i.toInt
  · have hmax : 0 ≤ i.toInt ∧ i.toInt ≤ maxIndex := ⟨h, by unfold maxIndex; omega⟩
    rw [if_pos h, if_pos hmax]
  · have hmax : ¬ (0 ≤ i.toInt ∧ i.toInt ≤ maxIndex) := fun h' => h h'.1
    rw [if_neg h, if_neg hmax]

theorem ofInt_proper (i : Int32) : (ofInt i).Proper := by
  rw [ofInt_eq]
  exact ofString_proper _

theorem ofDouble_eq (d : Float) : ofDouble d = ofString (Number.text d) := by
  unfold ofDouble ofString
  rw [parseIndex?_text]
  cases integer? d with
  | none => rfl
  | some n =>
    simp only [Option.bind_some]
    split <;> rfl

/-- The double of an integer addresses the same property as the integer. -/
@[simp] theorem ofDouble_widen (i : Int32) : ofDouble (Value.widen i) = ofInt i := by
  rw [ofDouble_eq, ofInt_eq, Value.widen, text_ofInt (fitsDouble_toInt i)]

end Key

namespace Heap

/-- The key that a value addresses is the key of its text. -/
theorem key_eq (h : Heap) (v : Value) : h.key v = .ofString (h.display v) := by
  cases v with
  | int i => exact Key.ofInt_eq i
  | double d => exact Key.ofDouble_eq d
  | _ => rfl

theorem key_proper (h : Heap) (v : Value) : (h.key v).Proper := by
  rw [key_eq]
  exact Key.ofString_proper _

/-- The proper keys are those that values address. -/
theorem proper_iff {k : Key} : k.Proper ↔ ∃ (h : Heap) (v : Value), h.key v = k :=
  ⟨fun hk => ⟨.empty, .string k.text, hk⟩, fun ⟨h, v, hv⟩ => hv ▸ key_proper h v⟩

/-- The value that a key is kept as addresses the key. -/
theorem key_toValue (h : Heap) {k : Key} (hk : k.Proper) : h.key k.toValue = k := by
  cases k with
  | name s => exact hk
  | index i =>
    have hi := Key.proper_index.1 hk
    simp only [Key.toValue]
    split
    · rename_i hlt
      have hint : (Int32.ofNat i.toNat).toInt = i.toNat := Int32.toInt_ofNat_of_lt hlt
      show Key.ofInt _ = _
      unfold Key.ofInt
      rw [hint, if_pos (by omega)]
      simp
    · have hsmall : FitsDouble i.toNat := by
        unfold FitsDouble
        unfold Key.maxIndex at hi
        omega
      show Key.ofDouble _ = _
      rw [Key.ofDouble_eq, text_ofInt hsmall]
      exact hk

/-- The ways in which integers, doubles, texts and all other values become keys agree with the way
by their texts: the key of a value is the key of its text and has that text, so that two values
address the same property exactly when their texts are the same. -/
theorem key_of_display (h : Heap) (v : Value) :
    h.key v = .ofString (h.display v) ∧ (h.key v).text = h.display v ∧
      ∀ (h' : Heap) (w : Value), h.key v = h'.key w ↔ h.display v = h'.display w := by
  have htext : ∀ (h : Heap) (v : Value), (h.key v).text = h.display v := fun h v => by
    rw [key_eq, Key.text_ofString]
  refine ⟨key_eq h v, htext h v, fun h' w => ⟨fun hkey => ?_, fun hdisplay => ?_⟩⟩
  · rw [← htext h v, hkey, htext h' w]
  · rw [key_eq, key_eq, hdisplay]

end Heap

end AdaptiveTree
