import AdaptiveTree.Object.Basic
import AdaptiveTree.Proofs.Key

/-!
# The two stores of an object

What the vector and the table of an object hold for a key, together (`content?`), and how it
changes:

* `content?_putIndex`, `content?_insert`: a store changes what is held for its key and nothing else,
  wherever the value is put. A value in the table may stay behind one in the vector, which hides it;
* `content?_setLength`: a new length drops exactly the indices from it on. A drop is skipped in the
  table when the length does not shrink, which is right for an object that is `Bounded`.

Every operation keeps an object bounded (`Bounded.putIndex`, `Bounded.setLength`).
-/

set_option autoImplicit false

namespace AdaptiveTree.Object

open Key (indexText maxIndex)

/-- The value that the vector and the table together hold for a key. -/
def content? (o : Object) : Key → Option Value
  | .index i => (o.dense? i).or (o.named? (indexText i))
  | .name s => o.named? s

/-- The vector is not longer than there are indices, and the length of an array is above all its
indices. -/
structure Bounded (o : Object) : Prop where
  size : o.elements.size ≤ maxIndex + 1
  dense : o.kind = .array → o.elements.size ≤ o.length.toNat
  named : o.kind = .array → ∀ i : UInt32, i.toNat ≤ maxIndex →
    o.named? (indexText i) ≠ none → i.toNat < o.length.toNat

theorem get?_eq (o : Object) (k : Key) :
    o.get? k =
      if o.isLengthKey k then some (Value.number (Number.ofInt o.length.toNat))
      else o.content? k := by
  cases k <;> rfl

theorem hasOwn_iff (o : Object) (k : Key) :
    o.hasOwn k = true ↔ o.isLengthKey k = true ∨ o.content? k ≠ none := by
  rw [hasOwn, get?_eq, Option.isSome_iff_ne_none]
  split <;> simp_all

/-! ## The vector -/

theorem dense?_of_size_le {o : Object} {i : UInt32} (h : o.elements.size ≤ i.toNat) :
    o.dense? i = none := by
  simp [dense?, Array.getElem?_eq_none h]

theorem dense?_set (o : Object) {i : UInt32} (v : Value) (h : i.toNat < o.elements.size)
    (j : UInt32) :
    ({ o with elements := o.elements.setIfInBounds i.toNat (some v) } : Object).dense? j =
      if j = i then some v else o.dense? j := by
  by_cases hj : j = i
  · subst hj
    simp [dense?, h]
  · have hne : i.toNat ≠ j.toNat := fun he => hj (UInt32.toNat_inj.1 he.symm)
    simp [dense?, hj, Array.getElem?_setIfInBounds_ne hne]

/-- Growing the vector fills up with holes, which read as nothing, as places past its end did. -/
theorem dense?_grow (o : Object) {i : UInt32} (v : Value) (h : o.elements.size ≤ i.toNat)
    (j : UInt32) :
    ({ o with elements :=
        (o.elements ++ Array.replicate (i.toNat - o.elements.size) none).push (some v) } :
      Object).dense? j = if j = i then some v else o.dense? j := by
  have hsize : (o.elements ++
      Array.replicate (i.toNat - o.elements.size) (none : Option Value)).size = i.toNat := by
    simp
    omega
  have hiff : j = i ↔ j.toNat = i.toNat := UInt32.toNat_inj.symm
  simp only [dense?, Array.getElem?_push, hsize, hiff, Array.getElem?_append,
    Array.getElem?_replicate]
  split
  · rfl
  · split
    · rfl
    · rename_i hge
      rw [Array.getElem?_eq_none (by omega)]
      split <;> rfl

theorem lt_ofNat_size {o : Object} (hsize : o.elements.size ≤ maxIndex + 1) (i : UInt32) :
    i < UInt32.ofNat o.elements.size ↔ i.toNat < o.elements.size := by
  have hlt : o.elements.size < 2 ^ 32 := Nat.lt_of_le_of_lt hsize (by decide)
  rw [UInt32.lt_iff_toNat_lt, UInt32.toNat_ofNat_of_lt' hlt]

theorem toNat_sub_size {o : Object} (hsize : o.elements.size ≤ maxIndex + 1) {i : UInt32}
    (h : o.elements.size ≤ i.toNat) :
    (i - UInt32.ofNat o.elements.size).toNat = i.toNat - o.elements.size := by
  have hplace : (UInt32.ofNat o.elements.size).toNat = o.elements.size :=
    UInt32.toNat_ofNat_of_lt' (Nat.lt_of_le_of_lt hsize (by decide))
  rw [UInt32.toNat_sub_of_le _ _ (by rwa [UInt32.le_iff_toNat_le, hplace]), hplace]

/-! ## Stores at an index -/

/-- What a store at an index can do: replace an element, grow the vector, or go to the table if the
index is far past the end of the vector. -/
theorem putIndex_cases {o : Object} (hsize : o.elements.size ≤ maxIndex + 1) (i : UInt32)
    (v : Value) :
    ∃ (es : Array (Option Value)) (ps : Table),
      o.putIndex i v =
        { o with
          elements := es, properties := ps
          length := if o.kind = .array then max o.length (i + 1) else o.length } ∧
      ((i.toNat < o.elements.size ∧ es = o.elements.setIfInBounds i.toNat (some v) ∧
          ps = o.properties) ∨
        (o.elements.size ≤ i.toNat ∧
          es = (o.elements ++ Array.replicate (i.toNat - o.elements.size) none).push (some v) ∧
          ps = o.properties) ∨
        (o.elements.size + maxGap.toNat < i.toNat ∧ es = o.elements ∧
          ps = o.properties.insert (indexText i) v)) := by
  have hlt := lt_ofNat_size hsize i
  simp only [putIndex]
  by_cases hi : i < UInt32.ofNat o.elements.size
  · refine ⟨_, _, ?_, .inl ⟨hlt.1 hi, rfl, rfl⟩⟩
    rw [if_pos hi]
    split <;> rfl
  · have hge : o.elements.size ≤ i.toNat := Nat.le_of_not_lt fun h => hi (hlt.2 h)
    rw [if_neg hi]
    by_cases hgap : i - UInt32.ofNat o.elements.size ≤ maxGap
    · refine ⟨_, _, ?_, .inr (.inl ⟨hge, rfl, rfl⟩)⟩
      rw [if_pos hgap]
      split <;> rfl
    · refine ⟨_, _, ?_, .inr (.inr ⟨?_, rfl, rfl⟩)⟩
      · rw [if_neg hgap]
        split <;> rfl
      · rw [UInt32.le_iff_toNat_le, toNat_sub_size hsize hge] at hgap
        omega

/-- The vector and the table after a store at an index. The size of the vector is taken to 32 bits
here, whatever it is. -/
theorem putIndex_stores (o : Object) (i : UInt32) (v : Value) :
    (i.toNat < o.elements.size % 4294967296 ∧
        (o.putIndex i v).elements = o.elements.setIfInBounds i.toNat (some v) ∧
        (o.putIndex i v).properties = o.properties) ∨
      (o.elements.size % 4294967296 ≤ i.toNat ∧
        (o.putIndex i v).elements =
          (o.elements ++ Array.replicate (i.toNat - o.elements.size) none).push (some v) ∧
        (o.putIndex i v).properties = o.properties) ∨
      (o.elements.size % 4294967296 ≤ i.toNat ∧ (o.putIndex i v).elements = o.elements ∧
        (o.putIndex i v).properties = o.properties.insert (indexText i) v) := by
  have hlt : i < UInt32.ofNat o.elements.size ↔ i.toNat < o.elements.size % 4294967296 := by
    rw [UInt32.lt_iff_toNat_lt, UInt32.toNat_ofNat']
  simp only [putIndex]
  by_cases hi : i < UInt32.ofNat o.elements.size
  · refine .inl ⟨hlt.1 hi, ?_⟩
    rw [if_pos hi]
    split <;> exact ⟨rfl, rfl⟩
  · have hge := Nat.le_of_not_lt fun h => hi (hlt.2 h)
    rw [if_neg hi]
    by_cases hgap : i - UInt32.ofNat o.elements.size ≤ maxGap
    · refine .inr (.inl ⟨hge, ?_⟩)
      rw [if_pos hgap]
      split <;> exact ⟨rfl, rfl⟩
    · refine .inr (.inr ⟨hge, ?_⟩)
      rw [if_neg hgap]
      split <;> exact ⟨rfl, rfl⟩

/-- A store at an index leaves everything but the stores and the length of an array alone. -/
theorem putIndex_frame (o : Object) (i : UInt32) (v : Value) :
    (o.putIndex i v).kind = o.kind ∧ (o.putIndex i v).extensible = o.extensible ∧
      (o.putIndex i v).frozen = o.frozen ∧ (o.putIndex i v).stores = o.stores ∧
      (o.kind ≠ .array → (o.putIndex i v).length = o.length) := by
  simp only [putIndex]
  split
  · rename_i ha
    refine ⟨?_, ?_, ?_, ?_, fun hne => absurd ha hne⟩ <;> grind
  · refine ⟨?_, ?_, ?_, ?_, fun _ => ?_⟩ <;> grind

/-- A store in the table under the text of a proper key changes what is held for that key only, if
the vector holds nothing for it. -/
theorem content?_insert (o : Object) {k : Key} (hk : k.Proper) (v : Value)
    (hdense : ∀ i, k = .index i → o.elements.size ≤ i.toNat) {l : Key} (hl : l.Proper) :
    ({ o with properties := o.properties.insert k.text v } : Object).content? l =
      if l = k then some v else o.content? l := by
  have htext : l.text = k.text ↔ l = k := ⟨Key.text_inj hl hk, fun h => h ▸ rfl⟩
  cases l with
  | name s =>
    simp only [content?, named?, Table.get?_insert]
    exact if_congr htext rfl rfl
  | index j =>
    show (o.dense? j).or ((o.properties.insert k.text v).get? (Key.index j).text) = _
    rw [Table.get?_insert]
    by_cases h : Key.index j = k
    · have hd : o.dense? j = none := dense?_of_size_le (hdense j h.symm)
      rw [if_pos (htext.2 h), if_pos h, hd, Option.none_or]
    · rw [if_neg (fun he => h (htext.1 he)), if_neg h]
      rfl

/-- A store in the vector changes what is held for its index only. -/
theorem content?_of_dense {o o' : Object} {i : UInt32} {v : Value}
    (hd : ∀ j, o'.dense? j = if j = i then some v else o.dense? j)
    (hp : o'.properties = o.properties) (l : Key) :
    o'.content? l = if l = .index i then some v else o.content? l := by
  cases l with
  | name s => simp [content?, named?, hp]
  | index j =>
    simp only [content?, hd, named?, hp, Key.index.injEq]
    split <;> simp

theorem content?_putIndex {o : Object} (hsize : o.elements.size ≤ maxIndex + 1) {i : UInt32}
    (hi : i.toNat ≤ maxIndex) (v : Value) {l : Key} (hl : l.Proper) :
    (o.putIndex i v).content? l = if l = .index i then some v else o.content? l := by
  obtain ⟨es, ps, heq, ⟨hlt, rfl, rfl⟩ | ⟨hge, rfl, rfl⟩ | ⟨hge, rfl, rfl⟩⟩ :=
    putIndex_cases hsize i v
  · rw [heq]
    exact content?_of_dense (dense?_set o v hlt) rfl l
  · rw [heq]
    exact content?_of_dense (dense?_grow o v hge) rfl l
  · rw [heq]
    refine content?_insert o (Key.proper_index.2 hi) v ?_ hl
    rintro j ⟨⟩
    omega

theorem toNat_succ {i : UInt32} (hi : i.toNat ≤ maxIndex) : (i + 1).toNat = i.toNat + 1 := by
  unfold maxIndex at hi
  rw [UInt32.toNat_add]
  exact Nat.mod_eq_of_lt (by simp; omega)

theorem toNat_max (a b : UInt32) : (max a b).toNat = max a.toNat b.toNat := by
  rw [UInt32.max_def]
  split
  · rename_i h
    have := UInt32.le_iff_toNat_le.1 h
    omega
  · rename_i h
    rw [UInt32.le_iff_toNat_le] at h
    omega

/-- The length of an array after a store at an index. -/
theorem length_putIndex {o : Object} (ha : o.kind = .array) {i : UInt32} (hi : i.toNat ≤ maxIndex)
    (v : Value) : (o.putIndex i v).length.toNat = max o.length.toNat (i.toNat + 1) := by
  simp only [Object.putIndex, ha, if_true, toNat_max, toNat_succ hi]

theorem Bounded.putIndex {o : Object} (h : o.Bounded) {i : UInt32} (hi : i.toNat ≤ maxIndex)
    (v : Value) : (o.putIndex i v).Bounded := by
  have hsize := h.size
  have hlen := fun ha => length_putIndex (o := o) ha hi v
  obtain ⟨es, ps, heq, ⟨hlt, rfl, rfl⟩ | ⟨hge, rfl, rfl⟩ | ⟨hge, rfl, rfl⟩⟩ :=
    putIndex_cases h.size i v
  · rw [heq] at hlen ⊢
    refine ⟨by simpa using hsize, fun ha => ?_, fun ha j hj hn => ?_⟩
    · have := h.dense ha
      rw [hlen ha]
      simp only [Array.size_setIfInBounds]
      omega
    · have := h.named ha j hj hn
      rw [hlen ha]
      omega
  · rw [heq] at hlen ⊢
    refine ⟨by simp; omega, fun ha => ?_, fun ha j hj hn => ?_⟩
    · rw [hlen ha]
      simp only [Array.size_push, Array.size_append, Array.size_replicate]
      omega
    · have := h.named ha j hj hn
      rw [hlen ha]
      omega
  · rw [heq] at hlen ⊢
    refine ⟨hsize, fun ha => ?_, fun ha j hj hn => ?_⟩
    · rw [hlen ha]
      exact Nat.le_trans (h.dense ha) (Nat.le_max_left _ _)
    · rw [hlen ha]
      simp only [named?, Table.get?_insert] at hn
      split at hn
      · rename_i htext
        rw [Key.indexText_inj hj hi htext]
        omega
      · have := h.named ha j hj hn
        omega

/-- A store under a name leaves alone what stands in the table for the indices. -/
theorem named?_insert_name (o : Object) {s : String} (hs : Key.parseIndex? s = none) (v : Value)
    {i : UInt32} (hi : i.toNat ≤ maxIndex) :
    ({ o with properties := o.properties.insert s v } : Object).named? (indexText i) =
      o.named? (indexText i) := by
  have hne : indexText i ≠ s := by
    rintro rfl
    simp [Key.parseIndex?_indexText hi] at hs
  simp [named?, hne]

theorem Bounded.insert {o : Object} (h : o.Bounded) {s : String} (hs : Key.parseIndex? s = none)
    (v : Value) : ({ o with properties := o.properties.insert s v } : Object).Bounded := by
  refine ⟨h.size, h.dense, fun ha j hj hn => h.named ha j hj ?_⟩
  rwa [named?_insert_name o hs v hj] at hn

/-! ## A new length -/

theorem dense?_setLength (o : Object) (n j : UInt32) :
    (o.setLength n).dense? j = if j < n then o.dense? j else none := by
  simp only [dense?, setLength, UInt32.lt_iff_toNat_lt, Array.take_eq_extract,
    Array.getElem?_extract, Nat.zero_add, Nat.sub_zero]
  by_cases hj : j.toNat < n.toNat
  · by_cases hs : j.toNat < o.elements.size
    · rw [if_pos hj, if_pos (by omega)]
    · rw [if_pos hj, if_neg (by omega), Array.getElem?_eq_none (by omega)]
  · rw [if_neg hj, if_neg (by omega)]
    rfl

/-- A new length drops what an array holds for the indices from it on, and nothing else. -/
theorem content?_setLength {o : Object} (h : o.Bounded) (ha : o.kind = .array) (n : UInt32)
    {l : Key} (hl : l.Proper) :
    (o.setLength n).content? l =
      match l with
      | .index j => if j < n then o.content? l else none
      | .name _ => o.content? l := by
  cases l with
  | name s =>
    have hs := Key.proper_name.1 hl
    simp only [content?, named?, setLength]
    split
    · simp [hs]
    · rfl
  | index j =>
    have hj := Key.proper_index.1 hl
    simp only [content?, dense?_setLength]
    by_cases hlt : j < n
    · simp only [hlt, if_true, named?, setLength]
      split
      · simp [Key.parseIndex?_indexText hj, hlt]
      · rfl
    · simp only [hlt, if_false, Option.none_or, named?, setLength]
      split
      · simp [Key.parseIndex?_indexText hj, hlt]
      · -- the length does not shrink, and no index was at or above it
        rename_i hshrink
        by_contra hn
        have hbound := h.named ha j hj hn
        rw [UInt32.lt_iff_toNat_lt] at hlt hshrink
        omega

theorem Bounded.setLength {o : Object} (h : o.Bounded) (ha : o.kind = .array) (n : UInt32) :
    (o.setLength n).Bounded := by
  have hsize := h.size
  refine ⟨?_, fun _ => ?_, fun _ j hj hn => ?_⟩
  · simp only [Object.setLength, Array.take_eq_extract, Array.size_extract]
    omega
  · simp only [Object.setLength, Array.take_eq_extract, Array.size_extract]
    omega
  · have hc := content?_setLength h ha n (Key.proper_index.2 hj)
    simp only [content?] at hc
    by_contra hge
    have hlt : ¬ j < n := fun hlt => hge (UInt32.lt_iff_toNat_lt.1 hlt)
    rw [if_neg hlt, Option.or_eq_none_iff] at hc
    exact hn hc.2

/-! ## Stores -/

/-- What a store that does not fail can do: nothing, or its work if it is not refused. A new length
is the one that the value stands for. -/
theorem put_cases {o o' : Object} {k : Key} {v : Value} {flags : StoreFlags}
    (h : o.put k v flags = .ok o') :
    o' = o ∨ o.rejection? k = none ∧ ∃ newLength : Option UInt32,
      (newLength = none → o.isLengthKey k = false) ∧
      (∀ n, newLength = some n → o.isLengthKey k = true ∧ arrayLength? v = some n) ∧
      o' = o.commit k v newLength := by
  simp only [put_eq] at h
  generalize hlen : (if o.isLengthKey k then arrayLength? v else none) = newLength at h
  split at h
  · cases h
  · rename_i hvalid
    split at h
    · split at h
      · cases h
      · cases h
        exact .inl rfl
    · rename_i hrej
      cases h
      refine .inr ⟨hrej, newLength, ?_, ?_, rfl⟩
      · rintro rfl
        simpa using hvalid
      · rintro n rfl
        simpa using hlen

end AdaptiveTree.Object
