import AdaptiveTree.Proofs.Exec.Trail
import AdaptiveTree.Proofs.Object.Layout

/-!
# Integrity levels survive every program

No run changes the class of an object that exists, makes it extensible or thaws it, touches a frozen
one, or gives a new key to one that is not extensible (`Node.run_intact`).

`Object.Intact` says this of an object before and after. A single store keeps it (`put_intact`): an
object that is not extensible takes a store only under a key that it has, and then neither growing
the vector, which fills up with holes, nor a copy in the table gives it another one. Every step of a
run keeps it for the whole heap (`Step.intact`), hence every run does.
-/

set_option autoImplicit false

namespace AdaptiveTree

open Key (indexText maxIndex)

namespace Object

/-- The object before and after: its class and its integrity level are the same, nothing of a frozen
object is changed, and one that is not extensible has no new keys. A vector that is not longer than
there are indices stays so; of an object with a longer one, keys are only those that values
address. -/
structure Intact (o o' : Object) : Prop where
  kind : o'.kind = o.kind
  extensible : o'.extensible = o.extensible
  frozen : o'.frozen = o.frozen
  eq_of_frozen : o.frozen = true → o' = o
  size : o.elements.size ≤ maxIndex + 1 → o'.elements.size ≤ maxIndex + 1
  hasOwn : o.extensible = false → ∀ k : Key, k.Proper ∨ o.elements.size ≤ maxIndex + 1 →
    o'.hasOwn k = true → o.hasOwn k = true

theorem Intact.refl (o : Object) : o.Intact o where
  kind := rfl
  extensible := rfl
  frozen := rfl
  eq_of_frozen _ := rfl
  size h := h
  hasOwn _ _ _ h := h

theorem Intact.trans {o o' o'' : Object} (h : o.Intact o') (h' : o'.Intact o'') : o.Intact o'' where
  kind := h'.kind.trans h.kind
  extensible := h'.extensible.trans h.extensible
  frozen := h'.frozen.trans h.frozen
  eq_of_frozen hf := by
    rw [h'.eq_of_frozen (by rw [h.frozen, hf]), h.eq_of_frozen hf]
  size hs := h'.size (h.size hs)
  hasOwn he k hk hown :=
    h.hasOwn he k hk (h'.hasOwn (by rw [h.extensible, he]) k (hk.imp_right h.size) hown)

/-! ## What a store can add -/

/-- A store in the vector fills at most its own index: the holes before it read as nothing. -/
theorem dense?_putIndex {o : Object} {i j : UInt32} {v : Value}
    (h : (o.putIndex i v).dense? j ≠ none) : j = i ∨ o.dense? j ≠ none := by
  have hj := j.toNat_lt
  have hji : j.toNat = i.toNat → j = i := UInt32.toNat_inj.1
  simp only [dense?] at h ⊢
  obtain ⟨-, hes, -⟩ | ⟨hge, hes, -⟩ | ⟨-, hes, -⟩ := o.putIndex_stores i v
  · rw [hes, Array.getElem?_setIfInBounds] at h
    split at h
    · rename_i he
      exact .inl (hji he.symm)
    · exact .inr h
  · rw [hes, Array.getElem?_push] at h
    split at h
    · rename_i he
      refine .inl (hji ?_)
      simp only [Array.size_append, Array.size_replicate] at he
      omega
    · rw [Array.getElem?_append] at h
      split at h
      · exact .inr h
      · rw [Array.getElem?_replicate] at h
        split at h <;> exact absurd rfl h
  · rw [hes] at h
    exact .inr h

/-- A store at an index that the object has: it gets no other key. -/
theorem content?_of_putIndex {o : Object} {i : UInt32} (hi : i.toNat ≤ maxIndex) {v : Value}
    (hown : o.content? (.index i) ≠ none) {l : Key}
    (hl : l.Proper ∨ o.elements.size ≤ maxIndex + 1) (h : (o.putIndex i v).content? l ≠ none) :
    o.content? l ≠ none := by
  -- a name in the table is new only if the index stands in the vector, which is a longer one then
  have hnamed : ∀ s, (o.putIndex i v).named? s ≠ none →
      o.named? s ≠ none ∨ s = indexText i ∧ (o.elements.size ≤ maxIndex + 1 → o.named? s ≠ none) := by
    intro s hs
    simp only [named?] at hs ⊢
    obtain ⟨-, -, hps⟩ | ⟨-, -, hps⟩ | ⟨hge, -, hps⟩ := o.putIndex_stores i v
    · exact .inl (by rwa [hps] at hs)
    · exact .inl (by rwa [hps] at hs)
    · rw [hps, Table.get?_insert] at hs
      split at hs
      · rename_i htext
        refine .inr ⟨htext, fun hsize => ?_⟩
        have hd : o.dense? i = none := dense?_of_size_le (by unfold maxIndex at hsize; omega)
        rw [content?, hd, Option.none_or] at hown
        rwa [htext]
      · exact .inl hs
  cases l with
  | name s =>
    simp only [content?] at h ⊢
    obtain hs | ⟨rfl, hs⟩ := hnamed s h
    · exact hs
    · refine hs (hl.resolve_left fun hp => ?_)
      rw [Key.proper_name, Key.parseIndex?_indexText hi] at hp
      cases hp
  | index j =>
    by_cases hji : j = i
    · rwa [hji]
    · simp only [content?, ne_eq, Option.or_eq_none_iff, not_and_or] at h ⊢
      obtain h | h := h
      · exact .inl ((dense?_putIndex h).resolve_left hji)
      · obtain hs | ⟨htext, hs⟩ := hnamed _ h
        · exact .inr hs
        · refine .inr (hs (hl.resolve_left fun hp => ?_))
          exact hji (Key.indexText_inj (Key.proper_index.1 hp) hi htext)

theorem content?_of_setLength {o : Object} {n : UInt32} {l : Key}
    (h : (o.setLength n).content? l ≠ none) : o.content? l ≠ none := by
  have hnamed : ∀ s, (o.setLength n).named? s ≠ none → o.named? s ≠ none := by
    intro s hs
    simp only [named?, setLength] at hs ⊢
    split at hs
    · rw [Table.get?_keep] at hs
      intro hnone
      simp [hnone] at hs
    · exact hs
  cases l with
  | name s => exact hnamed s h
  | index j =>
    simp only [content?, ne_eq, Option.or_eq_none_iff, not_and_or, dense?_setLength] at h ⊢
    obtain h | h := h
    · split at h
      · exact .inl h
      · exact absurd rfl h
    · exact .inr (hnamed _ h)

/-- A store under a key that the object has, or to its length: it gets no new key. -/
theorem content?_of_commit {o : Object} {k : Key} (hk : k.Proper) {v : Value}
    {newLength : Option UInt32} (hown : newLength = none → o.content? k ≠ none) {l : Key}
    (hl : l.Proper ∨ o.elements.size ≤ maxIndex + 1)
    (h : (o.commit k v newLength).content? l ≠ none) : o.content? l ≠ none := by
  cases newLength with
  | some n =>
    refine content?_of_setLength (n := n) ?_
    cases l <;> exact h
  | none =>
    cases k with
    | index i =>
      refine content?_of_putIndex (v := v) (Key.proper_index.1 hk) (hown rfl) hl ?_
      cases l <;> exact h
    | name s =>
      have hs : o.named? s ≠ none := hown rfl
      have hnamed : ∀ s', (o.properties.insert s v).get? s' ≠ none → o.named? s' ≠ none := by
        intro s' hs'
        rw [Table.get?_insert] at hs'
        split at hs'
        · rename_i heq
          rwa [heq]
        · exact hs'
      cases l with
      | name s' => exact hnamed s' h
      | index j =>
        simp only [content?, ne_eq, Option.or_eq_none_iff, not_and_or] at h ⊢
        exact h.imp_right (hnamed _)

/-! ## Stores -/

theorem size_commit {o : Object} {k : Key} (hk : k.Proper) (v : Value) (newLength : Option UInt32)
    (hsize : o.elements.size ≤ maxIndex + 1) :
    (o.commit k v newLength).elements.size ≤ maxIndex + 1 := by
  cases newLength with
  | some n =>
    simp only [commit, setLength, Array.take_eq_extract, Array.size_extract]
    omega
  | none =>
    cases k with
    | index i =>
      have hi := Key.proper_index.1 hk
      show (o.putIndex i v).elements.size ≤ _
      obtain ⟨-, hes, -⟩ | ⟨hge, hes, -⟩ | ⟨-, hes, -⟩ := o.putIndex_stores i v
      · simpa [hes] using hsize
      · rw [hes]
        simp only [Array.size_push, Array.size_append, Array.size_replicate]
        unfold maxIndex at *
        omega
      · rwa [hes]
    | name s => exact hsize

theorem put_intact {o o' : Object} {k : Key} (hk : k.Proper) {v : Value} {flags : StoreFlags}
    (h : o.put k v flags = .ok o') : o.Intact o' := by
  obtain rfl | ⟨hrej, newLength, hlen, -, rfl⟩ := put_cases h
  · exact .refl o'
  -- the store is carried out: the object is not frozen, and has the key if it is not extensible
  have hfrozen : o.frozen = false := by
    cases hf : o.frozen with
    | false => rfl
    | true => simp [rejection?, hf] at hrej
  have hown : o.extensible = false → o.hasOwn k = true := by
    intro he
    simpa [rejection?, hfrozen, he] using hrej
  have hframe : (o.commit k v newLength).kind = o.kind ∧
      (o.commit k v newLength).extensible = o.extensible ∧
      (o.commit k v newLength).frozen = o.frozen := by
    cases newLength with
    | some n => exact ⟨rfl, rfl, rfl⟩
    | none =>
      cases k with
      | index i =>
        obtain ⟨hkind, hext, hfro, -⟩ := o.putIndex_frame i v
        exact ⟨hkind, hext, hfro⟩
      | name s => exact ⟨rfl, rfl, rfl⟩
  obtain ⟨hkind, hext, hfro⟩ := hframe
  refine ⟨hkind, hext, hfro, fun hf => ?_, size_commit hk v newLength, fun he l hl hl' => ?_⟩
  · rw [hfrozen] at hf
    cases hf
  · have hlength : (o.commit k v newLength).isLengthKey l = o.isLengthKey l := by
      rw [isLengthKey, isLengthKey, hkind]
    rw [hasOwn_iff, hlength] at hl'
    rw [hasOwn_iff]
    refine hl'.imp_right (content?_of_commit hk (fun hnone => ?_) hl)
    have h := hown he
    rw [hasOwn_iff, hlen hnone] at h
    simpa using h

end Object

/-! ## Heaps -/

namespace Heap

/-- Every object of the first heap is in the second, and is intact there. -/
structure Intact (h h' : Heap) : Prop where
  size : h.objects.size ≤ h'.objects.size
  object : ∀ id, id < h.objects.size → (h.get id).Intact (h'.get id)

theorem Intact.refl (h : Heap) : h.Intact h :=
  ⟨Nat.le_refl _, fun _ _ => .refl _⟩

theorem Intact.trans {h h' h'' : Heap} (hh : h.Intact h') (hh' : h'.Intact h'') :
    h.Intact h'' where
  size := Nat.le_trans hh.size hh'.size
  object id hid := (hh.object id hid).trans (hh'.object id (Nat.lt_of_lt_of_le hid hh.size))

theorem intact_store {h h' : Heap} {flags : StoreFlags} {t : Value} {k : Key} (hk : k.Proper)
    {v : Value} (hs : Element.store flags h t k v = .ok h') : h.Intact h' := by
  unfold Element.store at hs
  split at hs
  · rename_i id
    cases hput : (h.get id).put k v flags with
    | error e =>
      rw [hput] at hs
      cases hs
    | ok o =>
      rw [hput] at hs
      cases hs
      refine ⟨by simp [Heap.set], fun j hj => ?_⟩
      rw [get_set h id j o hj]
      split
      · rename_i hid
        exact hid ▸ Object.put_intact hk hput
      · exact .refl _
  · cases hs
  · cases hs
  · split at hs
    · cases hs
    · cases hs
      exact .refl h

theorem intact_alloc (h : Heap) (o : Object) : h.Intact (h.alloc o).2 := by
  refine ⟨by simp [alloc], fun id hid => ?_⟩
  rw [get_alloc, if_neg (Nat.ne_of_lt hid)]
  exact .refl _

end Heap

/-! ## Runs -/

theorem Step.intact {c : Option Cell} {m n : Machine} (h : Step c m n) : m.heap.Intact n.heap := by
  cases h with
  | store hk hs => exact Heap.intact_store hk hs
  | allocObject => exact Heap.intact_alloc m.heap _
  | _ => exact .refl m.heap

theorem Trail.intact {cs : List Cell} {m n : Machine} (h : Trail cs m n) :
    m.heap.Intact n.heap := by
  induction h with
  | refl m => exact .refl m.heap
  | step hs _ ih => exact hs.intact.trans ih

theorem Exec.Within.intact {α : Type} {S : Finset Cell} {Q : α → Prop} {x : Exec α}
    (h : Within S Q x) (m : Machine) : m.heap.Intact (x m).2.heap := by
  obtain ⟨⟨cs, htrail, -⟩, -⟩ := h m
  exact htrail.intact

/-- Integrity levels survive every program: on each channel, whether the run gives a result or
fails, every object that existed before it is intact after it. -/
theorem Node.run_intact (t : Node) (env : Env) (base : Nat) (m : Machine) :
    m.heap.Intact ((t.runner env base).generic m).2.heap ∧
      m.heap.Intact ((t.runner env base).int m).2.heap ∧
      m.heap.Intact ((t.runner env base).double m).2.heap :=
  have h := t.runner_within env base
  ⟨h.generic.intact m, h.int.intact m, h.double.intact m⟩

end AdaptiveTree
