import AdaptiveTree.Proofs.Object.Layout

/-!
# The values that an object holds

An object is a shape with values in it. `mapValues f` replaces every value `v` of an object by `f v`
and leaves the shape alone. What an object does under a key depends on its shape, so reading and
storing commute with the replacement (`content?_mapValues`, `put_mapValues`), as long as `f` keeps
the lengths that values stand for.

`Holds o v` says that the object holds the value, be it hidden or not. What is read from an object
is held by it (`holds_of_content?`), and after a store it holds what it held before and the value
stored (`holds_of_put`).
-/

set_option autoImplicit false

namespace AdaptiveTree

namespace Table

variable (f : Value → Value)

/-- The table with each value replaced. -/
def mapValues (t : Table) : Table :=
  ⟨t.entries.map fun e => (e.1, f e.2)⟩

@[simp] theorem get?_mapValues (t : Table) (name : String) :
    (t.mapValues f).get? name = (t.get? name).map f := by
  obtain ⟨es⟩ := t
  simp only [get?, mapValues]
  induction es with
  | nil => rfl
  | cons e es ih =>
    obtain ⟨k, v⟩ := e
    simp only [List.map_cons, List.lookup_cons]
    cases name == k with
    | true => rfl
    | false => exact ih

theorem keep_mapValues (t : Table) (test : String → Bool) :
    (t.mapValues f).keep test = (t.keep test).mapValues f := by
  simp [keep, mapValues, List.filter_map, Function.comp_def]

theorem insert_mapValues (t : Table) (name : String) (v : Value) :
    (t.mapValues f).insert name (f v) = (t.insert name v).mapValues f := by
  have h := congrArg Table.entries (t.keep_mapValues f (· != name))
  simp only [mapValues] at h
  simp only [insert, mapValues, List.map_cons]
  rw [h]

theorem mem_entries_insert {t : Table} {name other : String} {u v : Value}
    (h : (other, u) ∈ (t.insert name v).entries) : u = v ∨ (other, u) ∈ t.entries := by
  rcases List.mem_cons.1 h with h | h
  · cases h
    exact .inl rfl
  · exact .inr (List.mem_of_mem_filter h)

end Table

namespace Object

variable (f : Value → Value)

/-- The object with each value replaced. -/
def mapValues (o : Object) : Object :=
  { o with
    elements := o.elements.map (Option.map f)
    properties := o.properties.mapValues f }

@[simp] theorem kind_mapValues (o : Object) : (o.mapValues f).kind = o.kind := rfl

@[simp] theorem isLengthKey_mapValues (o : Object) (k : Key) :
    (o.mapValues f).isLengthKey k = o.isLengthKey k := rfl

@[simp] theorem dense?_mapValues (o : Object) (i : UInt32) :
    (o.mapValues f).dense? i = (o.dense? i).map f := by
  simp only [dense?, mapValues, Array.getElem?_map]
  cases o.elements[i.toNat]? with
  | none => rfl
  | some e => cases e <;> rfl

@[simp] theorem named?_mapValues (o : Object) (name : String) :
    (o.mapValues f).named? name = (o.named? name).map f :=
  Table.get?_mapValues f o.properties name

@[simp] theorem content?_mapValues (o : Object) (k : Key) :
    (o.mapValues f).content? k = (o.content? k).map f := by
  cases k with
  | index i =>
    simp only [content?, dense?_mapValues, named?_mapValues]
    cases o.dense? i <;> rfl
  | name s => exact named?_mapValues f o s

@[simp] theorem hasOwn_mapValues (o : Object) (k : Key) :
    (o.mapValues f).hasOwn k = o.hasOwn k := by
  simp only [hasOwn, get?_eq, isLengthKey_mapValues, content?_mapValues]
  split
  · rfl
  · exact Option.isSome_map

theorem rejection?_mapValues (o : Object) (k : Key) :
    (o.mapValues f).rejection? k = o.rejection? k := by
  unfold rejection?
  rw [hasOwn_mapValues]
  rfl

/-- A store at an index, split into the place of the value and the length of an array. -/
theorem putIndex_mapValues (o : Object) (i : UInt32) (v : Value) :
    (o.mapValues f).putIndex i (f v) = (o.putIndex i v).mapValues f := by
  have hsize : (o.mapValues f).elements.size = o.elements.size := by simp [mapValues]
  simp only [putIndex, hsize, kind_mapValues]
  by_cases hin : i < UInt32.ofNat o.elements.size
  · simp only [hin, if_true]
    split <;> simp [mapValues, Array.map_setIfInBounds]
  · simp only [hin, if_false]
    by_cases hgap : i - UInt32.ofNat o.elements.size ≤ maxGap
    · simp only [hgap, if_true]
      split <;> simp [mapValues]
    · simp only [hgap, if_false]
      split <;> simp [mapValues, Table.insert_mapValues]

theorem setLength_mapValues (o : Object) (n : UInt32) :
    (o.mapValues f).setLength n = (o.setLength n).mapValues f := by
  simp only [setLength, mapValues, Object.mk.injEq, true_and, and_true]
  refine ⟨by simp, ?_⟩
  by_cases hn : n < o.length
  · simp only [hn, if_true]
    exact Table.keep_mapValues f _ _
  · simp only [hn, if_false]

theorem commit_mapValues (o : Object) (k : Key) (v : Value) (n : Option UInt32) :
    (o.mapValues f).commit k (f v) n = (o.commit k v n).mapValues f := by
  cases n with
  | some n =>
    exact congrArg (fun p : Object => { p with stores := o.stores + 1 }) (setLength_mapValues f o n)
  | none =>
    cases k with
    | index i =>
      exact congrArg (fun p : Object => { p with stores := o.stores + 1 })
        (putIndex_mapValues f o i v)
    | name s => simp [commit, mapValues, Table.insert_mapValues]

theorem put_mapValues (o : Object) (k : Key) {v : Value}
    (hv : arrayLength? (f v) = arrayLength? v) (flags : StoreFlags) :
    (o.mapValues f).put k (f v) flags = (o.put k v flags).map (mapValues f) := by
  simp only [put_eq, isLengthKey_mapValues, hv, rejection?_mapValues]
  generalize (if o.isLengthKey k = true then arrayLength? v else none) = n
  cases o.isLengthKey k && n.isNone with
  | true => rfl
  | false =>
    cases o.rejection? k with
    | some why => cases flags.fails <;> rfl
    | none => exact congrArg Except.ok (commit_mapValues f o k v n)

@[simp] theorem mapValues_default : (default : Object).mapValues f = default := by
  show ordinary.mapValues f = ordinary
  simp [mapValues, ordinary, ofElements, Table.mapValues, Table.empty]

theorem mapValues_mapValues (g : Value → Value) (o : Object) :
    (o.mapValues g).mapValues f = o.mapValues (f ∘ g) := by
  simp [mapValues, Table.mapValues, Function.comp_def]

/-! ## Held values -/

/-- The object holds the value, in the vector or in the table. -/
def Holds (o : Object) (v : Value) : Prop :=
  some v ∈ o.elements ∨ ∃ name, (name, v) ∈ o.properties.entries

/-- Only the values that an object holds are replaced. -/
theorem mapValues_congr {o : Object} {g : Value → Value} (h : ∀ v, o.Holds v → f v = g v) :
    o.mapValues f = o.mapValues g := by
  have helements : o.elements.map (Option.map f) = o.elements.map (Option.map g) := by
    refine Array.map_congr_left fun e he => ?_
    cases e with
    | none => rfl
    | some v => exact congrArg some (h v (.inl he))
  have htable : o.properties.mapValues f = o.properties.mapValues g := by
    refine congrArg Table.mk (List.map_congr_left fun e he => ?_)
    rw [h e.2 (.inr ⟨e.1, he⟩)]
  simp only [mapValues, helements, htable]

variable {f}

theorem mapValues_eq_self {o : Object} (h : ∀ v, o.Holds v → f v = v) : o.mapValues f = o := by
  rw [mapValues_congr f (g := id) h]
  simp [mapValues, Table.mapValues]

theorem holds_array {vs : List Value} {v : Value} (h : (array vs).Holds v) : v ∈ vs := by
  rcases h with h | ⟨name, h⟩
  · simpa [array, ofElements] using h
  · cases h

theorem not_holds_default (v : Value) : ¬ (default : Object).Holds v := by
  rintro (h | ⟨name, h⟩)
  · exact absurd h (Array.not_mem_empty _)
  · cases h

theorem holds_mapValues {o : Object} {v : Value} (h : (o.mapValues f).Holds v) :
    ∃ u, o.Holds u ∧ v = f u := by
  rcases h with h | ⟨name, h⟩
  · obtain ⟨e, he, hev⟩ := Array.mem_map.1 h
    obtain ⟨u, rfl, hu⟩ := Option.map_eq_some_iff.1 hev
    exact ⟨u, .inl he, hu.symm⟩
  · obtain ⟨e, he, hev⟩ := List.mem_map.1 h
    cases hev
    exact ⟨e.2, .inr ⟨e.1, he⟩, rfl⟩

theorem holds_of_dense? {o : Object} {i : UInt32} {v : Value} (h : o.dense? i = some v) :
    o.Holds v :=
  .inl (Array.mem_of_getElem? (Option.join_eq_some_iff.1 h))

theorem holds_of_named? {o : Object} {name : String} {v : Value} (h : o.named? name = some v) :
    o.Holds v := by
  obtain ⟨before, after, hes, -⟩ := List.lookup_eq_some_iff.1 h
  exact .inr ⟨name, by simp [hes]⟩

theorem holds_of_content? {o : Object} {k : Key} {v : Value} (h : o.content? k = some v) :
    o.Holds v := by
  cases k with
  | name s => exact holds_of_named? h
  | index i =>
    simp only [content?, Option.or_eq_some_iff] at h
    rcases h with h | ⟨-, h⟩
    · exact holds_of_dense? h
    · exact holds_of_named? h

theorem holds_of_putIndex {o : Object} {i : UInt32} {u v : Value} (h : (o.putIndex i v).Holds u) :
    u = v ∨ o.Holds u := by
  rcases h with h | ⟨name, h⟩
  · obtain ⟨-, hes, -⟩ | ⟨-, hes, -⟩ | ⟨-, hes, -⟩ := o.putIndex_stores i v
    · rw [hes] at h
      rcases Array.mem_or_eq_of_mem_setIfInBounds h with h | h
      · exact .inr (.inl h)
      · exact .inl (Option.some.inj h)
    · rw [hes, Array.mem_push, Array.mem_append, Array.mem_replicate] at h
      rcases h with (h | ⟨-, h⟩) | h
      · exact .inr (.inl h)
      · cases h
      · exact .inl (Option.some.inj h)
    · rw [hes] at h
      exact .inr (.inl h)
  · obtain ⟨-, -, hps⟩ | ⟨-, -, hps⟩ | ⟨-, -, hps⟩ := o.putIndex_stores i v
    · rw [hps] at h
      exact .inr (.inr ⟨name, h⟩)
    · rw [hps] at h
      exact .inr (.inr ⟨name, h⟩)
    · rw [hps] at h
      exact (Table.mem_entries_insert h).imp_right fun h => .inr ⟨name, h⟩

theorem holds_of_setLength {o : Object} {n : UInt32} {u : Value} (h : (o.setLength n).Holds u) :
    o.Holds u := by
  rcases h with h | ⟨name, h⟩
  · obtain ⟨i, hi, hget⟩ := Array.mem_extract_iff_getElem.1 h
    exact .inl (hget ▸ Array.getElem_mem _)
  · refine .inr ⟨name, ?_⟩
    simp only [setLength] at h
    split at h
    · exact List.mem_of_mem_filter h
    · exact h

theorem holds_of_commit {o : Object} {k : Key} {u v : Value} {n : Option UInt32}
    (h : (o.commit k v n).Holds u) : u = v ∨ o.Holds u := by
  cases n with
  | some n => exact .inr (holds_of_setLength (n := n) h)
  | none =>
    cases k with
    | index i => exact holds_of_putIndex (i := i) h
    | name s =>
      rcases h with h | ⟨name, h⟩
      · exact .inr (.inl h)
      · exact (Table.mem_entries_insert h).imp_right fun h => .inr ⟨name, h⟩

theorem holds_of_put {o o' : Object} {k : Key} {u v : Value} {flags : StoreFlags}
    (hput : o.put k v flags = .ok o') (h : o'.Holds u) : u = v ∨ o.Holds u := by
  simp only [put_eq] at hput
  generalize (if o.isLengthKey k = true then arrayLength? v else none) = n at hput
  split at hput
  · cases hput
  · split at hput
    · split at hput
      · cases hput
      · cases hput
        exact .inr h
    · cases hput
      exact holds_of_commit h

end Object

end AdaptiveTree
