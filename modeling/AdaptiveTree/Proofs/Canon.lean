import AdaptiveTree.Exec.Element
import AdaptiveTree.Proofs.Reflect

/-!
# The representation of numbers

An integer of 32 bits and the double of the same value are the same number. `canon` gives values,
objects and heaps with all their numbers as doubles. Everything that a program can observe depends
on the canonical forms only: the texts of values and the keys they address (`display_canon`,
`key_canon`), reading and storing elements (`read_canon`, `store_canon`), arithmetic (`apply_canon`)
and the making of list formats (`make_canon`).
-/

set_option autoImplicit false

namespace AdaptiveTree

open Number

namespace Value

/-- The value with a number as a double. -/
def canon : Value → Value
  | .int i => .double (widen i)
  | v => v

@[simp] theorem canon_canon (v : Value) : v.canon.canon = v.canon := by
  cases v <;> rfl

@[simp] theorem toNumber_canon (v : Value) : v.canon.toNumber = v.toNumber := by
  cases v <;> rfl

@[simp] theorem typeName_canon (v : Value) : v.canon.typeName = v.typeName := by
  cases v <;> rfl

@[simp] theorem isNullish_canon (v : Value) : v.canon.isNullish = v.isNullish := by
  cases v <;> rfl

theorem canon_eq_object {v : Value} {id : Nat} : v.canon = .object id ↔ v = .object id := by
  cases v <;> simp [canon]

theorem canon_eq_pattern {v : Value} {p : Handle Pattern} :
    v.canon = .pattern p ↔ v = .pattern p := by
  cases v <;> simp [canon]

/-- A number is canonically its double. -/
@[simp] theorem canon_number (d : Float) : (number d).canon = .double d := by
  rcases number_cases d with h | ⟨i, h, hi⟩
  · rw [h]
    rfl
  · rw [h, ← hi]
    rfl

end Value

theorem Value.canon_faithful : Faithful Value.canon id where
  undefined := rfl
  null := rfl
  bool _ := rfl
  int _ := .inr rfl
  double _ := rfl
  string _ := rfl
  object _ := rfl
  pattern _ := rfl
  listFormat l := ⟨l, rfl, rfl⟩

/-- The table with numbers as doubles. -/
def Table.canon (t : Table) : Table :=
  ⟨t.entries.map fun e => (e.1, e.2.canon)⟩

namespace Object

/-- The object with numbers as doubles. -/
def canon (o : Object) : Object :=
  { o with
    elements := o.elements.map (Option.map Value.canon)
    properties := o.properties.canon }

theorem canon_eq_mapValues (o : Object) : o.canon = o.mapValues Value.canon := rfl

@[simp] theorem canon_canon (o : Object) : o.canon.canon = o.canon := by
  simp only [canon_eq_mapValues, mapValues_mapValues]
  exact mapValues_congr _ fun v _ => v.canon_canon

theorem get_canon (o : Object) (k : Key) : (o.canon.get k).canon = (o.get k).canon := by
  rw [canon_eq_mapValues]
  simp only [get, get?_eq, isLengthKey_mapValues, content?_mapValues]
  split
  · rfl
  · cases o.content? k with
    | none => rfl
    | some v => exact v.canon_canon

theorem canon_put (o : Object) (k : Key) (v : Value) (flags : StoreFlags) :
    (o.put k v flags).map canon = o.canon.put k v.canon flags :=
  (o.put_mapValues Value.canon k (Value.canon_faithful.arrayLength? v) flags).symm

end Object

namespace Heap

/-- The heap with numbers as doubles. -/
def canon (h : Heap) : Heap :=
  ⟨h.objects.map Object.canon⟩

@[simp] theorem size_canon (h : Heap) : h.canon.objects.size = h.objects.size := by
  simp [canon]

@[simp] theorem get_canon (h : Heap) (id : Nat) : h.canon.get id = (h.get id).canon := by
  simp only [get, canon, Array.getD_eq_getD_getElem?, Array.getElem?_map]
  cases h.objects[id]? with
  | none => exact (Object.mapValues_default Value.canon).symm
  | some o => rfl

@[simp] theorem canon_canon (h : Heap) : h.canon.canon = h.canon := by
  simp [canon, Function.comp_def]

theorem canon_set (h : Heap) (id : Nat) (o : Object) :
    (h.set id o).canon = h.canon.set id o.canon := by
  simp [set, canon, Array.map_setIfInBounds]

theorem canon_alloc (h : Heap) (o : Object) : (h.alloc o).2.canon = (h.canon.alloc o.canon).2 := by
  simp [alloc, canon]

theorem canon_reflects (h : Heap) : h.Reflects Value.canon id (fun _ => True) h.canon where
  get id _ := h.get_canon id
  closed _ _ _ _ := trivial

/-- The text of a value depends on canonical forms only. -/
@[simp] theorem display_canon (h : Heap) (v : Value) : h.canon.display v.canon = h.display v :=
  h.canon_reflects.display Value.canon_faithful fun _ _ => trivial

@[simp] theorem key_canon (h : Heap) (v : Value) : h.canon.key v.canon = h.key v :=
  h.canon_reflects.key Value.canon_faithful fun _ _ => trivial

end Heap

/-! ## Arithmetic -/

namespace Op

@[simp] theorem joins_canon (v : Value) : joins v.canon = joins v := by
  cases v <;> rfl

theorem applyWide_canon (op : Op) (h : Heap) (l r : Value) :
    op.applyWide h.canon l.canon r.canon = op.applyWide h l r := by
  simp [applyWide]

/-- Where an operator has a result on integers, it has the same number as result on doubles. -/
theorem applyInt_canon {op : Op} {a b i : Int32} (hi : op.applyInt a b = some i) (h : Heap) :
    (op.applyWide h (.int a) (.int b)).canon = (Value.int i).canon := by
  have hwide : op.applyWide h (.int a) (.int b) =
      Value.number (op.applyDouble (Value.widen a) (Value.widen b)) := by
    simp [applyWide, joins, Value.toNumber]
  rw [hwide, Value.canon_number, applyDouble_widen hi]
  rfl

/-- The result of an operator is canonically the one by way of texts or doubles. -/
theorem apply_eq_applyWide (op : Op) (h : Heap) (l r : Value) :
    (op.apply h l r).canon = (op.applyWide h l r).canon := by
  unfold apply
  split
  · split
    · rename_i hi
      exact (applyInt_canon hi h).symm
    · rfl
  · rfl

theorem apply_canon (op : Op) (h : Heap) (l r : Value) :
    (op.apply h.canon l.canon r.canon).canon = (op.apply h l r).canon := by
  rw [apply_eq_applyWide, apply_eq_applyWide, applyWide_canon]

end Op

/-! ## Elements -/

namespace Element

theorem read_canon (h : Heap) (t : Value) (k : Key) :
    (read h.canon t.canon k).map Value.canon = (read h t k).map Value.canon := by
  cases t with
  | object id =>
    show Except.ok ((h.canon.get id).get k).canon = Except.ok ((h.get id).get k).canon
    rw [Heap.get_canon, Object.get_canon]
  | _ => rfl

/-- A store to what is neither an object nor nullish. -/
theorem store_of_primitive (flags : StoreFlags) (h : Heap) {t : Value} (hobj : ∀ id, t ≠ .object id)
    (hnull : t.isNullish = false) (k : Key) (v : Value) :
    store flags h t k v =
      if flags.fails then .error (.primitiveTarget k t.typeName (h.display t)) else .ok h := by
  cases t with
  | object id => exact absurd rfl (hobj id)
  | undefined | null => cases hnull
  | _ => rfl

theorem canon_store_of_primitive (flags : StoreFlags) (h : Heap) {t : Value}
    (hobj : ∀ id, t ≠ .object id) (hnull : t.isNullish = false) (k : Key) (v : Value) :
    (store flags h t k v).map Heap.canon = store flags h.canon t.canon k v.canon := by
  have hobj' : ∀ id, t.canon ≠ .object id := fun id hid => hobj id (Value.canon_eq_object.1 hid)
  have hnull' : t.canon.isNullish = false := by rw [Value.isNullish_canon, hnull]
  rw [store_of_primitive flags h hobj hnull, store_of_primitive flags _ hobj' hnull',
    Value.typeName_canon, Heap.display_canon]
  cases flags.fails <;> rfl

theorem store_canon (flags : StoreFlags) (h : Heap) (t : Value) (k : Key) (v : Value) :
    (store flags h t k v).map Heap.canon = store flags h.canon t.canon k v.canon := by
  cases t with
  | object id =>
    show (((h.get id).put k v flags).map fun o => h.set id o).map Heap.canon =
      ((h.canon.get id).put k v.canon flags).map fun o => h.canon.set id o
    rw [Heap.get_canon, ← Object.canon_put]
    cases (h.get id).put k v flags with
    | error e => rfl
    | ok o => exact congrArg Except.ok (Heap.canon_set h id o)
  | undefined | null => rfl
  | _ => exact canon_store_of_primitive flags h (by simp) (by rfl) k v

end Element

/-! ## List formats -/

/-- A list format is made from canonical forms. -/
theorem Locale.make_canon (h : Heap) (d : Data) (l o : Value) :
    ListFormat.make h.canon d l.canon o.canon = ListFormat.make h d l o :=
  h.canon_reflects.make Value.canon_faithful d (fun _ _ => trivial) fun _ _ => trivial

end AdaptiveTree
