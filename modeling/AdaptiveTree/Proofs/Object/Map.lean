import AdaptiveTree.Proofs.Number.Nearest
import AdaptiveTree.Proofs.Object.Layout

/-!
# Objects as property maps

An object is one finite map from keys to values with a length, however its values are laid out.
`MapObject` is such an object: it has no vector and no table, only the map. An object and its map
object, made from the same values, go through the same operations with the same outcomes, and agree
on every answer at every point (`answers_eq`).

The proof is a simulation. `Refines o a` ties the two stores of `o` to the map of `a` key by key;
every operation preserves it (`Refines.step`), hence every run does (`Refines.run`).
-/

set_option autoImplicit false

namespace AdaptiveTree

open Key (indexText maxIndex)

/-! ## Values as lengths -/

/-- The rational number that a value converts to. -/
def Value.rational? : Value → Option ℚ
  | .undefined => none
  | .null => some 0
  | .bool b => some (if b then 1 else 0)
  | .int i => some i.toInt
  | .double d => Number.rational? d
  | .string s => Number.rational? (Number.read s)
  | .object _ | .pattern _ | .listFormat _ => none

theorem Value.rational?_eq (v : Value) : v.rational? = Number.rational? v.toNumber := by
  have hnan : Number.rational? Number.nan = none := rfl
  have hzero : Number.rational? (Number.ofInt 0) = some 0 :=
    Number.rational?_eq_intCast.2 rfl
  have hone : Number.rational? (Number.ofInt 1) = some 1 := by
    have hfit : Number.FitsDouble 1 := by
      unfold Number.FitsDouble
      decide
    simpa using Number.rational?_ofInt hfit
  cases v with
  | bool b =>
    cases b
    · exact hzero.symm
    · exact hone.symm
  | null => exact hzero.symm
  | int i => exact (Number.rational?_ofInt (fitsDouble_toInt i)).symm
  | double d => rfl
  | string s => rfl
  | _ => exact hnan.symm

/-- The length that is stored is the number that the value stands for. -/
theorem Object.arrayLength?_eq_some_iff {v : Value} {n : UInt32} :
    arrayLength? v = some n ↔ Number.integer? v.toNumber = some (n.toNat : Int) := by
  have hlt := n.toNat_lt
  unfold arrayLength?
  cases Number.integer? v.toNumber with
  | none => simp
  | some m =>
    simp only [Option.some.injEq]
    constructor
    · intro h
      split at h
      · rename_i hm
        have hfits : m.toNat < 4294967296 := by omega
        obtain rfl := Option.some.inj h
        rw [UInt32.toNat_ofNat_of_lt' hfits]
        omega
      · cases h
    · rintro rfl
      rw [if_pos (by omega), Int.toNat_natCast, UInt32.ofNat_toNat]

/-! ## Map objects -/

/-- A finite map from keys to values. -/
structure PropertyMap where
  get? : Key → Option Value
  finite : ∃ keys : List Key, ∀ k, get? k ≠ none → k ∈ keys

namespace PropertyMap

/-- No properties. -/
def empty : PropertyMap where
  get? _ := none
  finite := ⟨[], fun _ h => absurd rfl h⟩

/-- The map with a value stored under a key. -/
def insert (m : PropertyMap) (k : Key) (v : Value) : PropertyMap where
  get? l := if l = k then some v else m.get? l
  finite := by
    obtain ⟨keys, h⟩ := m.finite
    refine ⟨k :: keys, fun l hl => ?_⟩
    by_cases hk : l = k
    · exact hk ▸ List.mem_cons_self
    · exact List.mem_cons_of_mem _ (h l (by simpa [hk] using hl))

/-- The map without the indices from `n` on. -/
def below (m : PropertyMap) (n : Nat) : PropertyMap where
  get?
    | .index i => if i.toNat < n then m.get? (.index i) else none
    | .name s => m.get? (.name s)
  finite := by
    obtain ⟨keys, h⟩ := m.finite
    refine ⟨keys, fun l hl => h l ?_⟩
    cases l with
    | index i =>
      intro hn
      simp [hn] at hl
    | name s => exact hl

/-- The map of a list of values by their places. -/
def ofList (values : List Value) : PropertyMap where
  get?
    | .index i => values[i.toNat]?
    | .name _ => none
  finite := by
    refine ⟨(List.range values.length).map fun i => .index (UInt32.ofNat i), fun l hl => ?_⟩
    cases l with
    | index i =>
      have hi : i.toNat < values.length := by
        by_contra hge
        exact hl (List.getElem?_eq_none (by omega))
      exact List.mem_map.2 ⟨i.toNat, List.mem_range.2 hi, by simp⟩
    | name s => exact absurd rfl hl

/-- The map of a list of named values; of two under one key the later stands. -/
def ofPairs (pairs : List (String × Value)) : PropertyMap :=
  pairs.foldl (fun m (n, v) => m.insert (.ofString n) v) .empty

end PropertyMap

/-- An object that is a map: what is under its keys, and a length that only an array uses. -/
structure MapObject where
  kind : ObjectClass
  map : PropertyMap
  length : Nat
  extensible : Bool
  frozen : Bool
  stores : Nat

namespace MapObject

/-- A new object with the given map. -/
def ofMap (kind : ObjectClass) (map : PropertyMap) (length : Nat) : MapObject :=
  ⟨kind, map, length, true, false, 0⟩

/-- Whether the key is the length of an array. -/
def isLengthKey (a : MapObject) (k : Key) : Bool :=
  a.kind == .array && k == .name "length"

/-- The value that a length reads as: an integer of 32 bits if it is one, and a double otherwise. -/
def lengthValue (n : Nat) : Value :=
  if n < 2147483648 then .int (Int32.ofInt n) else .double (Number.ofInt n)

theorem number_ofInt {n : Nat} (hn : n < 4294967296) :
    Value.number (Number.ofInt n) = lengthValue n := by
  have hfit : Number.FitsDouble n := by
    unfold Number.FitsDouble
    omega
  have hzero : Number.isNegativeZero (Number.ofInt n) = false := Number.isNegativeZero_ofInt hfit
  unfold Value.number lengthValue
  rw [Number.integer?_ofInt hfit]
  by_cases hsmall : n < 2147483648
  · have hint : Value.fitsInt32 n = true := Value.fitsInt32_iff.2 (by omega)
    simp [hsmall, hint, hzero]
  · have hint : Value.fitsInt32 n = false := by
      rw [← Bool.not_eq_true, Value.fitsInt32_iff]
      omega
    simp [hsmall, hint]

/-- What stands under a key; the length of an array always stands under its key. -/
def get? (a : MapObject) (k : Key) : Option Value :=
  if a.isLengthKey k then some (lengthValue a.length) else a.map.get? k

/-- The value under a key; what is absent reads as undefined. -/
def get (a : MapObject) (k : Key) : Value :=
  (a.get? k).getD .undefined

/-- Whether the object has the key. -/
def hasOwn (a : MapObject) (k : Key) : Bool :=
  (a.get? k).isSome

/-- The object after a store under a key. An index raises the length of an array above it. -/
def commit (a : MapObject) (k : Key) (v : Value) : MapObject :=
  { a with
    map := a.map.insert k v
    length :=
      match a.kind, k with
      | .array, .index i => max a.length (i.toNat + 1)
      | _, _ => a.length
    stores := a.stores + 1 }

/-- The object after a store to the length of an array, which deletes the indices from it on. -/
def resize (a : MapObject) (n : Nat) : MapObject :=
  { a with map := a.map.below n, length := n, stores := a.stores + 1 }

/-- A store that is refused: it fails if it is strict or defines an own property, and the object
stays as it is in any case. -/
def refuse (a : MapObject) (why : Rejection) (k : Key) (flags : StoreFlags) :
    Except Fault Unit × MapObject :=
  (if flags.strict || flags.own then .error (.rejected why flags.own k) else .ok (), a)

/-- A store that the object has no reason to call invalid: it is refused by a frozen object, and
under an absent key by one that is not extensible. -/
def attempt (a : MapObject) (k : Key) (flags : StoreFlags) (stored : MapObject) :
    Except Fault Unit × MapObject :=
  if a.frozen then a.refuse .frozen k flags
  else if !a.extensible && !a.hasOwn k then a.refuse .notExtensible k flags
  else (.ok (), stored)

/-- The length that a value stands for: the number that it converts to, if that is a natural number
of 32 bits. -/
def lengthOf? (v : Value) : Option Nat :=
  v.rational?.bind fun q => if q = ⌊q⌋₊ ∧ q < 4294967296 then some ⌊q⌋₊ else none

theorem lengthOf?_eq_some {v : Value} {n : Nat} :
    lengthOf? v = some n ↔ v.rational? = some (n : ℚ) ∧ n < 4294967296 := by
  simp only [lengthOf?, Option.bind_eq_some_iff, Option.ite_none_right_eq_some, Option.some.injEq]
  constructor
  · rintro ⟨q, hq, ⟨hnat, hlt⟩, rfl⟩
    generalize ⌊q⌋₊ = m at hnat ⊢
    subst hnat
    exact ⟨hq, by exact_mod_cast hlt⟩
  · rintro ⟨hv, hn⟩
    refine ⟨n, hv, ⟨?_, by exact_mod_cast hn⟩, Nat.floor_natCast n⟩
    rw [Nat.floor_natCast]

/-- An array takes the lengths that values stand for. -/
theorem lengthOf?_eq (v : Value) : lengthOf? v = (Object.arrayLength? v).map UInt32.toNat := by
  ext n
  rw [lengthOf?_eq_some, v.rational?_eq, Option.map_eq_some_iff, ← Int.cast_natCast,
    Number.rational?_eq_intCast]
  constructor
  · rintro ⟨hv, hn⟩
    have hn' : (UInt32.ofNat n).toNat = n := UInt32.toNat_ofNat_of_lt' hn
    exact ⟨UInt32.ofNat n, Object.arrayLength?_eq_some_iff.2 (by rw [hn', hv]), hn'⟩
  · rintro ⟨m, hm, rfl⟩
    exact ⟨Object.arrayLength?_eq_some_iff.1 hm, m.toNat_lt⟩

/-- Stores a value under a key: the outcome, and the object after it. Only what stands for a length
can be stored to the length of an array. -/
def store (a : MapObject) (k : Key) (v : Value) (flags : StoreFlags) :
    Except Fault Unit × MapObject :=
  if a.isLengthKey k then
    match lengthOf? v with
    | none => (.error .invalidLength, a)
    | some n => a.attempt k flags (a.resize n)
  else a.attempt k flags (a.commit k v)

/-- Forbids new keys. -/
def preventExtensions (a : MapObject) : MapObject :=
  { a with extensible := false }

/-- Forbids all stores. -/
def freeze (a : MapObject) : MapObject :=
  { a with extensible := false, frozen := true }

end MapObject

/-! ## Runs of operations -/

/-- How an object is made. An array has no more values than its length can count. -/
inductive Start where
  | array (values : List Value) (fits : values.length < 4294967296)
  | ordinary
  | pairs (pairs : List (String × Value))

/-- The object that is made. -/
def Start.object : Start → Object
  | .array values _ => .array values
  | .ordinary => .ordinary
  | .pairs ps => .ofPairs ps

/-- The map object that is made. -/
def Start.mapObject : Start → MapObject
  | .array values _ => .ofMap .array (.ofList values) values.length
  | .ordinary => .ofMap .ordinary .empty 0
  | .pairs ps => .ofMap .ordinary (.ofPairs ps) 0

/-- An operation on an object. The key of a store is the one that some value addresses. -/
inductive Operation where
  | put (heap : Heap) (property value : Value) (flags : StoreFlags)
  | preventExtensions
  | freeze

/-- What can be done to an object of some kind. -/
structure Operations (σ : Type) where
  store : σ → Key → Value → StoreFlags → Except Fault Unit × σ
  preventExtensions : σ → σ
  freeze : σ → σ

namespace Operations

variable {σ : Type} (i : Operations σ)

/-- Performs an operation: its outcome and the object after it. -/
def step (s : σ) : Operation → Except Fault Unit × σ
  | .put h w v flags => i.store s (h.key w) v flags
  | .preventExtensions => (.ok (), i.preventExtensions s)
  | .freeze => (.ok (), i.freeze s)

/-- Performs operations one after the other: their outcomes and the object at the end. -/
def run (s : σ) : List Operation → List (Except Fault Unit) × σ
  | [] => ([], s)
  | op :: ops =>
    let (outcome, s) := i.step s op
    let (outcomes, s) := run s ops
    (outcome :: outcomes, s)

end Operations

/-- The operations of objects. -/
def Object.operations : Operations Object :=
  ⟨Object.store, Object.preventExtensions, Object.freeze⟩

/-- The operations of map objects. -/
def MapObject.operations : Operations MapObject :=
  ⟨MapObject.store, MapObject.preventExtensions, MapObject.freeze⟩

/-! ## The simulation -/

/-- The stores of `o` together hold what the map of `a` holds, and all else is the same. -/
structure Refines (o : Object) (a : MapObject) : Prop where
  kind : o.kind = a.kind
  content : ∀ k : Key, k.Proper → o.content? k = a.map.get? k
  length : o.length.toNat = a.length
  extensible : o.extensible = a.extensible
  frozen : o.frozen = a.frozen
  stores : o.stores = a.stores
  bounded : o.Bounded

namespace Refines

variable {o : Object} {a : MapObject}

theorem isLengthKey (h : Refines o a) (k : Key) : o.isLengthKey k = a.isLengthKey k := by
  unfold Object.isLengthKey MapObject.isLengthKey
  rw [h.kind]

theorem get? (h : Refines o a) {k : Key} (hk : k.Proper) : o.get? k = a.get? k := by
  have hlt : a.length < 4294967296 := h.length ▸ o.length.toNat_lt
  rw [Object.get?_eq, MapObject.get?, h.isLengthKey, h.length, h.content k hk,
    MapObject.number_ofInt hlt]

theorem get (h : Refines o a) {k : Key} (hk : k.Proper) : o.get k = a.get k := by
  unfold Object.get MapObject.get
  rw [h.get? hk]

theorem hasOwn (h : Refines o a) {k : Key} (hk : k.Proper) : o.hasOwn k = a.hasOwn k := by
  unfold Object.hasOwn MapObject.hasOwn
  rw [h.get? hk]

theorem count (h : Refines o a) :
    Refines { o with stores := o.stores + 1 } { a with stores := a.stores + 1 } where
  kind := h.kind
  content := h.content
  length := h.length
  extensible := h.extensible
  frozen := h.frozen
  stores := congrArg (· + 1) h.stores
  bounded := ⟨h.bounded.size, h.bounded.dense, h.bounded.named⟩

/-- A store under a name. -/
theorem insert (h : Refines o a) {s : String} (hs : (Key.name s).Proper) (v : Value) :
    Refines { o with properties := o.properties.insert s v }
      { a with map := a.map.insert (.name s) v } where
  kind := h.kind
  content l hl := by
    have hc := Object.content?_insert o hs v (by simp) hl
    rw [h.content l hl] at hc
    exact hc
  length := h.length
  extensible := h.extensible
  frozen := h.frozen
  stores := h.stores
  bounded := h.bounded.insert (Key.proper_name.1 hs) v

/-- A store at an index. -/
theorem putIndex (h : Refines o a) {i : UInt32} (hi : (Key.index i).Proper) (v : Value) :
    Refines (o.putIndex i v)
      { a with
        map := a.map.insert (.index i) v
        length := if a.kind = .array then max a.length (i.toNat + 1) else a.length } := by
  have hle := Key.proper_index.1 hi
  obtain ⟨hkind, hext, hfrozen, hstores, hlen⟩ := Object.putIndex_frame o i v
  refine ⟨hkind.trans h.kind, fun l hl => ?_, ?_, hext.trans h.extensible, hfrozen.trans h.frozen,
    hstores.trans h.stores, h.bounded.putIndex hle v⟩
  · rw [Object.content?_putIndex h.bounded.size hle v hl, h.content l hl]
    rfl
  · by_cases ha : o.kind = .array
    · simp only [Object.length_putIndex ha hle, h.length, ← h.kind, ha, if_true]
    · simp only [hlen ha, h.length, ← h.kind, ha, if_false]

theorem commit (h : Refines o a) {k : Key} (hk : k.Proper) (v : Value) :
    Refines (o.commit k v none) (a.commit k v) := by
  cases k with
  | name s =>
    have hr := (h.insert hk v).count
    cases hkind : a.kind <;> simpa [Object.commit, MapObject.commit, hkind] using hr
  | index i =>
    have hr := (h.putIndex hk v).count
    rw [(Object.putIndex_frame o i v).2.2.2.1] at hr
    cases hkind : a.kind <;> simpa [Object.commit, MapObject.commit, hkind] using hr

/-- A store to the length of an array. -/
theorem resize (h : Refines o a) (ha : o.kind = .array) (k : Key) (v : Value) (n : UInt32) :
    Refines (o.commit k v (some n)) (a.resize n.toNat) where
  kind := h.kind
  content l hl := by
    have hc := Object.content?_setLength h.bounded ha n hl
    rw [h.content l hl] at hc
    show (o.setLength n).content? l = _
    rw [hc]
    cases l with
    | index j =>
      simp only [UInt32.lt_iff_toNat_lt]
      rfl
    | name s => rfl
  length := rfl
  extensible := h.extensible
  frozen := h.frozen
  stores := congrArg (· + 1) h.stores
  bounded :=
    have hb := h.bounded.setLength ha n
    ⟨hb.size, hb.dense, hb.named⟩

/-- The reasons to refuse a store are the same. -/
theorem attempt (h : Refines o a) {k : Key} (hk : k.Proper) (flags : StoreFlags) {o' : Object}
    {a' : MapObject} (h' : Refines o' a') :
    let stored : Except Fault Unit × Object :=
      match o.rejection? k with
      | some why => (if flags.fails then .error (.rejected why flags.own k) else .ok (), o)
      | none => (.ok (), o')
    stored.1 = (a.attempt k flags a').1 ∧ Refines stored.2 (a.attempt k flags a').2 := by
  unfold Object.rejection? MapObject.attempt MapObject.refuse
  rw [h.frozen, h.extensible, h.hasOwn hk]
  cases a.frozen with
  | true => exact ⟨rfl, h⟩
  | false =>
    cases !a.extensible && !a.hasOwn k with
    | true => exact ⟨rfl, h⟩
    | false => exact ⟨rfl, h'⟩

/-- A store has the same outcome on both and keeps them in agreement. -/
theorem store (h : Refines o a) {k : Key} (hk : k.Proper) (v : Value) (flags : StoreFlags) :
    (o.store k v flags).1 = (a.store k v flags).1 ∧
      Refines (o.store k v flags).2 (a.store k v flags).2 := by
  unfold Object.store MapObject.store
  rw [← h.isLengthKey, MapObject.lengthOf?_eq]
  cases hl : o.isLengthKey k with
  | true =>
    have ha : o.kind = .array := by
      unfold Object.isLengthKey at hl
      simpa using (Bool.and_eq_true_iff.1 hl).1
    cases hn : Object.arrayLength? v with
    | none => exact ⟨rfl, h⟩
    | some n => exact h.attempt hk flags (h.resize ha k v n)
  | false => exact h.attempt hk flags (h.commit hk v)

/-- One operation has the same outcome on both and keeps them in agreement. -/
theorem step (h : Refines o a) (op : Operation) :
    (Object.operations.step o op).1 = (MapObject.operations.step a op).1 ∧
      Refines (Object.operations.step o op).2 (MapObject.operations.step a op).2 := by
  cases op with
  | put heap w v flags => exact h.store (heap.key_proper w) v flags
  | preventExtensions =>
    refine ⟨rfl, h.kind, h.content, h.length, rfl, h.frozen, h.stores, ?_⟩
    exact ⟨h.bounded.size, h.bounded.dense, h.bounded.named⟩
  | freeze =>
    refine ⟨rfl, h.kind, h.content, h.length, rfl, rfl, h.stores, ?_⟩
    exact ⟨h.bounded.size, h.bounded.dense, h.bounded.named⟩

/-- So do any number of operations. -/
theorem run (h : Refines o a) (ops : List Operation) :
    (Object.operations.run o ops).1 = (MapObject.operations.run a ops).1 ∧
      Refines (Object.operations.run o ops).2 (MapObject.operations.run a ops).2 := by
  induction ops generalizing o a with
  | nil => exact ⟨rfl, h⟩
  | cons op ops ih =>
    obtain ⟨hout, hstep⟩ := h.step op
    obtain ⟨houts, hrun⟩ := ih hstep
    exact ⟨congr (congrArg List.cons hout) houts, hrun⟩

/-! ## How objects are made -/

theorem array {values : List Value} (fits : values.length < 4294967296) :
    Refines (.array values) (.ofMap .array (.ofList values) values.length) := by
  have hlen : (Object.array values).length.toNat = values.length := by
    simp [Object.array, Object.ofElements]
    omega
  refine ⟨rfl, fun k _ => ?_, hlen, rfl, rfl, rfl, ?_⟩
  · cases k with
    | name s => rfl
    | index i =>
      show ((Object.array values).dense? i).or none = values[i.toNat]?
      simp only [Object.dense?, Object.array, Object.ofElements, Option.or_none,
        List.getElem?_toArray, List.getElem?_map]
      cases values[i.toNat]? <;> rfl
  · refine ⟨?_, fun _ => ?_, fun _ i _ hn => absurd rfl hn⟩
    · simp [Object.array, Object.ofElements, maxIndex]
      omega
    · rw [hlen]
      simp [Object.array, Object.ofElements]

theorem pairs (ps : List (String × Value)) :
    Refines (.ofPairs ps) (.ofMap .ordinary (.ofPairs ps) 0) := by
  -- the table and the map are filled side by side
  have hfill : ∀ (t : Table) (m : PropertyMap), (∀ k : Key, k.Proper → t.get? k.text = m.get? k) →
      ∀ k : Key, k.Proper →
        (ps.foldl (fun t (n, v) => t.insert n v) t).get? k.text =
          (ps.foldl (fun m (n, v) => m.insert (.ofString n) v) m).get? k := by
    induction ps with
    | nil => exact fun t m h => h
    | cons p ps ih =>
      intro t m h
      refine ih _ _ fun k hk => ?_
      have htext : k.text = p.1 ↔ k = .ofString p.1 :=
        ⟨fun he => by rw [← he, hk], fun he => by rw [he, Key.text_ofString]⟩
      rw [Table.get?_insert, h k hk]
      exact if_congr htext rfl rfl
  refine ⟨rfl, fun k hk => ?_, rfl, rfl, rfl, rfl, ?_⟩
  · have hk' := hfill .empty .empty (fun _ _ => rfl) k hk
    cases k <;> exact hk'
  · have hkind : (Object.ofPairs ps).kind ≠ .array := nofun
    exact ⟨Nat.zero_le _, fun h => absurd h hkind, fun h => absurd h hkind⟩

theorem start (s : Start) : Refines s.object s.mapObject := by
  cases s with
  | array values fits => exact array fits
  | ordinary => exact pairs []
  | pairs ps => exact pairs ps

end Refines

/-- What a store that a value addresses does: its work if it does not fail, and else nothing. -/
theorem Object.step_put (o : Object) (h : Heap) (w v : Value) (flags : StoreFlags) :
    operations.step o (.put h w v flags) =
      match o.put (h.key w) v flags with
      | .ok stored => (.ok (), stored)
      | .error e => (.error e, o) :=
  o.store_eq (h.key w) v flags

/-- A store that is refused or fails leaves the object as it was. -/
theorem Object.step_put_of_refused {o : Object} {h : Heap} {w v : Value} {flags : StoreFlags}
    (hrefused : o.frozen ∨ (!o.extensible ∧ !o.hasOwn (h.key w)) ∨
      (operations.step o (.put h w v flags)).1 ≠ .ok ()) :
    (operations.step o (.put h w v flags)).2 = o := by
  rw [step_put] at hrefused ⊢
  cases hput : o.put (h.key w) v flags with
  | error e => rfl
  | ok stored =>
    obtain rfl | ⟨hrej, -⟩ := put_cases hput
    · rfl
    simp only [hput, ne_eq, not_true_eq_false, or_false] at hrefused
    unfold rejection? at hrej
    rcases hrefused with hfrozen | ⟨hext, hown⟩
    · rw [if_pos hfrozen] at hrej
      cases hrej
    · rw [hext, hown] at hrej
      split at hrej <;> cases hrej

/-- An object answers as its map object does, after any operations: the same outcomes, the same
values and presence under every key that a value addresses, the same length and number of stores.
A store that is refused or fails leaves the object as it was. -/
theorem answers_eq (start : Start) (ops : List Operation) :
    let (outcomes, o) := Object.operations.run start.object ops
    let (mapOutcomes, a) := MapObject.operations.run start.mapObject ops
    outcomes = mapOutcomes ∧
      (∀ (h : Heap) (w : Value),
        o.get (h.key w) = a.get (h.key w) ∧ o.hasOwn (h.key w) = a.hasOwn (h.key w)) ∧
      o.kind = a.kind ∧ o.length.toNat = a.length ∧ o.extensible = a.extensible ∧
      o.frozen = a.frozen ∧ o.stores = a.stores ∧
      ∀ (h : Heap) (w v : Value) (flags : StoreFlags),
        o.frozen ∨ (!o.extensible ∧ !o.hasOwn (h.key w)) ∨
            (Object.operations.step o (.put h w v flags)).1 ≠ .ok () →
          (Object.operations.step o (.put h w v flags)).2 = o := by
  obtain ⟨hout, href⟩ := (Refines.start start).run ops
  refine ⟨hout, fun h w => ⟨href.get (h.key_proper w), href.hasOwn (h.key_proper w)⟩, href.kind,
    href.length, href.extensible, href.frozen, href.stores,
    fun h w v flags => Object.step_put_of_refused⟩

end AdaptiveTree
