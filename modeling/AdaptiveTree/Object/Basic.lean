import AdaptiveTree.Fault
import AdaptiveTree.Object.Table

/-!
# Objects

An object keeps the values of low indices in a vector with holes and all other values in a table of
names, where an index stands under its decimal text. An array also has a length, which is above
every index in use and can be stored to. An object that is not extensible takes no new keys, and a
frozen one takes no stores at all.
-/

set_option autoImplicit false

namespace AdaptiveTree

/-- The two classes of objects. -/
inductive ObjectClass where
  | ordinary
  | array
deriving DecidableEq, Repr

/-- How a store treats a rejection: it fails when the store is strict or defines an own property,
and is ignored otherwise. -/
structure StoreFlags where
  strict : Bool := false
  own : Bool := false
deriving DecidableEq, Repr

/-- Whether a rejected store fails. -/
def StoreFlags.fails (f : StoreFlags) : Bool :=
  f.strict || f.own

/-- An object. -/
structure Object where
  kind : ObjectClass
  elements : Array (Option Value)
  properties : Table
  length : UInt32
  extensible : Bool
  frozen : Bool
  /-- Number of stores that were carried out. -/
  stores : Nat

namespace Object

/-- Indices further than this past the end of the vector go to the table. -/
def maxGap : UInt32 := 1024

/-- A new object with the given vector. -/
def ofElements (kind : ObjectClass) (elements : Array (Option Value)) : Object where
  kind := kind
  elements := elements
  properties := .empty
  length := UInt32.ofNat elements.size
  extensible := true
  frozen := false
  stores := 0

/-- An ordinary object without properties. -/
def ordinary : Object :=
  ofElements .ordinary #[]

instance : Inhabited Object := ⟨ordinary⟩

/-- An array of the given values. -/
def array (values : List Value) : Object :=
  ofElements .array (values.map some).toArray

/-- An ordinary object with the given named properties; of two with one name the later stands. -/
def ofPairs (pairs : List (String × Value)) : Object :=
  { ordinary with properties := pairs.foldl (fun t (n, v) => t.insert n v) .empty }

/-- The value at an index of the vector. -/
def dense? (o : Object) (i : UInt32) : Option Value :=
  (o.elements[i.toNat]?).join

/-- The value under a name in the table. -/
def named? (o : Object) (name : String) : Option Value :=
  o.properties.get? name

/-- Whether the key is the length of an array. -/
def isLengthKey (o : Object) (key : Key) : Bool :=
  o.kind == .array && key == .name "length"

/-- The value under a key, if the object has the key. -/
def get? (o : Object) (key : Key) : Option Value :=
  if o.isLengthKey key then some (Value.number (Number.ofInt o.length.toNat))
  else
    match key with
    | .index i => (o.dense? i).or (o.named? (Key.indexText i))
    | .name s => o.named? s

/-- The value under a key; what the object does not have reads as undefined. -/
def get (o : Object) (key : Key) : Value :=
  (o.get? key).getD .undefined

/-- Whether the object has the key. -/
def hasOwn (o : Object) (key : Key) : Bool :=
  (o.get? key).isSome

/-- Forbids new keys. -/
def preventExtensions (o : Object) : Object :=
  { o with extensible := false }

/-- Forbids all stores. -/
def freeze (o : Object) : Object :=
  { o with extensible := false, frozen := true }

/-- Why a store under the key is refused, if it is. -/
def rejection? (o : Object) (key : Key) : Option Rejection :=
  if o.frozen then some .frozen
  else if !o.extensible && !o.hasOwn key then some .notExtensible
  else none

/-- The length that a value stands for, if it is a valid one. -/
def arrayLength? (v : Value) : Option UInt32 :=
  match Number.integer? v.toNumber with
  | some n => if 0 ≤ n ∧ n < 4294967296 then some (UInt32.ofNat n.toNat) else none
  | none => none

/-- Stores a value at an index: in the vector if the index is in it or not far past its end, and in
the table otherwise. -/
def putIndex (o : Object) (i : UInt32) (v : Value) : Object :=
  let size := UInt32.ofNat o.elements.size
  let stored :=
    if i < size then { o with elements := o.elements.setIfInBounds i.toNat (some v) }
    else if i - size ≤ maxGap then
      { o with
        elements :=
          (o.elements ++ Array.replicate (i.toNat - o.elements.size) none).push (some v) }
    else { o with properties := o.properties.insert (Key.indexText i) v }
  if o.kind = .array then { stored with length := max o.length (i + 1) } else stored

/-- Sets the length of an array; what stands at or above the new length is dropped. -/
def setLength (o : Object) (n : UInt32) : Object :=
  { o with
    elements := o.elements.take n.toNat
    length := n
    properties :=
      if n < o.length then
        o.properties.keep fun name =>
          match Key.parseIndex? name with
          | some i => i < n
          | none => true
      else o.properties }

/-- Carries out a store that is not refused; `newLength` is given for a store to the length of an
array. -/
def commit (o : Object) (key : Key) (v : Value) (newLength : Option UInt32) : Object :=
  let stored :=
    match newLength, key with
    | some n, _ => o.setLength n
    | none, .index i => o.putIndex i v
    | none, .name s => { o with properties := o.properties.insert s v }
  { stored with stores := o.stores + 1 }

/-- Stores a value under a key: the outcome, and the object after it. A value that is not a valid
length cannot be stored to the length of an array in any mode; after that a refused store fails or
is ignored as the flags say. -/
def store (o : Object) (key : Key) (v : Value) (flags : StoreFlags) : Except Fault Unit × Object :=
  let newLength := if o.isLengthKey key then arrayLength? v else none
  if o.isLengthKey key && newLength.isNone then (.error .invalidLength, o)
  else
    match o.rejection? key with
    | some why => (if flags.fails then .error (.rejected why flags.own key) else .ok (), o)
    | none => (.ok (), o.commit key v newLength)

/-- The object after a store that does not fail. -/
def put (o : Object) (key : Key) (v : Value) (flags : StoreFlags) : Except Fault Object :=
  let (outcome, stored) := o.store key v flags
  outcome.map fun _ => stored

theorem put_eq (o : Object) (key : Key) (v : Value) (flags : StoreFlags) :
    o.put key v flags =
      let newLength := if o.isLengthKey key then arrayLength? v else none
      if o.isLengthKey key && newLength.isNone then .error .invalidLength
      else
        match o.rejection? key with
        | some why => if flags.fails then .error (.rejected why flags.own key) else .ok o
        | none => .ok (o.commit key v newLength) := by
  simp only [put, store]
  generalize (if o.isLengthKey key = true then arrayLength? v else none) = newLength
  cases o.isLengthKey key && newLength.isNone with
  | true => rfl
  | false =>
    cases o.rejection? key with
    | some why => cases flags.fails <;> rfl
    | none => rfl

/-- A store that fails leaves the object as it was. -/
theorem store_eq (o : Object) (key : Key) (v : Value) (flags : StoreFlags) :
    o.store key v flags =
      match o.put key v flags with
      | .ok stored => (.ok (), stored)
      | .error e => (.error e, o) := by
  simp only [put_eq, store]
  generalize (if o.isLengthKey key = true then arrayLength? v else none) = newLength
  cases o.isLengthKey key && newLength.isNone with
  | true => rfl
  | false =>
    cases o.rejection? key with
    | some why => cases flags.fails <;> rfl
    | none => rfl

end Object

end AdaptiveTree
