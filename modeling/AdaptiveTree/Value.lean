import AdaptiveTree.Handle
import AdaptiveTree.Key
import AdaptiveTree.Locale.ListFormat
import AdaptiveTree.Pattern.Basic

/-!
# Values

A number has two representations: an integer of 32 bits, and a double. Objects are values by their
number on the heap, and patterns and list formats by their handles.
-/

set_option autoImplicit false

namespace AdaptiveTree

/-- A value. -/
inductive Value where
  | undefined
  | null
  | bool (b : Bool)
  | int (i : Int32)
  | double (d : Float)
  | string (s : String)
  | object (id : Nat)
  | pattern (p : Handle Pattern)
  | listFormat (f : Handle Locale.ListFormat)

namespace Value

instance : Inhabited Value := ⟨.undefined⟩

/-- Whether an integer fits 32 bits with sign. -/
def fitsInt32 (n : Int) : Bool :=
  -2147483648 ≤ n && n < 2147483648

/-- A number in the integer representation when that is exact. Negative zero stays a double. -/
def number (d : Float) : Value :=
  match Number.integer? d with
  | some n => if fitsInt32 n && !Number.isNegativeZero d then .int (Int32.ofInt n) else .double d
  | none => .double d

/-- Whether the value is null or undefined. -/
def isNullish : Value → Bool
  | .undefined | .null => true
  | _ => false

/-- Whether the value is a number. -/
def isNumber : Value → Bool
  | .int _ | .double _ => true
  | _ => false

/-- The integer of a value in the integer representation. -/
def asInt? : Value → Option Int32
  | .int i => some i
  | _ => none

/-- The double nearest to an integer of 32 bits, which is that integer. -/
def widen (i : Int32) : Float :=
  Number.ofInt i.toInt

/-- The number that a value is, as a double. -/
def asDouble? : Value → Option Float
  | .int i => some (widen i)
  | .double d => some d
  | _ => none

/-- The object that a value is. -/
def asObject? : Value → Option Nat
  | .object id => some id
  | _ => none

/-- The name of the type of a value. -/
def typeName : Value → String
  | .undefined => "undefined"
  | .null => "null"
  | .bool _ => "boolean"
  | .int _ | .double _ => "number"
  | .string _ => "string"
  | .object _ | .pattern _ | .listFormat _ => "object"

/-- The number that a value converts to. -/
def toNumber : Value → Float
  | .undefined => Number.nan
  | .null => Number.ofInt 0
  | .bool b => Number.ofInt (if b then 1 else 0)
  | .int i => widen i
  | .double d => d
  | .string s => Number.read s
  | .object _ | .pattern _ | .listFormat _ => Number.nan

/-- Strict equality: numbers by value whatever their representation, texts by content, and what has
an identity by that. -/
def same : Value → Value → Bool
  | .undefined, .undefined => true
  | .null, .null => true
  | .bool a, .bool b => a == b
  | .string a, .string b => a == b
  | .object a, .object b => a == b
  | .pattern a, .pattern b => a.same b
  | .listFormat a, .listFormat b => a.same b
  | a, b =>
    match a.asDouble?, b.asDouble? with
    | some x, some y => x == y
    | _, _ => false

end Value

/-- The value of a key, as it is kept for later use as an index. -/
def Key.toValue : Key → Value
  | .index i =>
    if i.toNat < 2147483648 then .int (Int32.ofNat i.toNat) else .double (Number.ofInt i.toNat)
  | .name s => .string s

end AdaptiveTree
