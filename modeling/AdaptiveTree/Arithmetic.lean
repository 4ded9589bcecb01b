import AdaptiveTree.Heap

/-!
# Arithmetic

The five operators, on integers of 32 bits, on doubles and on arbitrary values. On integers an
operator has a result only where the exact result is an integer that fits and is not a negative
zero. On values a sum with a text or an object joins texts, and everything else is arithmetic on
the numbers that the operands convert to.
-/

set_option autoImplicit false

namespace AdaptiveTree

/-- An arithmetic operator. -/
inductive Op where
  | add | sub | mul | div | rem
deriving DecidableEq, Repr

namespace Op

/-- The sign of an operator. -/
def symbol : Op → String
  | .add => "+"
  | .sub => "-"
  | .mul => "*"
  | .div => "/"
  | .rem => "%"

/-- The operator with the given sign. -/
def ofSymbol? (s : String) : Option Op :=
  [add, sub, mul, div, rem].find? fun o => o.symbol == s

/-- An integer as one of 32 bits, if it fits. -/
def checked (n : Int) : Option Int32 :=
  if Value.fitsInt32 n then some (Int32.ofInt n) else none

/-- The result on integers, if it is an integer that fits and not a negative zero. -/
def applyInt (op : Op) (a b : Int32) : Option Int32 :=
  let x := a.toInt
  let y := b.toInt
  match op with
  | .add => checked (x + y)
  | .sub => checked (x - y)
  | .mul => if x * y = 0 ∧ (x < 0 ∨ y < 0) then none else checked (x * y)
  | .div =>
    if y = 0 ∨ (x = 0 ∧ y < 0) then none
    else if x.tmod y = 0 then checked (x.tdiv y)
    else none
  | .rem => if y = 0 ∨ (x.tmod y = 0 ∧ x < 0) then none else checked (x.tmod y)

/-- The result on doubles. -/
def applyDouble (op : Op) (a b : Float) : Float :=
  match op with
  | .add => a + b
  | .sub => a - b
  | .mul => a * b
  | .div => a / b
  | .rem => Number.remainder a b

/-- Whether an operand makes a sum join texts. -/
def joins : Value → Bool
  | .string _ | .object _ | .pattern _ | .listFormat _ => true
  | _ => false

/-- The result on arbitrary values, by way of texts or doubles. -/
def applyWide (op : Op) (h : Heap) (l r : Value) : Value :=
  if op = .add ∧ (joins l ∨ joins r) then .string (h.display l ++ h.display r)
  else Value.number (op.applyDouble l.toNumber r.toNumber)

/-- The result on arbitrary values. -/
def apply (op : Op) (h : Heap) (l r : Value) : Value :=
  match l, r with
  | .int a, .int b =>
    match op.applyInt a b with
    | some i => .int i
    | none => op.applyWide h l r
  | _, _ => op.applyWide h l r

end Op

end AdaptiveTree
