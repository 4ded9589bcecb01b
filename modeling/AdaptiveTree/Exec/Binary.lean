import AdaptiveTree.Exec.Channel

/-!
# Evaluating arithmetic

An arithmetic node starts on the integer channel. Once its results stop fitting, it goes on with
doubles, and then with arbitrary values.
-/

set_option autoImplicit false

namespace AdaptiveTree.Binary

variable (op : Op) (site : Nat) (left right : Runner)

/-- The result on two values. -/
def apply (l r : Value) : Exec Value :=
  Exec.read fun m => op.apply m.heap l r

/-- Evaluates with arbitrary values. -/
def runGeneric : Exec Value := do
  let l ← left.generic
  let r ← right.generic
  let v ← apply op l r
  Exec.widenValue site (.of v)
  return v

/-- The result of a pair of integers that has none on the integer channel. -/
def intMiss (a b : Int32) : Value :=
  Value.number (op.applyDouble (Value.widen a) (Value.widen b))

/-- Gives a value on the integer channel after noting its kind. -/
def settleInt (v : Value) : Exec (Speculated Int32) := do
  Exec.widenValue site (.of v)
  return .ofIntValue v

/-- Evaluates on the integer channel. -/
def runInt : Exec (Speculated Int32) := do
  let l ← left.int
  let r ← right.int
  match l, r with
  | .exact a, .exact b =>
    match op.applyInt a b with
    | some i =>
      Exec.widenValue site .int
      return .exact i
    | none => settleInt site (intMiss op a b)
  | l, r =>
    let v ← apply op l.intValue r.intValue
    settleInt site v

/-- Evaluates on the double channel. -/
def runDouble : Exec (Speculated Float) := do
  let l ← left.double
  let r ← right.double
  match l, r with
  | .exact a, .exact b =>
    Exec.widenValue site .double
    return .exact (op.applyDouble a b)
  | l, r =>
    let v ← apply op l.doubleValue r.doubleValue
    Exec.widenValue site (.of v)
    return .ofDoubleValue v

/-- Evaluates on the channel that the results so far allow. -/
def runObserved (env : Env) : Exec Value := do
  if !env.speculating then
    runGeneric op site left right
  else
    match (← Exec.site site).value with
    | .uninitialized | .int => return (← runInt op site left right).intValue
    | .double => return (← runDouble op site left right).doubleValue
    | .generic => runGeneric op site left right

/-- The evaluation of an arithmetic node. -/
def runner (env : Env) : Runner where
  generic := runObserved op site left right env
  int := runInt op site left right
  double := runDouble op site left right

end AdaptiveTree.Binary
