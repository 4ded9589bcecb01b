import AdaptiveTree.Exec.Element

/-!
# Evaluating element writes

A write evaluates its target, its index and its value in this order and stores once. The index is
evaluated on the integer channel while all indices have been integers, and the value on the channel
that the stored values allow. A compound write checks its target before the index is evaluated, and
keeps the index in a local slot for the value to read.
-/

set_option autoImplicit false

namespace AdaptiveTree.Write

/-- What a write is made of: its store flags, its site, and the evaluation of its index and
value. -/
structure Parts where
  flags : StoreFlags
  site : Nat
  index : Runner
  value : Runner

/-- An evaluated index. -/
inductive IndexValue where
  | int (i : Int32)
  | generic (v : Value)

variable (env : Env) (w : Parts)

/-- Evaluates the index, on the integer channel while all indices have been integers. -/
def runIndex : Exec IndexValue := do
  let s ← Exec.site w.site
  if env.speculating && s.index.allowsInt then
    match ← w.index.int with
    | .exact i =>
      Exec.widenIndex w.site .int
      return .int i
    | .unexpected v =>
      Exec.widenIndex w.site (.of v)
      return .generic v
  else
    let v ← w.index.generic
    Exec.widenIndex w.site (.of v)
    return .generic v

/-- Evaluates the index to a key. -/
def runKey : Exec Key := do
  match ← runIndex env w with
  | .int i => return .ofInt i
  | .generic v => Exec.key v

/-- Evaluates the value with arbitrary results and stores it. -/
def storeGeneric (target : Value) (key : Key) : Exec Value := do
  let v ← w.value.generic
  Exec.widenValue w.site (.of v)
  Element.runStore w.flags target key v

/-- Evaluates the value on the integer channel and stores it. A value that does not fit is stored
all the same. -/
def storeInt (target : Value) (key : Key) : Exec (Speculated Int32) := do
  match ← w.value.int with
  | .exact i =>
    Exec.widenValue w.site .int
    let _ ← Element.runStore w.flags target key (.int i)
    return .exact i
  | .unexpected v =>
    Exec.widenValue w.site (.of v)
    let stored ← Element.runStore w.flags target key v
    return .ofIntValue stored

/-- Evaluates the value on the double channel and stores it. A value that does not fit is stored all
the same. -/
def storeDouble (target : Value) (key : Key) : Exec (Speculated Float) := do
  match ← w.value.double with
  | .exact d =>
    Exec.widenValue w.site .double
    let _ ← Element.runStore w.flags target key (.double d)
    return .exact d
  | .unexpected v =>
    Exec.widenValue w.site (.of v)
    let stored ← Element.runStore w.flags target key v
    return .ofDoubleValue stored

/-- Evaluates the value on the channel that the stored values allow, and stores it. -/
def storeObserved (target : Value) (key : Key) : Exec Value := do
  if !env.speculating then
    storeGeneric w target key
  else
    match (← Exec.site w.site).value with
    | .uninitialized | .int => return (← storeInt w target key).intValue
    | .double => return (← storeDouble w target key).doubleValue
    | .generic => storeGeneric w target key

/-- The three ways to store under a target and key that the first computation finds. -/
def runnerAfter (place : Exec (Value × Key)) : Runner where
  generic := do
    let (t, k) ← place
    storeObserved env w t k
  int := do
    let (t, k) ← place
    storeInt w t k
  double := do
    let (t, k) ← place
    storeDouble w t k

/-- The target and key of a plain write. -/
def place (target : Runner) : Exec (Value × Key) := do
  let t ← target.generic
  let k ← runKey env w
  return (t, k)

/-- The evaluation of a plain write. -/
def runner (target : Runner) : Runner :=
  runnerAfter env w (place env w target)

/-! ## Compound writes -/

/-- Fails on a target that is null or undefined. -/
def checkTarget (target : Value) : Except Fault Unit :=
  if target.isNullish then .error (.notConvertible target.typeName) else .ok ()

/-- Checks the target with the check of the site, which is put in place first. -/
def runCheck (target : Value) : Exec Unit := do
  Exec.publishTargetCheck w.site
  Exec.ofExcept (checkTarget target)

/-- Writes the slot that keeps the index, if there is one. -/
def keepIndex (cache : Option Nat) (v : Value) : Exec Unit :=
  match cache with
  | some slot => Exec.setLocal slot v
  | none => return ()

/-- The key of an arbitrary index; the index is kept in the form of its key. -/
def convertIndex (cache : Option Nat) (v : Value) : Exec Key := do
  Exec.publishConversion w.site v
  let k ← Exec.key v
  keepIndex cache k.toValue
  return k

/-- The key of an integer index, which is kept as it is. -/
def convertInt (cache : Option Nat) (i : Int32) : Exec Key := do
  keepIndex cache (.int i)
  return .ofInt i

/-- The target and key of a compound write. -/
def compoundPlace (cache : Option Nat) (target : Runner) : Exec (Value × Key) := do
  let t ← target.generic
  runCheck w t
  match ← runIndex env w with
  | .int i =>
    let k ← convertInt cache i
    return (t, k)
  | .generic v =>
    let k ← convertIndex w cache v
    return (t, k)

/-- The evaluation of a compound write. -/
def compoundRunner (cache : Option Nat) (target : Runner) : Runner :=
  runnerAfter env w (compoundPlace env w cache target)

/-- Checks a given target and finds the key of a given index. -/
def prepare (cache : Option Nat) (target index : Value) : Exec Key := do
  runCheck w target
  convertIndex w cache index

/-- Checks a given target and finds the key of a given integer index. -/
def prepareInt (cache : Option Nat) (target : Value) (index : Int32) : Exec Key := do
  runCheck w target
  convertInt cache index

/-- The three ways to store to a given target, under the key that `key` finds. Unlike in
`runnerAfter`, the generic way stays on the generic channel. -/
def entryRunner (target : Value) (key : Exec Key) : Runner where
  generic := do
    let k ← key
    storeGeneric w target k
  int := do
    let k ← key
    storeInt w target k
  double := do
    let k ← key
    storeDouble w target k

end AdaptiveTree.Write
