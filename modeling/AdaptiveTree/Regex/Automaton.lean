import AdaptiveTree.Regex.ByteSequence
import AdaptiveTree.Regex.Expr
import Std.Data.HashMap

/-!
# Sizes of automata

An expression is refused when one of its two automata is too large: the one that reads a text
forwards and keeps the places of the groups, and the one that reads it backwards and does not. What
counts is the space that the states take while the automaton is put together, state by state. A
state takes 32 bytes; a state that tells bytes apart takes 8 more for each range of bytes, and a
state with several ways takes 4 more for each way.

The states of a class are shared through a table of fixed capacity, in which a new entry replaces
an older one with the same place. How many states a class needs thus depends on the numbers of its
states, and so on what stands before it.
-/

set_option autoImplicit false

namespace AdaptiveTree.Regex.Automaton

/-- What has been put together: the number of states and the space that they take, in bytes. -/
structure Meter where
  states : Nat
  bytes : Nat
deriving DecidableEq, Repr

namespace Meter

/-- The space that an automaton may take, in bytes. -/
def limit : Nat := 10485760

/-- Nothing put together yet. -/
def start : Meter := ⟨0, 0⟩

/-- Adds states and space; none when there is too much of it. -/
def grow (m : Meter) (states bytes : Nat) : Option Meter :=
  if limit < m.bytes + bytes then none else some ⟨m.states + states, m.bytes + bytes⟩

/-- Adds one state with space for `ranges` ranges of bytes. -/
def addTelling (m : Meter) (ranges : Nat) : Option Meter :=
  m.grow 1 (32 + 8 * ranges)

/-- Adds one state of any other kind. -/
def add (m : Meter) : Option Meter :=
  m.grow 1 32

/-- Adds ways to a state. -/
def addWays (m : Meter) (ways : Nat) : Option Meter :=
  m.grow 0 (4 * ways)

end Meter

/-- The direction in which an automaton reads a text. -/
inductive Direction where
  | forwards | backwards
deriving DecidableEq, Repr

/-! ## Shared states of classes -/

/-- One step of the hash by which a table finds the place of an entry. -/
def hashStep (h : UInt64) (n : Nat) : UInt64 :=
  (h ^^^ n.toUInt64) * 1099511628211

/-- The hash of several numbers. -/
def hashOf (ns : List Nat) : UInt64 :=
  ns.foldl hashStep 14695981039346656037

/-- A way of a state that tells bytes apart: a range of bytes and the number of the next state. -/
structure Way where
  range : ByteRange
  next : Nat
deriving DecidableEq, Repr

/-- The states of a class that are shared, by their places: each with its ways and its number. -/
abbrev SharedForwards := Std.HashMap Nat (List Way × Nat)

/-- The place of a state in the table of shared states, which has 10000 of them. -/
def placeForwards (ways : List Way) : Nat :=
  (hashOf (ways.flatMap fun w => [w.range.1, w.range.2, w.next])).toNat % 10000

/-- The number of a state with the given ways: that of a shared one, or a new one. -/
def internForwards (ways : List Way) (m : Meter) (shared : SharedForwards) :
    Option (Nat × Meter × SharedForwards) :=
  let place := placeForwards ways
  match (shared[place]?).filter fun entry => entry.1 = ways with
  | some entry => some (entry.2, m, shared)
  | none =>
    (m.addTelling ways.length).map fun m' =>
      (m.states, m', shared.insert place (ways, m.states))

/-- A state that is still being written: its finished ways, and the range of the way whose next
state is not finished. -/
structure Draft where
  ways : List Way
  last : Option ByteRange

/-- The ways of a draft, in order, once the last one is given its next state. -/
def Draft.finish (d : Draft) (next : Nat) : List Way :=
  match d.last with
  | some range => d.ways ++ [⟨range, next⟩]
  | none => d.ways

/-- Finishes drafts, each being the next state of the one before, from the last to the first. Gives
the number of the first. -/
def finishAll (target : Nat) :
    List Draft → Meter → SharedForwards → Option (Nat × Meter × SharedForwards)
  | [], m, shared => some (target, m, shared)
  | d :: ds, m, shared =>
    (finishAll target ds m shared).bind fun (next, m, shared) =>
      internForwards (d.finish next) m shared

/-- Adds a sequence to the drafts of a class. The drafts that it has in common with the sequence
before it go on, and those after them are finished. -/
def addSequence (target : Nat) :
    List ByteRange → List Draft → Meter → SharedForwards →
      Option (List Draft × Meter × SharedForwards)
  | r :: rs, d :: ds, m, shared =>
    if d.last = some r ∧ rs ≠ [] then
      (addSequence target rs ds m shared).map fun (ds, m, shared) => (d :: ds, m, shared)
    else
      (finishAll target ds m shared).map fun (next, m, shared) =>
        (⟨d.finish next, some r⟩ :: rs.map fun r => ⟨[], some r⟩, m, shared)
  | rs, [], m, shared => some (rs.map fun r => ⟨[], some r⟩, m, shared)
  | [], ds, m, shared => some (ds, m, shared)

/-- Adds all sequences of a class, one after the other. -/
def addSequences (target : Nat) :
    List (List ByteRange) → List Draft → Meter → SharedForwards →
      Option (List Draft × Meter × SharedForwards)
  | [], ds, m, shared => some (ds, m, shared)
  | s :: ss, ds, m, shared =>
    (addSequence target s ds m shared).bind fun (ds, m, shared) =>
      addSequences target ss ds m shared

/-- The states of a class that reads forwards. -/
def measureForwards (k : CharClass) (m : Meter) : Option Meter :=
  m.add.bind fun m' =>
    (addSequences m.states k.sequences [⟨[], none⟩] m' ∅).bind fun (ds, m', shared) =>
      (finishAll m.states ds m' shared).map fun (_, m', _) => m'

/-- The states of a class that are shared backwards, by their places: each with the number of the
state after it, its range of bytes and its own number. -/
abbrev SharedBackwards := Std.HashMap Nat ((Nat × ByteRange) × Nat)

/-- The place of a state in the table of shared states, which has 1000 of them. -/
def placeBackwards (after : Nat) (range : ByteRange) : Nat :=
  (hashOf [after, range.1, range.2]).toNat % 1000

/-- Adds the states of a sequence that is read backwards: the first byte comes last. -/
def addBackwards : List ByteRange → Nat → Meter → SharedBackwards → Option (Meter × SharedBackwards)
  | [], _, m, shared => (m.addWays 1).map fun m => (m, shared)
  | r :: rs, after, m, shared =>
    let place := placeBackwards after r
    match (shared[place]?).filter fun entry => entry.1 = (after, r) with
    | some entry => addBackwards rs entry.2 m shared
    | none =>
      m.add.bind fun m' =>
        addBackwards rs m.states m' (shared.insert place ((after, r), m.states))

/-- Adds the states of several sequences that are read backwards. -/
def addAllBackwards (target : Nat) :
    List (List ByteRange) → Meter → SharedBackwards → Option Meter
  | [], m, _ => some m
  | s :: ss, m, shared =>
    (addBackwards s target m shared).bind fun (m, shared) => addAllBackwards target ss m shared

/-- The states of a class that reads backwards: one with a way for each sequence, the last one, and
those of the sequences. -/
def measureBackwards (k : CharClass) (m : Meter) : Option Meter :=
  (m.grow 2 64).bind fun m' => addAllBackwards (m.states + 1) k.sequences m' ∅

/-- The states of a class. A class within ASCII is one state that tells bytes apart and one more. -/
def measureClass (d : Direction) (k : CharClass) (m : Meter) : Option Meter :=
  if CharClass.isAscii k then m.add.bind fun m => m.addTelling k.size
  else
    match d with
    | .forwards => measureForwards k m
    | .backwards => measureBackwards k m

/-! ## Alternatives that are all texts -/

/-- A tree of texts by their bytes. Texts that end at a node divide the ways out of it: those added
before are tried before the end, and those added later after it, so a node has groups of ways. The
groups of `done` are closed, the latest first, and `active` is the open one. -/
inductive TextTree where
  | node (done : List (List (Nat × TextTree))) (active : List (Nat × TextTree))

namespace TextTree

/-- A node without ways. -/
def leaf : TextTree := .node [] []

/-- Whether there is no way out of the node. -/
def isLeaf : TextTree → Bool
  | .node done active => done.all List.isEmpty && active.isEmpty

/-- Changes the node that a byte leads to, which is added in order if it is new. -/
def update (b : Nat) (f : TextTree → TextTree) : List (Nat × TextTree) → List (Nat × TextTree)
  | [] => [(b, f leaf)]
  | (c, t) :: rest =>
    if b < c then (b, f leaf) :: (c, t) :: rest
    else if b = c then (c, f t) :: rest
    else (c, t) :: update b f rest

/-- Adds a text. A second end at a node without ways changes nothing. -/
def insert : List Nat → TextTree → TextTree
  | [], .node done active =>
    if (TextTree.node done active).isLeaf && !done.isEmpty then .node done active
    else .node (active :: done) []
  | b :: bs, .node done active => .node done (update b (insert bs) active)

/-- The space of a group of ways: a state that tells bytes apart and a way to it, or nothing. -/
def groupBytes (count : Nat) : Nat :=
  if count = 0 then 0 else if count = 1 then 36 else 36 + 8 * count

mutual

/-- The number of states below and at a node that is no leaf, and the space that they take. -/
def measure : TextTree → Nat × Nat
  | .node done active =>
    let (states, bytes) := measureGroups done
    let (states', bytes') := measureWays active
    let own := if active.isEmpty then 0 else 1
    (states + states' + own + 1,
      bytes + bytes' + groupBytes active.length + 4 * done.length + 32)

/-- The same for closed groups of ways. -/
def measureGroups : List (List (Nat × TextTree)) → Nat × Nat
  | [] => (0, 0)
  | group :: groups =>
    let (states, bytes) := measureWays group
    let (states', bytes') := measureGroups groups
    let own := if group.isEmpty then 0 else 1
    (states + states' + own, bytes + bytes' + groupBytes group.length)

/-- The same for the nodes that ways lead to; a leaf is no state of its own. -/
def measureWays : List (Nat × TextTree) → Nat × Nat
  | [] => (0, 0)
  | (_, t) :: rest =>
    let (states, bytes) := measureWays rest
    if t.isLeaf then (states, bytes)
    else
      let (states', bytes') := measure t
      (states + states', bytes + bytes')

end

end TextTree

/-- The bytes of a text in the order in which they are read. -/
def textBytes (d : Direction) (text : List Char) : List Nat :=
  let bytes := text.flatMap fun c => bytesOf c.toNat
  match d with
  | .forwards => bytes
  | .backwards => bytes.reverse

/-- The texts of expressions that are all texts. -/
def texts? : List Expr → Option (List (List Char))
  | [] => some []
  | .literal text :: es => (texts? es).map fun ts => text :: ts
  | _ => none

/-- The states of alternatives that are all texts. -/
def measureTexts (d : Direction) (texts : List (List Char)) (m : Meter) : Option Meter :=
  let tree := texts.foldl (fun t text => t.insert (textBytes d text)) TextTree.leaf
  let (states, bytes) := tree.measure
  m.grow (states + 1) (bytes + 32)

/-! ## Expressions -/

/-- What is known of a part once it is put together: whether its last state is one with several
ways, so that what follows it is one more way of that state. -/
abbrev Measured := Option (Bool × Meter)

/-- Joins the end of a part to what follows it. -/
def link (endsOpen : Bool) (m : Meter) : Option Meter :=
  if endsOpen then m.addWays 1 else some m

/-- `n` rounds of a part after a first part. -/
def rounds (f : Meter → Measured) : Nat → Bool → Meter → Measured
  | 0, endsOpen, m => some (endsOpen, m)
  | n + 1, endsOpen, m =>
    (f m).bind fun (next, m) => (link endsOpen m).bind fun m => rounds f n next m

/-- Exactly `n` rounds of a part; no round at all is one state. -/
def exactly (f : Meter → Measured) (n : Nat) (m : Meter) : Measured :=
  match n with
  | 0 => m.add.map fun m => (false, m)
  | n + 1 => (f m).bind fun (endsOpen, m) => rounds f n endsOpen m

/-- Up to `n` more rounds of a part, each behind a state with two ways. -/
def optional (f : Meter → Measured) : Nat → Bool → Meter → Measured
  | 0, endsOpen, m => (link endsOpen m).map fun m => (false, m)
  | n + 1, endsOpen, m =>
    m.add.bind fun m => (f m).bind fun (next, m) =>
      (link endsOpen m).bind fun m => (m.addWays 2).bind fun m => optional f n next m

/-- One round of a part or more: the part, and a state with a way back to it. -/
def oneOrMore (f : Meter → Measured) (m : Meter) : Measured :=
  (f m).bind fun (endsOpen, m) =>
    m.add.bind fun m => (link endsOpen m).bind fun m => (m.addWays 1).map fun m => (true, m)

/-- Any number of rounds of a part. A part that takes at least one byte needs one state with two
ways; any other is repeated as an optional run of one round or more. -/
def anyNumber (solid : Bool) (f : Meter → Measured) (m : Meter) : Measured :=
  if solid then
    m.add.bind fun m => (f m).bind fun (endsOpen, m) =>
      (m.addWays 1).bind fun m => (link endsOpen m).map fun m => (true, m)
  else
    (oneOrMore f m).bind fun (_, m) =>
      (m.grow 2 64).bind fun m => (m.addWays 3).map fun m => (false, m)

/-- A repetition of a part. -/
def measureLoop (min : Nat) (max : Option Nat) (solid : Bool) (f : Meter → Measured) (m : Meter) :
    Measured :=
  match min, max with
  | 0, some 1 =>
    m.add.bind fun m => (f m).bind fun (endsOpen, m) =>
      m.add.bind fun m => (m.addWays 2).bind fun m => (link endsOpen m).map fun m => (false, m)
  | 0, none => anyNumber solid f m
  | 1, none => oneOrMore f m
  | n + 2, none =>
    (exactly f (n + 1) m).bind fun (endsOpen, m) =>
      (oneOrMore f m).bind fun (last, m) => (link endsOpen m).map fun m => (last, m)
  | min, some max =>
    if min = max then exactly f min m
    else
      (exactly f min m).bind fun (endsOpen, m) =>
        m.add.bind fun m => optional f (max - min) endsOpen m

mutual

/-- Puts an expression together. -/
def measure (d : Direction) : Expr → Meter → Measured
  | .empty, m | .look _, m => m.add.map fun m => (false, m)
  | .literal text, m =>
    let count := Expr.byteLength text
    (m.grow count (32 * count)).map fun m => (false, m)
  | .char k, m => (measureClass d k m).map fun m => (false, m)
  | .capture _ sub, m =>
    match d with
    | .forwards =>
      m.add.bind fun m => (measure d sub m).bind fun (endsOpen, m) =>
        m.add.bind fun m => (link endsOpen m).map fun m => (false, m)
    | .backwards => measure d sub m
  | .loop min max _ sub, m => measureLoop min max sub.isSolid (measure d sub) m
  | .cat subs, m =>
    match d with
    | .forwards => measureForth d subs none m
    | .backwards => measureBack d subs m
  | .alt subs, m =>
    match texts? subs with
    | some texts => (measureTexts d texts m).map fun m => (false, m)
    | none => measureWays d subs 0 m

/-- Puts parts together from the first to the last. -/
def measureForth (d : Direction) : List Expr → Option Bool → Meter → Measured
  | [], endsOpen, m => some (endsOpen.getD false, m)
  | e :: es, endsOpen, m =>
    (measure d e m).bind fun (next, m) =>
      (link (endsOpen.getD false) m).bind fun m => measureForth d es (some next) m

/-- Puts parts together from the last to the first. -/
def measureBack (d : Direction) : List Expr → Meter → Measured
  | [], m => some (false, m)
  | e :: es, m =>
    (measureBack d es m).bind fun (endsOpen, m) =>
      (measure d e m).bind fun (next, m) => (link endsOpen m).map fun m => (next, m)

/-- Puts alternatives together. The state with a way to each of them and the one where they meet are
added after the second of them. -/
def measureWays (d : Direction) : List Expr → Nat → Meter → Measured
  | [], _, m => some (false, m)
  | e :: es, count, m =>
    (measure d e m).bind fun (endsOpen, m) =>
      (if count = 1 then m.grow 2 64 else some m).bind fun m =>
        (m.addWays 1).bind fun m => (link endsOpen m).bind fun m =>
          measureWays d es (count + 1) m

end

/-! ## Anchored expressions -/

mutual

/-- Whether every match is known to stand at an edge of the text, because of a condition that holds
at the end of the expression from which the automaton starts to read. -/
def isAnchored (d : Direction) : Expr → Bool
  | .look l =>
    match d with
    | .forwards => l == .textStart
    | .backwards => l == .textEnd
  | .capture _ sub => isAnchored d sub
  | .loop min _ _ sub => min != 0 && isAnchored d sub
  | .cat subs =>
    match d with
    | .forwards => isAnchoredForth d subs
    | .backwards => (isAnchoredBack d subs).1
  | .alt subs => isAnchoredAll d subs
  | .empty | .literal _ | .char _ => false

/-- The same for parts in order: the parts up to the first that can take a byte are looked at. -/
def isAnchoredForth (d : Direction) : List Expr → Bool
  | [] => false
  | e :: es => isAnchored d e || (e.isHollow && isAnchoredForth d es)

/-- The same from the last part on, and whether no part has been met that can take a byte. -/
def isAnchoredBack (d : Direction) : List Expr → Bool × Bool
  | [] => (false, true)
  | e :: es =>
    let (anchored, hollow) := isAnchoredBack d es
    (anchored || (hollow && isAnchored d e), hollow && e.isHollow)

/-- The same for alternatives: all of them must be anchored. -/
def isAnchoredAll (d : Direction) : List Expr → Bool
  | [] => true
  | e :: es => isAnchored d e && isAnchoredAll d es

end

/-- The whole automaton of an expression. In front of the expression stands a loop over any bytes,
unless the expression is anchored, and then a single state. The automaton that reads forwards keeps
the place of the whole match. -/
def measureWhole (d : Direction) (e : Expr) : Option Meter :=
  let front :=
    if isAnchored d e then Meter.start.add else Meter.start.grow 3 112
  front.bind fun m =>
    match d with
    | .forwards =>
      m.add.bind fun m => (measure d e m).bind fun (endsOpen, m) =>
        (m.grow 2 64).bind fun m => link endsOpen m
    | .backwards =>
      (measure d e m).bind fun (endsOpen, m) => m.add.bind fun m => link endsOpen m

/-- Whether both automata of an expression fit. A list of 3000 texts or more is looked for without
automata. -/
def fits (e : Expr) : Bool :=
  let isLongList :=
    match e with
    | .alt subs => 3000 ≤ subs.length && (texts? subs).isSome
    | _ => false
  isLongList || ((measureWhole .forwards e).isSome && (measureWhole .backwards e).isSome)

end AdaptiveTree.Regex.Automaton
