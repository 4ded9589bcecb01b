import AdaptiveTree.Regex.Expr

/-!
# Compiled regular expressions

A program is a list of states. From a split the first way is preferred to those after it, which is
how the order of alternatives and the greed of repetitions are told. Expressions are compiled from
the back: the code of a part is given the state that follows it.
-/

set_option autoImplicit false

namespace AdaptiveTree.Regex

/-- A state of a program. -/
inductive State where
  | step (k : CharClass) (next : Nat)
  | look (l : Look) (next : Nat)
  | mark (slot : Nat) (next : Nat)
  | split (ways : List Nat)
  | accept
deriving Repr

/-- The states of a program, by number. -/
abbrev Code := Array State

/-- Adds a state at the end of the code and tells its number. -/
def Code.add (code : Code) (s : State) : Nat × Code :=
  (code.size, code.push s)

/-- A split between a loop body and what follows the loop, in the order of preference. -/
def loopWays (greedy : Bool) (body next : Nat) : List Nat :=
  if greedy then [body, next] else [next, body]

/-- Applies `f` to the number of a following state and the code, `n` times, from the back. -/
def compileTimes (f : Nat → Code → Nat × Code) : Nat → Nat → Code → Nat × Code
  | 0, next, code => (next, code)
  | n + 1, next, code =>
    let (start, code) := f next code
    compileTimes f n start code

/-- Up to `n` further rounds, each of which may be the last. -/
def compileOptional (f : Nat → Code → Nat × Code) (greedy : Bool) (exit : Nat) :
    Nat → Nat → Code → Nat × Code
  | 0, next, code => (next, code)
  | n + 1, next, code =>
    let (body, code) := f next code
    let (start, code) := code.add (.split (loopWays greedy body exit))
    compileOptional f greedy exit n start code

/-- One round or more: the split behind the round goes back to its start. Gives the start of the
round. -/
def compilePlus (f : Nat → Code → Nat × Code) (greedy : Bool) (next : Nat) (code : Code) :
    Nat × Code :=
  let (again, code) := code.add (.split [])
  let (body, code) := f again code
  (body, code.setIfInBounds again (.split (loopWays greedy body next)))

/-- Any number of rounds of a part that takes at least one character: one split in front of it. -/
def compileStar (f : Nat → Code → Nat × Code) (greedy : Bool) (next : Nat) (code : Code) :
    Nat × Code :=
  let (start, code) := code.add (.split [])
  let (body, code) := f start code
  (start, code.setIfInBounds start (.split (loopWays greedy body next)))

/-- The states of a text, from the back. -/
def compileText : List Char → Nat → Code → Nat × Code
  | [], next, code => (next, code)
  | c :: cs, next, code =>
    let (start, code) := compileText cs next code
    code.add (.step (CharClass.single c) start)

mutual

/-- Compiles an expression in front of the state `next`; gives the state at which it starts. A part
that may match nothing is repeated as an optional run of one round or more, which keeps the order of
preference right when a round takes no character. -/
def Expr.compile : Expr → Nat → Code → Nat × Code
  | .empty, next, code => (next, code)
  | .literal text, next, code => compileText text next code
  | .char k, next, code => code.add (.step k next)
  | .look l, next, code => code.add (.look l next)
  | .capture i sub, next, code =>
    let (stop, code) := code.add (.mark (2 * i + 1) next)
    let (body, code) := sub.compile stop code
    code.add (.mark (2 * i) body)
  | .cat subs, next, code => Expr.compileParts subs next code
  | .alt subs, next, code =>
    let (ways, code) := Expr.compileWays subs next code
    code.add (.split ways)
  | .loop min (some max) greedy sub, next, code =>
    let (rounds, code) := compileOptional sub.compile greedy next (max - min) next code
    compileTimes sub.compile min rounds code
  | .loop 0 none greedy sub, next, code =>
    if sub.isSolid then compileStar sub.compile greedy next code
    else
      let (body, code) := compilePlus sub.compile greedy next code
      code.add (.split (loopWays greedy body next))
  | .loop (min + 1) none greedy sub, next, code =>
    let (body, code) := compilePlus sub.compile greedy next code
    compileTimes sub.compile min body code

/-- Compiles parts that follow each other, from the last to the first. -/
def Expr.compileParts : List Expr → Nat → Code → Nat × Code
  | [], next, code => (next, code)
  | e :: es, next, code =>
    let (start, code) := Expr.compileParts es next code
    e.compile start code

/-- Compiles alternatives; gives the states at which they start, in order. -/
def Expr.compileWays : List Expr → Nat → Code → List Nat × Code
  | [], _, code => ([], code)
  | e :: es, next, code =>
    let (starts, code) := Expr.compileWays es next code
    let (start, code) := e.compile next code
    (start :: starts, code)

end

/-- A program: its states, the one to start at, and the number of groups. -/
structure Program where
  code : Code
  start : Nat
  groups : Nat
deriving Repr

/-- The program of an expression. State zero accepts. -/
def Program.ofExpr (e : Expr) : Program :=
  let (start, code) := e.compile 0 #[.accept]
  ⟨code, start, e.groupCount⟩

end AdaptiveTree.Regex
