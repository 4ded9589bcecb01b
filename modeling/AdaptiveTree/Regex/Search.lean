import AdaptiveTree.Regex.Program

/-!
# Searching a text

A search looks for the match that starts first, and among those that start there for the one that
the order of preference of the program puts first. Ways are tried depth first. A state that has been
tried at a position is never tried there again, which bounds the number of steps by the size of the
program times the length of the text.
-/

set_option autoImplicit false

namespace AdaptiveTree.Regex

open AdaptiveTree.Text (isWordCharacter isAsciiWordCharacter)

/-- Whether a word character stands at the given index of the text. -/
def wordAt (ascii : Bool) (text : Array Char) (index : Nat) : Bool :=
  match text[index]? with
  | some c => if ascii then isAsciiWordCharacter c else isWordCharacter c
  | none => false

/-- Whether a word character stands before the given position. -/
def wordBefore (ascii : Bool) (text : Array Char) (pos : Nat) : Bool :=
  pos != 0 && wordAt ascii text (pos - 1)

/-- The character before the given position. -/
def charBefore? (text : Array Char) (pos : Nat) : Option Char :=
  if pos = 0 then none else text[pos - 1]?

/-- Whether the condition holds at a position of the text. -/
def Look.holds (l : Look) (text : Array Char) (pos : Nat) : Bool :=
  match l with
  | .textStart => pos == 0
  | .textEnd => pos == text.size
  | .lineStart => pos == 0 || charBefore? text pos == some '\n'
  | .lineEnd => pos == text.size || text[pos]? == some '\n'
  | .crlfStart =>
    pos == 0 || charBefore? text pos == some '\n' ||
      (charBefore? text pos == some '\r' && text[pos]? != some '\n')
  | .crlfEnd =>
    pos == text.size || text[pos]? == some '\r' ||
      (text[pos]? == some '\n' && charBefore? text pos != some '\r')
  | .boundary a => wordBefore a text pos != wordAt a text pos
  | .notBoundary a => wordBefore a text pos == wordAt a text pos
  | .wordStart a => !wordBefore a text pos && wordAt a text pos
  | .wordEnd a => wordBefore a text pos && !wordAt a text pos
  | .wordStartHalf a => !wordBefore a text pos
  | .wordEndHalf a => !wordAt a text pos

/-- A way still to try: a state, a position, and the marks set on the way there. -/
structure Thread where
  state : Nat
  pos : Nat
  marks : Array (Option Nat)

/-- The threads that follow a thread in one step, in the order of preference. -/
def Program.next (p : Program) (text : Array Char) (t : Thread) : List Thread :=
  match p.code[t.state]? with
  | some (.step k next) =>
    match text[t.pos]? with
    | some c => if k.holds c then [⟨next, t.pos + 1, t.marks⟩] else []
    | none => []
  | some (.look l next) => if l.holds text t.pos then [⟨next, t.pos, t.marks⟩] else []
  | some (.mark slot next) => [⟨next, t.pos, t.marks.setIfInBounds slot (some t.pos)⟩]
  | some (.split ways) => ways.map fun w => ⟨w, t.pos, t.marks⟩
  | some .accept | none => []

/-- Whether the thread has reached the end of the program. -/
def Program.accepts (p : Program) (t : Thread) : Bool :=
  match p.code[t.state]? with
  | some .accept => true
  | _ => false

/-- Which states have been tried at which positions, in one row for each state. -/
structure Tried where
  width : Nat
  cells : Array Bool

/-- Nothing tried yet. -/
def Tried.none (p : Program) (text : Array Char) : Tried :=
  ⟨text.size + 1, Array.replicate (p.code.size * (text.size + 1)) false⟩

/-- Whether the state of the thread has been tried at its position. -/
def Tried.holds (tried : Tried) (t : Thread) : Bool :=
  tried.cells.getD (t.state * tried.width + t.pos) true

/-- Notes that the state of the thread is tried at its position. -/
def Tried.insert (tried : Tried) (t : Thread) : Tried :=
  { tried with cells := tried.cells.setIfInBounds (t.state * tried.width + t.pos) true }

/-- Tries the threads one after the other, each with all that follows from it before the next. Gives
the first thread that reaches the end of the program, and what has been tried. -/
def Program.explore (p : Program) (text : Array Char) :
    Nat → List Thread → Tried → Option Thread × Tried
  | 0, _, tried => (none, tried)
  | _ + 1, [], tried => (none, tried)
  | fuel + 1, t :: rest, tried =>
    if p.accepts t then (some t, tried)
    else if tried.holds t then p.explore text fuel rest tried
    else p.explore text fuel (p.next text t ++ rest) (tried.insert t)

/-- Number of ways out of a state. -/
def State.degree : State → Nat
  | .split ways => ways.length
  | _ => 1

/-- A bound on the number of threads that a search can meet. -/
def Program.bound (p : Program) (text : Array Char) : Nat :=
  (p.code.foldl (fun n s => n + s.degree) 0 + 1) * (text.size + 1) + 1

/-- A match: the position where it starts, the one where it ends, and those where its groups start
and end. -/
structure Found where
  start : Nat
  stop : Nat
  groups : List (Option (Nat × Nat))
deriving DecidableEq, Repr

/-- The range of a group, if the group took part in the match. -/
def groupRange (marks : Array (Option Nat)) (i : Nat) : Option (Nat × Nat) :=
  match marks.getD (2 * i) none, marks.getD (2 * i + 1) none with
  | some a, some b => some (a, b)
  | _, _ => none

/-- The match that a finished thread stands for. -/
def Program.found (p : Program) (start : Nat) (t : Thread) : Found :=
  ⟨start, t.pos, (List.range p.groups).map fun i => groupRange t.marks (i + 1)⟩

/-- Looks for a match that starts at `pos` or at one of the `count` positions after it. -/
def Program.searchFrom (p : Program) (text : Array Char) : Nat → Nat → Tried → Option Found
  | count, pos, tried =>
    let first : Thread := ⟨p.start, pos, Array.replicate (2 * (p.groups + 1)) none⟩
    match p.explore text (p.bound text) [first] tried with
    | (some t, _) => some (p.found pos t)
    | (none, tried) =>
      match count with
      | 0 => none
      | count + 1 => p.searchFrom text count (pos + 1) tried

/-- The first match that starts at the character index `pos` or later. Conditions on positions look
at the whole text. -/
def Program.search (p : Program) (text : Array Char) (pos : Nat) : Option Found :=
  if text.size < pos then none else p.searchFrom text (text.size - pos) pos (.none p text)

end AdaptiveTree.Regex
