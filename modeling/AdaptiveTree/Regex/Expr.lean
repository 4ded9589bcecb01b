import AdaptiveTree.Regex.CharClass

/-!
# Resolved regular expressions

A resolved expression has no flags any more: every anchor is a condition on a position, and every
repetition knows whether it is greedy. Expressions are built by functions that keep them simple:
sequences and alternatives are not nested, texts that follow each other are one text, a class of one
character is a text, and alternatives that are all classes are one class. What an expression matches
does not depend on this, but the size of its automaton does.
-/

set_option autoImplicit false

namespace AdaptiveTree.Regex

open AdaptiveTree.Text (Ranges)

/-- A condition on a position between two characters. Conditions on words come with the class of
word characters that they look at. -/
inductive Look where
  | textStart | textEnd
  | lineStart | lineEnd
  | crlfStart | crlfEnd
  | boundary (ascii : Bool) | notBoundary (ascii : Bool)
  | wordStart (ascii : Bool) | wordEnd (ascii : Bool)
  | wordStartHalf (ascii : Bool) | wordEndHalf (ascii : Bool)
deriving DecidableEq, Repr

/-- A resolved regular expression. `loop` repeats its part `min` times at least and `max` times at
most. -/
inductive Expr where
  | empty
  | literal (text : List Char)
  | char (k : CharClass)
  | look (l : Look)
  | capture (index : Nat) (sub : Expr)
  | loop (min : Nat) (max : Option Nat) (greedy : Bool) (sub : Expr)
  | cat (subs : List Expr)
  | alt (subs : List Expr)
deriving Repr

namespace Expr

/-! ## Lengths of matches -/

/-- Number of bytes of a text. -/
def byteLength (text : List Char) : Nat :=
  text.foldl (fun n c => n + c.utf8Size) 0

/-- The sum of two lengths, if both are known. -/
def addLengths (a b : Option Nat) : Option Nat :=
  a.bind fun m => b.map fun n => m + n

/-- The choice `f` of two lengths, if both are known. -/
def chooseLength (f : Nat → Nat → Nat) (a b : Option Nat) : Option Nat :=
  a.bind fun m => b.map fun n => f m n

mutual

/-- The least number of bytes of a match; none for what never matches. -/
def minLength? : Expr → Option Nat
  | .empty | .look _ => some 0
  | .literal text => some (byteLength text)
  | .char k => (k[0]?).map fun r => (Char.ofNat r.1).utf8Size
  | .capture _ sub => sub.minLength?
  | .loop min _ _ sub => sub.minLength?.map (· * min)
  | .cat subs => minLengthSum? subs
  | .alt subs => minLengthChoice? subs

/-- The sum of the least numbers of bytes of several parts. -/
def minLengthSum? : List Expr → Option Nat
  | [] => some 0
  | e :: es => addLengths e.minLength? (minLengthSum? es)

/-- The least number of bytes among several ways; none as soon as one of them never matches. -/
def minLengthChoice? : List Expr → Option Nat
  | [] => none
  | [e] => e.minLength?
  | e :: es => chooseLength min e.minLength? (minLengthChoice? es)

end

mutual

/-- The greatest number of bytes of a match; none when there is no bound, and for what never
matches. -/
def maxLength? : Expr → Option Nat
  | .empty | .look _ => some 0
  | .literal text => some (byteLength text)
  | .char k => k.back?.map fun r => (Char.ofNat r.2).utf8Size
  | .capture _ sub => sub.maxLength?
  | .loop _ max _ sub => max.bind fun n => sub.maxLength?.map (· * n)
  | .cat subs => maxLengthSum? subs
  | .alt subs => maxLengthChoice? subs

/-- The sum of the greatest numbers of bytes of several parts. -/
def maxLengthSum? : List Expr → Option Nat
  | [] => some 0
  | e :: es => addLengths e.maxLength? (maxLengthSum? es)

/-- The greatest number of bytes among several ways. -/
def maxLengthChoice? : List Expr → Option Nat
  | [] => none
  | [e] => e.maxLength?
  | e :: es => chooseLength max e.maxLength? (maxLengthChoice? es)

end

/-- Whether every match is known to take at least one byte. -/
def isSolid (e : Expr) : Bool :=
  match e.minLength? with
  | some n => n != 0
  | none => false

/-- Whether every match is known to be empty. -/
def isHollow (e : Expr) : Bool :=
  e.maxLength? == some 0

/-! ## Equality -/

mutual

/-- Whether two expressions are written alike. -/
def same : Expr → Expr → Bool
  | .empty, .empty => true
  | .literal s, .literal t => s == t
  | .char k, .char l => k == l
  | .look l, .look m => l == m
  | .capture i a, .capture j b => i == j && same a b
  | .loop min max greedy a, .loop min' max' greedy' b =>
    min == min' && max == max' && greedy == greedy' && same a b
  | .cat as, .cat bs => sameAll as bs
  | .alt as, .alt bs => sameAll as bs
  | _, _ => false

/-- Whether the expressions of two lists are written alike. -/
def sameAll : List Expr → List Expr → Bool
  | [], [] => true
  | a :: as, b :: bs => same a b && sameAll as bs
  | _, _ => false

end

/-! ## Building expressions -/

/-- The expression of a class. A class of one character is that character. -/
def ofClass (k : CharClass) : Expr :=
  match k.toList with
  | [(a, b)] => if a = b then .literal [Char.ofNat a] else .char k
  | _ => .char k

/-- A repetition. What only matches the empty text is repeated once at most; a repetition without
rounds is empty, and one round of a part is the part. -/
def repeated (min : Nat) (max : Option Nat) (greedy : Bool) (sub : Expr) : Expr :=
  let least := if sub.isHollow then Nat.min min 1 else min
  let most := if sub.isHollow then some (Nat.min (max.getD 1) 1) else max
  if least = 0 ∧ most = some 0 then .empty
  else if least = 1 ∧ most = some 1 then sub
  else .loop least most greedy sub

/-- The parts of an expression that stands in a sequence. -/
def parts : Expr → List Expr
  | .cat subs => subs
  | .empty => []
  | e => [e]

/-- The ways of an expression that stands among alternatives. -/
def ways : Expr → List Expr
  | .alt subs => subs
  | e => [e]

/-- Joins texts that follow each other. -/
def joinLiterals : List Expr → List Expr
  | [] => []
  | .literal s :: es =>
    match joinLiterals es with
    | .literal t :: more => .literal (s ++ t) :: more
    | more => .literal s :: more
  | e :: es => e :: joinLiterals es

/-- A sequence of parts. -/
def sequence (subs : List Expr) : Expr :=
  match joinLiterals (subs.flatMap parts) with
  | [] => .empty
  | [e] => e
  | es => .cat es

/-- The ranges of expressions that are single characters, all of them. -/
def singleChars? : List Expr → Option (List (Nat × Nat))
  | [] => some []
  | .literal [c] :: es => (singleChars? es).map fun rs => (c.toNat, c.toNat) :: rs
  | _ => none

/-- The ranges of expressions that are classes, all of them. -/
def classRanges? : List Expr → Option (List (Nat × Nat))
  | [] => some []
  | .char k :: es => (classRanges? es).map fun rs => k.toList ++ rs
  | _ => none

/-- Number of parts that two sequences have in common at their fronts. -/
def commonLength : List Expr → List Expr → Nat
  | a :: as, b :: bs => if same a b then commonLength as bs + 1 else 0
  | _, _ => 0

/-- Number of parts that all of several sequences begin with; none of them when one is no sequence
of several parts. -/
def commonFront (front : List Expr) : List Expr → Nat
  | [] => front.length
  | .cat subs :: es => commonFront (front.take (commonLength front subs)) es
  | _ => 0

/-- Alternatives, tried in order. Parts that all of them begin with are taken out in front. Each
round of this leaves a smaller expression, so that `fuel` is the size of the alternatives. -/
def alternativesWithin : Nat → List Expr → Expr
  | fuel, subs =>
    match subs.flatMap ways with
    | [] => .char CharClass.none
    | [e] => e
    | first :: es =>
      match singleChars? (first :: es), classRanges? (first :: es) with
      | some rs, _ => ofClass (Ranges.ofList rs)
      | none, some rs => ofClass (Ranges.ofList rs)
      | none, none =>
        let count := if first.parts.length < 2 then 0 else commonFront first.parts es
        match fuel, count with
        | fuel + 1, n + 1 =>
          let rest := (first :: es).map fun e => sequence (e.parts.drop (n + 1))
          sequence (first.parts.take (n + 1) ++ [alternativesWithin fuel rest])
        | _, _ => .alt (first :: es)

mutual

/-- Number of nodes of an expression. -/
def size : Expr → Nat
  | .empty | .literal _ | .char _ | .look _ => 1
  | .capture _ sub => sub.size + 1
  | .loop _ _ _ sub => sub.size + 1
  | .cat subs => sizeAll subs + 1
  | .alt subs => sizeAll subs + 1

/-- Number of nodes of several expressions. -/
def sizeAll : List Expr → Nat
  | [] => 0
  | e :: es => e.size + sizeAll es

end

/-- Alternatives, tried in order. -/
def alternatives (subs : List Expr) : Expr :=
  alternativesWithin (sizeAll subs) subs

/-! ## Groups -/

mutual

/-- The greatest index of a group in the expression, zero if there is none. -/
def groupCount : Expr → Nat
  | .empty | .literal _ | .look _ | .char _ => 0
  | .capture i sub => max i sub.groupCount
  | .loop _ _ _ sub => sub.groupCount
  | .cat subs => groupCountAll subs
  | .alt subs => groupCountAll subs

/-- The greatest index of a group in several expressions. -/
def groupCountAll : List Expr → Nat
  | [] => 0
  | e :: es => max e.groupCount (groupCountAll es)

end

end Expr

end AdaptiveTree.Regex
