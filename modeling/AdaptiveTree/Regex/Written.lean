import AdaptiveTree.Text.Property.Query

/-!
# Regular expressions as written

The tree that the text of a regular expression denotes before its flags are applied: a literal is
still a literal, whether case matters or not, and an inline flag group stands where it was written.
-/

set_option autoImplicit false

namespace AdaptiveTree.Regex

open AdaptiveTree.Text.Property (Query)

/-- A flag that an inline group can set or clear. -/
inductive Flag where
  | ignoreCase | multiLine | dotAll | swapGreed | unicode | crlf | verbose
deriving DecidableEq, Repr

/-- The flag that a letter names. -/
def Flag.ofChar? : Char → Option Flag
  | 'i' => some .ignoreCase
  | 'm' => some .multiLine
  | 's' => some .dotAll
  | 'U' => some .swapGreed
  | 'u' => some .unicode
  | 'R' => some .crlf
  | 'x' => some .verbose
  | _ => none

/-- Flags in the order written, each with the value that it gets. -/
abbrev FlagChanges := List (Flag × Bool)

/-- The value that the changes give to a flag, if they mention it. -/
def FlagChanges.value? (changes : FlagChanges) (flag : Flag) : Option Bool :=
  (changes.find? (·.1 == flag)).map (·.2)

/-- A condition on a position, as written. -/
inductive Anchor where
  | lineStart | lineEnd | textStart | textEnd
  | boundary | notBoundary | wordStart | wordEnd | wordStartHalf | wordEndHalf
deriving DecidableEq, Repr

/-- A class named by a letter. -/
inductive NamedClass where
  | digit | blank | word
deriving DecidableEq, Repr

/-- An operation between two parts of a bracket expression. -/
inductive SetOp where
  | intersection | difference | symmetricDifference
deriving DecidableEq, Repr

/-- A part of a bracket expression. A literal remembers whether it was spelled as a byte, with two
hexadecimal digits. A union has any number of parts but one. -/
inductive ClassItem where
  | literal (c : Char) (byte : Bool)
  | range (first last : Char) (firstByte lastByte : Bool)
  | ascii (ranges : List (Nat × Nat)) (negated : Bool)
  | named (k : NamedClass) (negated : Bool)
  | property (q : Query) (negated : Bool)
  | bracket (negated : Bool) (set : ClassItem)
  | union (items : List ClassItem)
  | op (o : SetOp) (lhs rhs : ClassItem)
deriving Repr

/-- A regular expression as written. -/
inductive Written where
  | empty
  | flags (changes : FlagChanges)
  | literal (c : Char) (byte : Bool)
  | dot
  | anchor (a : Anchor)
  | named (k : NamedClass) (negated : Bool)
  | property (q : Query) (negated : Bool)
  | bracket (negated : Bool) (set : ClassItem)
  | repetition (min : Nat) (max : Option Nat) (greedy : Bool) (sub : Written)
  | group (index : Option Nat) (changes : FlagChanges) (sub : Written)
  | alternation (subs : List Written)
  | concat (subs : List Written)
deriving Repr

mutual

/-- Nesting depth of a bracket expression. A part that is left out has none. -/
def ClassItem.depth : ClassItem → Nat
  | .literal .. | .range .. | .ascii .. | .named .. | .property .. | .union [] => 0
  | .bracket _ set => set.depth + 1
  | .union items => ClassItem.depthAll items + 1
  | .op _ lhs rhs => max lhs.depth rhs.depth + 1

/-- The greatest nesting depth among several parts. -/
def ClassItem.depthAll : List ClassItem → Nat
  | [] => 0
  | item :: items => max item.depth (ClassItem.depthAll items)

end

mutual

/-- Nesting depth of an expression: groups, repetitions, brackets, sequences and alternations
count. -/
def Written.depth : Written → Nat
  | .empty | .flags _ | .literal .. | .dot | .anchor _ | .named .. | .property .. => 0
  | .bracket _ set => set.depth + 1
  | .repetition _ _ _ sub => sub.depth + 1
  | .group _ _ sub => sub.depth + 1
  | .alternation subs => Written.depthAll subs + 1
  | .concat subs => Written.depthAll subs + 1

/-- The greatest nesting depth among several expressions. -/
def Written.depthAll : List Written → Nat
  | [] => 0
  | sub :: subs => max sub.depth (Written.depthAll subs)

end

/-- The deepest nesting that a regular expression may have. -/
def depthLimit : Nat := 250

end AdaptiveTree.Regex
