import AdaptiveTree.Regex.Expr
import AdaptiveTree.Regex.Written

/-!
# Flags and what they do

The flags that hold at a place decide what is written there means. Resolving an expression carries
them along and gives the resolved expression, or nothing when the expression names an unknown
property or could match a part of a character.
-/

set_option autoImplicit false

namespace AdaptiveTree.Regex

open AdaptiveTree.Text (Ranges)

/-- The flags that hold at a place of a regular expression. -/
structure Mode where
  ignoreCase : Bool := false
  multiLine : Bool := false
  dotAll : Bool := false
  swapGreed : Bool := false
  unicode : Bool := true
  crlf : Bool := false
deriving DecidableEq, Repr

/-- The flags after some changes. -/
def Mode.apply (m : Mode) (changes : FlagChanges) : Mode where
  ignoreCase := (changes.value? .ignoreCase).getD m.ignoreCase
  multiLine := (changes.value? .multiLine).getD m.multiLine
  dotAll := (changes.value? .dotAll).getD m.dotAll
  swapGreed := (changes.value? .swapGreed).getD m.swapGreed
  unicode := (changes.value? .unicode).getD m.unicode
  crlf := (changes.value? .crlf).getD m.crlf

namespace Mode

/-! ## Classes -/

/-- The class closed under case variants, if case is ignored. -/
def fold (m : Mode) (k : CharClass) : CharClass :=
  if m.ignoreCase then
    if m.unicode then Text.closeUnderCase k else CharClass.closeUnderAsciiCase k
  else k

/-- The class or its complement. Outside the Unicode mode a class is a set of bytes: all of them are
ASCII, and the others, which a complement has, could match a part of a character. -/
def negate? (m : Mode) (negated : Bool) (k : CharClass) : Option CharClass :=
  if negated then if m.unicode then some (Ranges.complement k) else none else some k

/-- The characters of a class named by a letter. -/
def namedClass (m : Mode) : NamedClass → CharClass
  | .digit => if m.unicode then Text.digitRanges else #[(48, 57)]
  | .blank => if m.unicode then Text.blankRanges else #[(9, 13), (32, 32)]
  | .word => if m.unicode then Text.wordRanges else #[(48, 57), (65, 90), (95, 95), (97, 122)]

/-- The characters with a property. There are none outside the Unicode mode. -/
def property? (m : Mode) (q : Text.Property.Query) (negated : Bool) : Option CharClass :=
  if m.unicode then q.answer?.bind fun k => m.negate? negated (m.fold k) else none

/-- Whether a literal may stand where it does: outside the Unicode mode a byte must be ASCII, and so
must every literal in brackets. -/
def literalAllowed (m : Mode) (inBracket byte : Bool) (c : Char) : Bool :=
  m.unicode || c.toNat < 128 || !(inBracket || byte)

mutual

/-- The class that a part of a bracket expression denotes. -/
def classOf? (m : Mode) : ClassItem → Option CharClass
  | .literal c byte => if m.literalAllowed true byte c then some (CharClass.single c) else none
  | .range a b aByte bByte =>
    if m.literalAllowed true aByte a && m.literalAllowed true bByte b then
      some #[(a.toNat, b.toNat)]
    else none
  | .ascii rs negated => m.negate? negated (m.fold rs.toArray)
  | .named k negated => m.negate? negated (m.namedClass k)
  | .property q negated => m.property? q negated
  | .bracket negated set => (m.classOf? set).bind fun k => m.negate? negated (m.fold k)
  | .union items => (m.classesOf? items).map Ranges.unionAll
  | .op o lhs rhs =>
    (m.classOf? lhs).bind fun a =>
      (m.classOf? rhs).map fun b =>
        match o with
        | .intersection => Ranges.intersection (m.fold a) (m.fold b)
        | .difference => Ranges.difference (m.fold a) (m.fold b)
        | .symmetricDifference => Ranges.symmetricDifference (m.fold a) (m.fold b)

/-- The classes of several parts. -/
def classesOf? (m : Mode) : List ClassItem → Option (List CharClass)
  | [] => some []
  | item :: items =>
    (m.classOf? item).bind fun k => (m.classesOf? items).map fun ks => k :: ks

end

/-! ## Expressions -/

/-- The expression of a literal. -/
def literal? (m : Mode) (c : Char) (byte : Bool) : Option Expr :=
  if m.literalAllowed false byte c then
    some (if m.unicode || c.toNat < 128 then .ofClass (m.fold (CharClass.single c))
      else .literal [c])
  else none

/-- The expression of the dot: any character, or any that does not end a line. -/
def dot? (m : Mode) : Option Expr :=
  if !m.unicode then none
  else if m.dotAll then some (.char CharClass.any)
  else if m.crlf then some (.char (Ranges.complement #[(10, 10), (13, 13)]))
  else some (.char (Ranges.complement #[(10, 10)]))

/-- The condition of an anchor. -/
def look (m : Mode) : Anchor → Look
  | .lineStart => if !m.multiLine then .textStart else if m.crlf then .crlfStart else .lineStart
  | .lineEnd => if !m.multiLine then .textEnd else if m.crlf then .crlfEnd else .lineEnd
  | .textStart => .textStart
  | .textEnd => .textEnd
  | .boundary => .boundary !m.unicode
  | .notBoundary => .notBoundary !m.unicode
  | .wordStart => .wordStart !m.unicode
  | .wordEnd => .wordEnd !m.unicode
  | .wordStartHalf => .wordStartHalf !m.unicode
  | .wordEndHalf => .wordEndHalf !m.unicode

mutual

/-- The resolved expression, and the flags that hold after it in the same group. -/
def resolve? (m : Mode) : Written → Option (Expr × Mode)
  | .empty => some (.empty, m)
  | .flags changes => some (.empty, m.apply changes)
  | .literal c byte => (m.literal? c byte).map fun e => (e, m)
  | .dot => m.dot?.map fun e => (e, m)
  | .anchor a => some (.look (m.look a), m)
  | .named k negated => (m.negate? negated (m.namedClass k)).map fun k => (.ofClass k, m)
  | .property q negated => (m.property? q negated).map fun k => (.ofClass k, m)
  | .bracket negated set =>
    ((m.classOf? set).bind fun k => m.negate? negated (m.fold k)).map fun k => (.ofClass k, m)
  | .repetition min max greedy sub =>
    (m.resolve? sub).map fun (e, after) =>
      (.repeated min max (greedy != after.swapGreed) e, after)
  | .group index changes sub =>
    ((m.apply changes).resolve? sub).map fun (e, _) =>
      match index with
      | some i => (.capture i e, m)
      | none => (e, m)
  | .alternation subs => (m.resolveAll? subs).map fun (es, m) => (.alternatives es, m)
  | .concat subs => (m.resolveAll? subs).map fun (es, m) => (.sequence es, m)

/-- Resolves expressions that stand one after the other. A flag set in one of them holds in those
after it. -/
def resolveAll? (m : Mode) : List Written → Option (List Expr × Mode)
  | [] => some ([], m)
  | w :: ws =>
    (m.resolve? w).bind fun (e, m) => (m.resolveAll? ws).map fun (es, m) => (e :: es, m)

end

end Mode

end AdaptiveTree.Regex
