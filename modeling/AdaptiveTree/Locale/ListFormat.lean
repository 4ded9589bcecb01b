/-!
# List formats

A list format fixes how a list of texts is joined: its locale, the type of the list and the style.
The texts are joined by four patterns with two places each.
-/

set_option autoImplicit false

namespace AdaptiveTree.Locale

/-- What the members of a list have to do with each other. -/
inductive ListType where
  | conjunction | disjunction | unit
deriving DecidableEq, Repr

namespace ListType

/-- The name of the type. -/
def name : ListType → String
  | .conjunction => "conjunction"
  | .disjunction => "disjunction"
  | .unit => "unit"

/-- The texts that name a type. -/
def names : List String :=
  ["conjunction", "disjunction", "unit"]

/-- The type with the given name. -/
def ofName? (s : String) : Option ListType :=
  [conjunction, disjunction, unit].find? fun t => t.name == s

end ListType

/-- How much room the joined list may take. -/
inductive ListStyle where
  | long | short | narrow
deriving DecidableEq, Repr

namespace ListStyle

/-- The name of the style. -/
def name : ListStyle → String
  | .long => "long"
  | .short => "short"
  | .narrow => "narrow"

/-- The texts that name a style. -/
def names : List String :=
  ["long", "short", "narrow"]

/-- The style with the given name. -/
def ofName? (s : String) : Option ListStyle :=
  [long, short, narrow].find? fun t => t.name == s

end ListStyle

/-- How a locale is chosen among the available ones. -/
inductive Matcher where
  | lookup | bestFit
deriving DecidableEq, Repr

namespace Matcher

/-- The name of the matcher. -/
def name : Matcher → String
  | .lookup => "lookup"
  | .bestFit => "best fit"

/-- The texts that name a matcher. -/
def names : List String :=
  ["lookup", "best fit"]

/-- The matcher with the given name. -/
def ofName? (s : String) : Option Matcher :=
  [lookup, bestFit].find? fun t => t.name == s

end Matcher

/-- The patterns that join two texts: alone, at the start of a longer list, inside it and at its
end. -/
structure ListPatterns where
  pair : String
  start : String
  middle : String
  last : String
deriving DecidableEq, Repr

/-- Puts two texts into the places `{0}` and `{1}` of a pattern in one pass, so that places in the
inserted texts are left alone. -/
def fillFrom (first second : List Char) : List Char → List Char
  | '\x7b' :: '0' :: '\x7d' :: cs => first ++ fillFrom first second cs
  | '\x7b' :: '1' :: '\x7d' :: cs => second ++ fillFrom first second cs
  | c :: cs => c :: fillFrom first second cs
  | [] => []

/-- The pattern with two texts in its places. -/
def fill (pattern first second : String) : String :=
  String.ofList (fillFrom first.toList second.toList pattern.toList)

namespace ListPatterns

/-- Joins the texts after the first of a list of three or more. -/
def joinTail (p : ListPatterns) : String → List String → String
  | a, [] => a
  | a, [b] => fill p.last a b
  | a, b :: rest => fill p.middle a (p.joinTail b rest)

/-- Joins a list of texts. -/
def join (p : ListPatterns) : List String → String
  | [] => ""
  | [a] => a
  | [a, b] => fill p.pair a b
  | a :: b :: rest => fill p.start a (p.joinTail b rest)

/-- Patterns that join with a separator everywhere but in a pair and at the end. -/
def withLast (separator pair last : String) : ListPatterns :=
  let between := "\x7b0\x7d" ++ separator ++ "\x7b1\x7d"
  ⟨"\x7b0\x7d" ++ pair ++ "\x7b1\x7d", between, between, "\x7b0\x7d" ++ last ++ "\x7b1\x7d"⟩

/-- The patterns of a language, if there are any. -/
def ofLanguage? (language : String) (type : ListType) (style : ListStyle) : Option ListPatterns :=
  match language, type, style with
  | "en", .conjunction, .long => some (withLast ", " " and " ", and ")
  | "en", .conjunction, .short => some (withLast ", " " & " ", & ")
  | "en", .conjunction, .narrow => some (withLast ", " ", " ", ")
  | "en", .disjunction, _ => some (withLast ", " " or " ", or ")
  | "en", .unit, .narrow => some (withLast " " " " " ")
  | "en", .unit, _ => some (withLast ", " ", " ", ")
  | "de", .conjunction, _ => some (withLast ", " " und " " und ")
  | "de", .disjunction, _ => some (withLast ", " " oder " " oder ")
  | "de", .unit, .narrow => some (withLast " " " " " ")
  | "de", .unit, _ => some (withLast ", " ", " " und ")
  | "fr", .conjunction, _ => some (withLast ", " " et " " et ")
  | "fr", .disjunction, _ => some (withLast ", " " ou " " ou ")
  | "fr", .unit, .narrow => some (withLast " " " " " ")
  | "fr", .unit, _ => some (withLast ", " " et " " et ")
  | "es", .conjunction, _ => some (withLast ", " " y " " y ")
  | "es", .disjunction, _ => some (withLast ", " " o " " o ")
  | "es", .unit, .narrow => some (withLast " " " " " ")
  | "es", .unit, _ => some (withLast ", " " y " " y ")
  | _, _, _ => none

/-- The part of a locale before its first hyphen. -/
def languageOf (locale : String) : String :=
  String.ofList (locale.toList.takeWhile (· != '-'))

/-- The patterns of the language of a locale. -/
def ofLocale? (locale : String) (type : ListType) (style : ListStyle) : Option ListPatterns :=
  ofLanguage? (languageOf locale) type style

end ListPatterns

/-- A list format: the locales asked for and what they were resolved to. -/
structure ListFormat where
  requested : List String
  locale : String
  type : ListType
  style : ListStyle
  matcher : Matcher
deriving DecidableEq, Repr

/-- A short description of the list format. -/
def ListFormat.text (f : ListFormat) : String :=
  "ListFormat(" ++ f.locale ++ ", " ++ f.type.name ++ ", " ++ f.style.name ++ ")"

end AdaptiveTree.Locale
