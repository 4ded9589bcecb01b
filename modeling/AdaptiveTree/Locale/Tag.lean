/-!
# Language tags

A language tag is a list of subtags joined by hyphens: a language, then an optional script, regions
and variants, then an optional tail that begins with a subtag of one character. The canonical form
differs from the tag at most in the case of ASCII letters: a script is capitalised, a region is in
upper case and everything else in lower case.
-/

set_option autoImplicit false

namespace AdaptiveTree.Locale

/-- One part of a language tag. -/
abbrev Subtag := List Char

/-- The parts between hyphens. -/
def splitHyphens : List Char → List Subtag
  | [] => [[]]
  | c :: cs =>
    if c = '-' then [] :: splitHyphens cs
    else
      match splitHyphens cs with
      | [] => [[c]]
      | s :: rest => (c :: s) :: rest

/-- Parts joined by hyphens. -/
def joinHyphens : List Subtag → List Char
  | [] => []
  | [s] => s
  | s :: rest => s ++ '-' :: joinHyphens rest

/-- A subtag has one to eight ASCII letters or digits. -/
def isSubtag (s : Subtag) : Bool :=
  !s.isEmpty && s.length ≤ 8 && s.all Char.isAlphanum

/-- A language has two, three or five to eight letters. -/
def isLanguage (s : Subtag) : Bool :=
  (s.length == 2 || s.length == 3 || (5 ≤ s.length && s.length ≤ 8)) && s.all Char.isAlpha

/-- The subtag in lower case. -/
def lower (s : Subtag) : Subtag :=
  s.map Char.toLower

/-- The subtag in upper case. -/
def upper (s : Subtag) : Subtag :=
  s.map Char.toUpper

/-- The subtag in lower case but for its first character. -/
def capitalize : Subtag → Subtag
  | [] => []
  | c :: cs => c.toUpper :: lower cs

/-- The canonical form of a subtag after the language and before the tail; `second` tells whether it
follows the language directly. -/
def canonicalSubtag? (second : Bool) (s : Subtag) : Option Subtag :=
  if second && s.length == 4 && s.all Char.isAlpha then some (capitalize s)
  else if second && s.length == 3 && s.all Char.isAlpha then some (lower s)
  else if (s.length == 2 && s.all Char.isAlpha) || (s.length == 3 && s.all Char.isDigit) then
    some (upper s)
  else if 4 ≤ s.length then some (lower s)
  else none

/-- The canonical forms of the subtags after the language. A subtag of one character begins the
tail, which is in lower case. -/
def canonicalRest? : Bool → List Subtag → Option (List Subtag)
  | _, [] => some []
  | second, s :: rest =>
    if s.length = 1 then some (lower s :: rest.map lower)
    else
      (canonicalSubtag? second s).bind fun c =>
        (canonicalRest? false rest).map fun cs => c :: cs

/-- Whether the last subtag has one character. -/
def endsInSingleton (ss : List Subtag) : Bool :=
  match ss.getLast? with
  | some s => s.length == 1
  | none => false

/-- The canonical form of a list of subtags, if it is a language tag. -/
def canonicalSubtags? (ss : List Subtag) : Option (List Subtag) :=
  if !ss.all isSubtag then none
  else
    match ss with
    | [] => none
    | language :: rest =>
      if !isLanguage language || endsInSingleton rest then none
      else (canonicalRest? true rest).map fun cs => lower language :: cs

/-- The canonical form of a language tag; none when the text is not a language tag. -/
def canonicalTag? (tag : String) : Option String :=
  (canonicalSubtags? (splitHyphens tag.toList)).map fun ss => String.ofList (joinHyphens ss)

end AdaptiveTree.Locale
