import AdaptiveTree.Heap
import AdaptiveTree.Locale.Data

/-!
# Making a list format

A list format is made from two arguments: the locales asked for, and an object with options. The
locales are read first, then the options in a fixed order, then the combination of options is
checked, and last the locale is resolved.
-/

set_option autoImplicit false

namespace AdaptiveTree

/-- The indices below its length that an object has, in ascending order. -/
def Object.ownIndices (o : Object) : List UInt32 :=
  let dense := (List.range o.elements.size).map UInt32.ofNat
  let named := o.properties.entries.filterMap fun e => Key.parseIndex? e.1
  (((dense ++ named).eraseDups.mergeSort (· ≤ ·)).filter fun i =>
    i < o.length && o.hasOwn (.index i))

namespace Locale

/-- The canonical form of a value that must be a language tag. -/
def tagOfValue : Value → Except Fault String
  | .string tag =>
    match canonicalTag? tag with
    | some t => .ok t
    | none => .error (.invalidTag tag)
  | v => .error (.localeNotString v.typeName)

/-- The values of the locales argument: a text is one locale, an object is a list of them by its
indices, and anything else that is not null is none at all. -/
def localeValues (h : Heap) : Value → Except Fault (List Value)
  | .null => .error .nullArgument
  | .string s => .ok [.string s]
  | .object id =>
    let o := h.get id
    .ok (o.ownIndices.map fun i => o.get (.index i))
  | _ => .ok []

/-- The locales asked for, in canonical form and without repetitions. All of them are checked before
repetitions are dropped. -/
def localeList (h : Heap) (v : Value) : Except Fault (List String) :=
  match localeValues h v with
  | .error e => .error e
  | .ok vs =>
    match vs.mapM tagOfValue with
    | .error e => .error e
    | .ok tags => .ok tags.eraseDups

/-- The options argument: an object, or none. Null is refused. -/
def optionsObject (h : Heap) : Value → Except Fault (Option Object)
  | .null => .error .nullArgument
  | .object id => .ok (some (h.get id))
  | _ => .ok none

/-- The text of an option by name: the default when it is absent or undefined, else its own text,
which must be one of those allowed. -/
def option (h : Heap) (options : Option Object) (name : String) (allowed : List String)
    (fallback : String) : Except Fault String :=
  match options.bind (·.named? name) with
  | none | some .undefined => .ok fallback
  | some v =>
    if allowed.contains (h.display v) then .ok (h.display v)
    else .error (.optionOutOfRange (h.display v) name)

/-- Makes a list format for the given locales and options. -/
def ListFormat.make (h : Heap) (d : Data) (locales options : Value) : Except Fault ListFormat := do
  let requested ← localeList h locales
  let options ← optionsObject h options
  let matcher ← option h options "localeMatcher" Matcher.names "best fit"
  let type ← option h options "type" ListType.names "conjunction"
  let style ← option h options "style" ListStyle.names "long"
  let matcher := (Matcher.ofName? matcher).getD .bestFit
  let type := (ListType.ofName? type).getD .conjunction
  let style := (ListStyle.ofName? style).getD .long
  if style = .narrow ∧ type ≠ .unit then
    .error .narrowNeedsUnit
  else
    .ok { requested, locale := d.resolve requested, type, style, matcher }

/-- A list format with its patterns, which are looked up when they are first needed and kept from
then on, also when the look-up fails. -/
structure Formatter where
  format : ListFormat
  patterns : Option (Except Fault ListPatterns) := none

namespace Formatter

/-- Whether the patterns have been looked up. -/
def isBuilt (f : Formatter) : Bool :=
  f.patterns.isSome

/-- Looks up the patterns of a list format. -/
def lookup (format : ListFormat) : Except Fault ListPatterns :=
  match ListPatterns.ofLocale? format.locale format.type format.style with
  | some p => .ok p
  | none => .error (.noListPatterns format.locale)

/-- The patterns: those kept, or those looked up now. -/
def resource (f : Formatter) : Except Fault ListPatterns :=
  f.patterns.getD (lookup f.format)

/-- Joins a list of texts, and keeps the patterns. -/
def join (f : Formatter) (items : List String) : Except Fault String × Formatter :=
  (f.resource.map fun p => p.join items, { f with patterns := some f.resource })

end Formatter

end Locale

end AdaptiveTree
