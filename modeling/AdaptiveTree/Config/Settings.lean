import AdaptiveTree.Config.Reader
import AdaptiveTree.Locale.Tag
import AdaptiveTree.Text.Quoted

/-!
# Settings

The settings of an engine, in four sections. Each of them has a default, and a document gives those
that differ. A key that names no setting is refused. Settings are usable when at least one pattern
can be kept, all locales are language tags, and the default locale is among the available ones.
-/

set_option autoImplicit false

namespace AdaptiveTree.Config

/-- How much is logged. -/
inductive LogLevel where
  | error | warn | info | debug | trace
deriving DecidableEq, Repr

namespace LogLevel

/-- The name of a level. -/
def name : LogLevel → String
  | .error => "error"
  | .warn => "warn"
  | .info => "info"
  | .debug => "debug"
  | .trace => "trace"

/-- The name of a level in capitals. -/
def capitals (l : LogLevel) : String :=
  String.ofList (l.name.toList.map Char.toUpper)

/-- The name of a level with a capital first letter. -/
def title (l : LogLevel) : String :=
  String.ofList (Locale.capitalize l.name.toList)

/-- The level with the given name. -/
def ofName? (s : String) : Option LogLevel :=
  [error, warn, info, debug, trace].find? fun l => l.name == s

end LogLevel

/-- The settings of an engine. -/
structure Settings where
  strict : Bool := false
  speculation : Bool := true
  cacheCapacity : Nat := 64
  defaultLocale : String := "en"
  availableLocales : List String := ["en", "de", "fr", "es"]
  level : LogLevel := .info
deriving DecidableEq, Repr

/-- Why settings are not usable. -/
inductive Flaw where
  | noCapacity
  | badDefault (tag : String)
  | badAvailable (tag : String)
  | defaultMissing (tag : String)
deriving DecidableEq, Repr

/-- Why settings cannot be had. -/
inductive SettingsFault where
  | unreadable (path : String)
  | malformed
  | unusable (flaw : Flaw)
deriving DecidableEq, Repr

/-- The wording of a flaw. -/
def Flaw.message : Flaw → String
  | .noCapacity => "pattern.cache_capacity must be at least 1"
  | .badDefault tag => "intl.default_locale '" ++ tag ++ "' is not a valid language tag"
  | .badAvailable tag => "intl.available_locales entry '" ++ tag ++ "' is not a valid language tag"
  | .defaultMissing tag =>
    "intl.default_locale '" ++ tag ++ "' is not listed in intl.available_locales"

/-- The wording of a fault. -/
def SettingsFault.message : SettingsFault → String
  | .unreadable path => "Failed to read '" ++ path ++ "': No such file or directory (os error 2)"
  | .malformed => "Invalid configuration"
  | .unusable flaw => "Configuration rejected: " ++ flaw.message

namespace Settings

/-- The canonical forms of the available locales, or the first that is not a language tag. -/
def canonicalLocales : List String → Except Flaw (List String)
  | [] => .ok []
  | tag :: tags =>
    match Locale.canonicalTag? tag with
    | none => .error (.badAvailable tag)
    | some t => (canonicalLocales tags).map (t :: ·)

/-- Checks that the settings are usable. -/
def validate (s : Settings) : Except Flaw Unit :=
  if s.cacheCapacity = 0 then .error .noCapacity
  else
    match Locale.canonicalTag? s.defaultLocale with
    | none => .error (.badDefault s.defaultLocale)
    | some locale =>
      match canonicalLocales s.availableLocales with
      | .error flaw => .error flaw
      | .ok tags =>
        if tags.contains locale then .ok () else .error (.defaultMissing s.defaultLocale)

/-! ## Settings from a document -/

/-- Takes a setting from a value, if the value has the right kind. -/
abbrev Setter := Toml → Settings → Option Settings

/-- The texts that an array holds, if it holds nothing else. -/
def strings? : List Toml → Option (List String)
  | [] => some []
  | .string s :: items => (strings? items).map (s :: ·)
  | _ => none

/-- Whether a value is an empty array or table. -/
def isVoid : Toml → Bool
  | .array [] | .table _ [] | .tables [] => true
  | _ => false

/-- A level: its name, or a table with its name as the only key and nothing under it. -/
def level? : Toml → Option LogLevel
  | .string s => LogLevel.ofName? s
  | .table _ [(key, v)] => if isVoid v then LogLevel.ofName? key else none
  | _ => none

/-- A setter for a setting that is true or false. -/
def boolSetter (set : Bool → Settings → Settings) : Setter
  | .bool b, s => some (set b s)
  | _, _ => none

/-- The settings of each section by key, in order. -/
def sections : List (String × List (String × Setter)) :=
  [("execution",
      [("strict", boolSetter fun b s => { s with strict := b }),
       ("speculation", boolSetter fun b s => { s with speculation := b })]),
   ("pattern",
      [("cache_capacity", fun v s =>
          match v with
          | .int (.ofNat n) => some { s with cacheCapacity := n }
          | _ => none)]),
   ("intl",
      [("default_locale", fun v s =>
          match v with
          | .string tag => some { s with defaultLocale := tag }
          | _ => none),
       ("available_locales", fun v s =>
          match v with
          | .array items => (strings? items).map fun tags => { s with availableLocales := tags }
          | _ => none)]),
   ("logging",
      [("level", fun v s => (level? v).map fun l => { s with level := l })])]

/-- Takes settings by key; every key must be known. -/
def setByKey (setters : List (String × Setter)) : Toml.Entries → Settings → Option Settings
  | [], s => some s
  | (key, v) :: es, s =>
    match setters.lookup key with
    | none => none
    | some set => (set v s).bind (setByKey setters es)

/-- Takes settings in order, as far as there are values; values past the last setting are
ignored. -/
def setInOrder : List Setter → List Toml → Settings → Option Settings
  | set :: setters, v :: vs, s => (set v s).bind (setInOrder setters vs)
  | _, _, s => some s

/-- Takes the settings of a section from a table, or in order from an array. -/
def setSection (setters : List (String × Setter)) : Setter
  | .table _ es, s => setByKey setters es s
  | .array items, s => setInOrder (setters.map (·.2)) items s
  | .tables items, s => setInOrder (setters.map (·.2)) (items.map (.table .header)) s
  | _, _ => none

/-- The settings that a document gives, unchecked. -/
def ofEntries? (es : Toml.Entries) : Option Settings :=
  setByKey (sections.map fun (name, setters) => (name, setSection setters)) es {}

/-- The settings that a text gives, checked. -/
def parse (text : String) : Except SettingsFault Settings :=
  match (Toml.read? text).bind ofEntries? with
  | none => .error .malformed
  | some s =>
    match s.validate with
    | .error flaw => .error (.unusable flaw)
    | .ok () => .ok s

/-- The settings as a listing for developers. -/
def listing (s : Settings) : String :=
  let flag := fun (b : Bool) => if b then "true" else "false"
  let locales := String.intercalate ", " (s.availableLocales.map Text.quote)
  "EngineConfig \x7b execution: ExecutionConfig \x7b strict: " ++ flag s.strict ++
    ", speculation: " ++ flag s.speculation ++
    " \x7d, pattern: PatternConfig \x7b cache_capacity: " ++ Nat.repr s.cacheCapacity ++
    " \x7d, intl: IntlConfig \x7b default_locale: " ++ Text.quote s.defaultLocale ++
    ", available_locales: [" ++ locales ++
    "] \x7d, logging: LoggingConfig \x7b level: " ++ s.level.title ++ " \x7d \x7d"

end Settings

end AdaptiveTree.Config
