import AdaptiveTree.Config.Settings
import AdaptiveTree.Exec.Machine
import AdaptiveTree.Node.Build
import AdaptiveTree.Pattern.Cache

/-!
# Contexts

A context is what programs share: the settings, the engine that compiles patterns, and the locales.
-/

set_option autoImplicit false

namespace AdaptiveTree

open AdaptiveTree.Config (Settings SettingsFault)

/-- What programs share. -/
structure Context where
  settings : Settings
  engine : Pattern.Engine
  locales : Locale.Data
  listening : Bool := false

namespace Context

/-- A context for settings that are not checked. -/
def ofSettings (s : Settings) : Context where
  settings := s
  engine := .caching s.cacheCapacity
  locales := .ofTags s.defaultLocale s.availableLocales

/-- A context for settings that are checked first. -/
def checked (s : Settings) : Except SettingsFault Context :=
  match s.validate with
  | .error flaw => .error (.unusable flaw)
  | .ok () => .ok (ofSettings s)

/-- The builder for the strictness of the settings. -/
def builder (c : Context) : Builder :=
  ⟨{ strict := c.settings.strict }⟩

/-- The environment of programs; `recording` tells whether events are kept. -/
def env (c : Context) (recording : Bool) : Env :=
  ⟨c.settings.speculation, recording, c.locales⟩

/-- Compiles a pattern. -/
def compile (c : Context) (source flags : String) : Except Fault (Handle Pattern) × Context :=
  let (result, engine) := c.engine.compile (source, flags)
  (match result with
    | .ok p => .ok p
    | .error why => .error (.refusedPattern why),
   { c with engine })

/-- A text argument. -/
def stringArgument (name : String) : Value → Except Fault String
  | .string s => .ok s
  | v => .error (.argumentNotString name v.typeName)

/-- The pattern and the flags that a list of one or two arguments gives. -/
def patternArguments : List Value → Except Fault (String × String)
  | [p] => (stringArgument "pattern" p).map fun p => (p, "")
  | [p, f] => do
    let p ← stringArgument "pattern" p
    let f ← stringArgument "flags" f
    return (p, f)
  | args => .error (.argumentCount args.length)

/-- Compiles a pattern given as a list of arguments. -/
def compileArguments (c : Context) (args : List Value) :
    Except Fault (Handle Pattern) × Context :=
  match patternArguments args with
  | .error e => (.error e, c)
  | .ok (source, flags) => c.compile source flags

/-- The context as a listing for developers. -/
def listing (c : Context) : String :=
  "Context \x7b config: " ++ c.settings.listing ++
    ", list_format: ListFormatInitializer \x7b data: BuiltinLocaleData \x7b default_locale: " ++
    Text.quote c.locales.defaultLocale ++ ", available: [" ++
    String.intercalate ", " (c.locales.available.map Text.quote) ++ "] \x7d \x7d, listener: " ++
    (if c.listening then "true" else "false") ++ ", .. \x7d"

end Context

end AdaptiveTree
