/-!
# Pattern flags

The flags of a pattern are written as letters, each at most once and in any order. They are printed
in the order `gimsuy`.
-/

set_option autoImplicit false

namespace AdaptiveTree.Pattern

/-- The flags of a pattern. -/
structure Flags where
  global : Bool := false
  ignoreCase : Bool := false
  multiline : Bool := false
  dotAll : Bool := false
  unicode : Bool := false
  sticky : Bool := false
deriving DecidableEq, Repr

/-- Why a text of flags is refused. -/
inductive FlagFault where
  | unknown (c : Char)
  | repeated (c : Char)
deriving DecidableEq, Repr

/-- The wording of a refusal. -/
def FlagFault.message : FlagFault → String
  | .unknown c => "Invalid flag '" ++ c.toString ++ "'"
  | .repeated c => "Repeated flag '" ++ c.toString ++ "'"

namespace Flags

/-- Sets the flag of a letter, which must be clear. -/
def add (f : Flags) (c : Char) : Except FlagFault Flags :=
  match c with
  | 'g' => if f.global then .error (.repeated c) else .ok { f with global := true }
  | 'i' => if f.ignoreCase then .error (.repeated c) else .ok { f with ignoreCase := true }
  | 'm' => if f.multiline then .error (.repeated c) else .ok { f with multiline := true }
  | 's' => if f.dotAll then .error (.repeated c) else .ok { f with dotAll := true }
  | 'u' => if f.unicode then .error (.repeated c) else .ok { f with unicode := true }
  | 'y' => if f.sticky then .error (.repeated c) else .ok { f with sticky := true }
  | _ => .error (.unknown c)

/-- Sets the flags of some letters, from the first to the last. -/
def addAll (f : Flags) : List Char → Except FlagFault Flags
  | [] => .ok f
  | c :: cs =>
    match f.add c with
    | .ok f => f.addAll cs
    | .error e => .error e

/-- The flags that a text of letters sets. -/
def parse (s : String) : Except FlagFault Flags :=
  addAll {} s.toList

/-- The letters of the flags that are set, in the order `gimsuy`. -/
def letters (f : Flags) : List Char :=
  [(f.global, 'g'), (f.ignoreCase, 'i'), (f.multiline, 'm'), (f.dotAll, 's'), (f.unicode, 'u'),
    (f.sticky, 'y')].filterMap fun (set, c) => if set then some c else none

/-- The flags as a text. -/
def text (f : Flags) : String :=
  String.ofList f.letters

end Flags

end AdaptiveTree.Pattern
