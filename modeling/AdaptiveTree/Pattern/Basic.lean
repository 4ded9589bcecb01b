import AdaptiveTree.Pattern.AsciiClasses
import AdaptiveTree.Pattern.Flags
import AdaptiveTree.Regex.Automaton
import AdaptiveTree.Regex.Mode
import AdaptiveTree.Regex.Reader
import AdaptiveTree.Regex.Search
import AdaptiveTree.Text.Offset

/-!
# Patterns

A pattern is a regular expression with flags. Both are checked when it is compiled: first the flags,
then the expression. A match is reported in byte offsets of the subject.
-/

set_option autoImplicit false

namespace AdaptiveTree

open AdaptiveTree.Regex (Mode Program Written)

/-- A compiled pattern. -/
structure Pattern where
  source : String
  flags : Pattern.Flags
  program : Program
deriving Repr

namespace Pattern

/-- What is wrong with a pattern: its flags, or its expression. The library words what is wrong with
an expression, by the text and the mode that it was given. -/
inductive Complaint where
  | flags (fault : FlagFault)
  | expression (given : String) (mode : Mode)
deriving DecidableEq, Repr

/-- Why a pattern is refused. -/
structure Refusal where
  source : String
  complaint : Complaint
deriving DecidableEq, Repr

/-- How the flags of a pattern set the mode of its expression. -/
def Flags.mode (f : Flags) : Mode :=
  { ignoreCase := f.ignoreCase, multiLine := f.multiline, dotAll := f.dotAll }

/-- The text that the library is given for an expression. -/
def Flags.given (f : Flags) (source : String) : String :=
  if f.unicode then source else asciiClasses source

/-- The program of an expression, if it is well formed and not too large. -/
def program? (f : Flags) (source : String) : Option Program :=
  (Written.read? (f.given source)).bind fun w =>
    (f.mode.resolve? w).bind fun (e, _) =>
      if Regex.Automaton.fits e then some (.ofExpr e) else none

/-- Compiles a pattern. -/
def compile (source flags : String) : Except Refusal Pattern :=
  match Flags.parse flags with
  | .error fault => .error ⟨source, .flags fault⟩
  | .ok f =>
    match program? f source with
    | some program => .ok ⟨source, f, program⟩
    | none => .error ⟨source, .expression (f.given source) f.mode⟩

/-- The pattern between slashes, followed by its flags. -/
def text (p : Pattern) : String :=
  "/" ++ p.source ++ "/" ++ p.flags.text

/-- A match: the byte range of the whole match and of each group that took part. -/
structure Match where
  whole : Nat × Nat
  groups : List (Option (Nat × Nat))
deriving DecidableEq, Repr

namespace Match

/-- Number of groups, the whole match not counted. -/
def captureCount (m : Match) : Nat :=
  m.groups.length

/-- The range of group `i`; group 0 is the whole match. -/
def group? (m : Match) (i : Nat) : Option (Nat × Nat) :=
  match i with
  | 0 => some m.whole
  | i + 1 => (m.groups[i]?).join

end Match

/-- The text of a byte range of `subject`, if the range begins and ends between characters. -/
def slice? (subject : String) (range : Nat × Nat) : Option String :=
  let cs := subject.toList
  match Text.charIndex? cs range.1, Text.charIndex? cs range.2 with
  | some a, some b => some (String.ofList ((cs.drop a).take (b - a)))
  | _, _ => none

/-- Looks for a match in `subject` from byte offset `start` on. A start past the end or inside a
character finds nothing, and a sticky pattern matches only at the start itself. -/
def run (p : Pattern) (subject : String) (start : Nat) : Option Match :=
  let cs := subject.toList
  let offsets := Text.byteOffsets cs
  let range := fun (r : Nat × Nat) => (offsets.getD r.1 0, offsets.getD r.2 0)
  match Text.charIndex? cs start with
  | none => none
  | some pos =>
    match p.program.search cs.toArray pos with
    | none => none
    | some found =>
      if p.flags.sticky && found.start != pos then none
      else some ⟨range (found.start, found.stop), found.groups.map (·.map range)⟩

end Pattern

end AdaptiveTree
