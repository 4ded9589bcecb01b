import AdaptiveTree.Number.Reading
import AdaptiveTree.Regex.Written
import AdaptiveTree.Text.Blank
import AdaptiveTree.Text.Letter

/-!
# Reading a regular expression

The text is read from left to right. Open groups are kept on a stack, and so are open brackets, so
that every step of the two loops uses up at least one character and the length of the text bounds
the number of steps. A reading function takes the rest of the text and gives back what it read with
what is left; none means that the text is not a regular expression.
-/

set_option autoImplicit false

namespace AdaptiveTree.Regex

open AdaptiveTree.Text (isBlank isAlphabetic isAlphanumeric)
open AdaptiveTree.Text.Property (Query)

/-! ## Blanks of the verbose mode -/

/-- The text after blanks and comments; a comment runs from a hash sign to the end of its line. -/
def skipVerbose : Bool → List Char → List Char
  | _, [] => []
  | true, c :: cs => skipVerbose (c != '\n') cs
  | false, c :: cs =>
    if isBlank c then skipVerbose false cs
    else if c = '#' then skipVerbose true cs
    else c :: cs

/-- The text after what the mode ignores. -/
def skip (verbose : Bool) (cs : List Char) : List Char :=
  if verbose then skipVerbose false cs else cs

/-- Drops `word` from the front of the text, if it stands there. -/
def dropWord? : List Char → List Char → Option (List Char)
  | [], cs => some cs
  | _ :: _, [] => none
  | w :: ws, c :: cs => if w = c then dropWord? ws cs else none

/-! ## Escapes -/

/-- Whether a backslash makes the character stand for itself: ASCII characters other than letters,
digits and the angle brackets. -/
def isEscapable (c : Char) : Bool :=
  c.toNat < 128 && !c.isAlphanum && c != '<' && c != '>'

/-- The character with the given code point, if it is one. -/
def scalar? (n : Nat) : Option Char :=
  if n.isValidChar then some (Char.ofNat n) else none

/-- Exactly `n` hexadecimal digits, with what the mode ignores after each. -/
def takeHex (verbose : Bool) : Nat → List Char → Option (List Char × List Char)
  | 0, cs => some ([], cs)
  | _ + 1, [] => none
  | n + 1, c :: cs =>
    if (Number.hexValue? c).isSome then
      (takeHex verbose n (skip verbose cs)).map fun (ds, rest) => (c :: ds, rest)
    else none

/-- Hexadecimal digits up to a closing brace, for at most `fuel` digits. -/
def takeHexBrace (verbose : Bool) : Nat → List Char → Option (List Char × List Char)
  | 0, _ => none
  | _ + 1, [] => none
  | fuel + 1, c :: cs =>
    if c = '\x7d' then some ([], skip verbose cs)
    else if (Number.hexValue? c).isSome then
      (takeHexBrace verbose fuel (skip verbose cs)).map fun (ds, rest) => (c :: ds, rest)
    else none

/-- The character that hexadecimal digits denote; there must be one digit at least. -/
def hexScalar? (digits : List Char) : Option Char :=
  if digits.isEmpty then none
  else (Number.foldDigits Number.hexValue? 16 0 digits).bind scalar?

/-- A character given by its code point, after the letter that announces it and fixes the number of
digits. -/
def readHexEscape (verbose : Bool) (digits : Nat) (cs : List Char) : Option (Written × List Char) :=
  match skip verbose cs with
  | [] => none
  | '\x7b' :: rest =>
    (takeHexBrace verbose (rest.length + 1) (skip verbose rest)).bind fun (ds, rest) =>
      (hexScalar? ds).map fun c => (.literal c false, rest)
  | rest =>
    (takeHex verbose digits rest).bind fun (ds, rest) =>
      (hexScalar? ds).map fun c => (.literal c (digits == 2), rest)

/-- Letters and hyphens, with what the mode ignores after each. -/
def takeBoundaryName (verbose : Bool) : Nat → List Char → List Char × List Char
  | 0, cs => ([], cs)
  | _ + 1, [] => ([], [])
  | fuel + 1, c :: cs =>
    if c.isAlpha || c == '-' then
      let (name, rest) := takeBoundaryName verbose fuel (skip verbose cs)
      (c :: name, rest)
    else ([], c :: cs)

/-- What follows the letter of a word boundary: a kind of boundary in braces, or nothing of its own,
so that braces with a number still are a repetition. -/
def readBoundary (verbose : Bool) (cs : List Char) : Option (Written × List Char) :=
  match cs with
  | '\x7b' :: rest =>
    match skip verbose rest with
    | [] => none
    | c :: more =>
      if !(c.isAlpha || c == '-') then some (.anchor .boundary, cs)
      else
        match takeBoundaryName verbose (more.length + 1) (c :: more) with
        | (name, '\x7d' :: rest) =>
          if name = "start".toList then some (.anchor .wordStart, rest)
          else if name = "end".toList then some (.anchor .wordEnd, rest)
          else if name = "start-half".toList then some (.anchor .wordStartHalf, rest)
          else if name = "end-half".toList then some (.anchor .wordEndHalf, rest)
          else none
        | _ => none
  | _ => some (.anchor .boundary, cs)

/-- The characters of a name up to a closing brace, with what the mode ignores left out. -/
def takePropertyName (verbose : Bool) : Nat → List Char → Option (List Char × List Char)
  | 0, _ => none
  | _ + 1, [] => none
  | fuel + 1, c :: cs =>
    if c = '\x7d' then some ([], cs)
    else
      (takePropertyName verbose fuel (skip verbose cs)).map fun (name, rest) => (c :: name, rest)

/-- What stands before and after the first place where `mark` stands in the text. -/
def splitAt? (mark : List Char) : List Char → Option (List Char × List Char)
  | [] => none
  | c :: cs =>
    match dropWord? mark (c :: cs) with
    | some rest => some ([], rest)
    | none => (splitAt? mark cs).map fun (before, rest) => (c :: before, rest)

/-- The question that the text between braces asks, and whether it asks for the characters that do
not have the property. A name and a value may stand on both sides of one of three signs. -/
def propertyQuery (text : List Char) : Query × Bool :=
  match splitAt? ['!', '='] text with
  | some (name, value) => (.valued name value, true)
  | none =>
    match (splitAt? [':'] text).or (splitAt? ['='] text) with
    | some (name, value) => (.valued name value, false)
    | none => (.named text, false)

/-- A class of characters by a property, after the letter that announces it: the property is one
letter or stands in braces. A capital letter and an unequal sign undo each other. -/
def readProperty (verbose negated : Bool) (cs : List Char) : Option (Written × List Char) :=
  match skip verbose cs with
  | [] => none
  | '\x7b' :: rest =>
    (takePropertyName verbose (rest.length + 1) (skip verbose rest)).map fun (name, rest) =>
      let (query, unequal) := propertyQuery name
      (.property query (negated != unequal), rest)
  | '\\' :: _ => none
  | c :: rest => some (.property (.named [c]) negated, rest)

/-- What a backslash and the text after it denote. -/
def readEscape (verbose : Bool) : List Char → Option (Written × List Char)
  | [] => none
  | c :: cs =>
    if isEscapable c then some (.literal c false, cs)
    else
      match c with
      | 'x' => readHexEscape verbose 2 cs
      | 'u' => readHexEscape verbose 4 cs
      | 'U' => readHexEscape verbose 8 cs
      | 'p' => readProperty verbose false cs
      | 'P' => readProperty verbose true cs
      | 'd' => some (.named .digit false, cs)
      | 'D' => some (.named .digit true, cs)
      | 's' => some (.named .blank false, cs)
      | 'S' => some (.named .blank true, cs)
      | 'w' => some (.named .word false, cs)
      | 'W' => some (.named .word true, cs)
      | 'a' => some (.literal '\x07' false, cs)
      | 'f' => some (.literal '\x0c' false, cs)
      | 't' => some (.literal '\t' false, cs)
      | 'n' => some (.literal '\n' false, cs)
      | 'r' => some (.literal '\r' false, cs)
      | 'v' => some (.literal '\x0b' false, cs)
      | 'A' => some (.anchor .textStart, cs)
      | 'z' => some (.anchor .textEnd, cs)
      | 'b' => readBoundary verbose cs
      | 'B' => some (.anchor .notBoundary, cs)
      | '<' => some (.anchor .wordStart, cs)
      | '>' => some (.anchor .wordEnd, cs)
      | _ => none

/-! ## Bracket expressions -/

/-- The ASCII classes that stand between `[:` and `:]`. -/
def asciiClass? (name : List Char) : Option (List (Nat × Nat)) :=
  match String.ofList name with
  | "alnum" => some [(48, 57), (65, 90), (97, 122)]
  | "alpha" => some [(65, 90), (97, 122)]
  | "ascii" => some [(0, 127)]
  | "blank" => some [(9, 9), (32, 32)]
  | "cntrl" => some [(0, 31), (127, 127)]
  | "digit" => some [(48, 57)]
  | "graph" => some [(33, 126)]
  | "lower" => some [(97, 122)]
  | "print" => some [(32, 126)]
  | "punct" => some [(33, 47), (58, 64), (91, 96), (123, 126)]
  | "space" => some [(9, 13), (32, 32)]
  | "upper" => some [(65, 90)]
  | "word" => some [(48, 57), (65, 90), (95, 95), (97, 122)]
  | "xdigit" => some [(48, 57), (65, 70), (97, 102)]
  | _ => none

/-- An ASCII class after its opening bracket, if one stands there. -/
def readAsciiClass (cs : List Char) : Option (ClassItem × List Char) :=
  match cs with
  | ':' :: rest =>
    let (negated, rest) :=
      match rest with
      | '^' :: more => (true, more)
      | _ => (false, rest)
    match rest.dropWhile (· != ':') with
    | ':' :: ']' :: after =>
      (asciiClass? (rest.takeWhile (· != ':'))).map fun rs => (.ascii rs negated, after)
    | _ => none
  | _ => none

/-- One end of a range, or a part on its own. -/
def readClassAtom (verbose : Bool) : List Char → Option (Written × List Char)
  | [] => none
  | '\\' :: cs => readEscape verbose cs
  | c :: cs => some (.literal c false, cs)

/-- A part of a bracket expression that is no range. -/
def classAtom? : Written → Option ClassItem
  | .literal c byte => some (.literal c byte)
  | .named k negated => some (.named k negated)
  | .property q negated => some (.property q negated)
  | _ => none

/-- The sign that decides whether a hyphen makes a range: the one after the hyphen, or in verbose
mode the first after it that is neither blank nor the hash sign that starts a comment. The text of
such a comment is looked at, though it is skipped afterwards. -/
def signAfterHyphen (verbose : Bool) (cs : List Char) : Option Char :=
  if verbose then
    match cs.dropWhile isBlank with
    | '#' :: rest => ((rest.dropWhile isBlank).head?).or cs.head?
    | rest => rest.head?.or cs.head?
  else cs.head?

/-- A part of a bracket expression or a range of two characters. A hyphen before a closing bracket
or before another hyphen makes no range. -/
def readClassRange (verbose : Bool) (cs : List Char) : Option (ClassItem × List Char) :=
  (readClassAtom verbose cs).bind fun (first, rest) =>
    match skip verbose rest with
    | [] => none
    | '-' :: more =>
      let sign := signAfterHyphen verbose more
      if sign = some ']' ∨ sign = some '-' then
        (classAtom? first).map fun item => (item, '-' :: more)
      else
        (readClassAtom verbose (skip verbose more)).bind fun (last, rest) =>
          match first, last with
          | .literal a aByte, .literal b bByte =>
            if a.toNat ≤ b.toNat then some (.range a b aByte bByte, rest) else none
          | _, _ => none
    | rest => (classAtom? first).map fun item => (item, rest)

/-- What is open while a bracket expression is read: a bracket, with the parts read before it, or an
operation that waits for its right side. -/
inductive OpenClass where
  | bracket (before : List ClassItem) (negated : Bool)
  | op (o : SetOp) (lhs : ClassItem)

/-- The parts read so far, latest first, as one part. -/
def unionOf : List ClassItem → ClassItem
  | [item] => item
  | items => .union items.reverse

/-- Gives a waiting operation its right side. -/
def closeOp (item : ClassItem) : List OpenClass → ClassItem × List OpenClass
  | .op o lhs :: stack => (.op o lhs item, stack)
  | stack => (item, stack)

/-- Leading hyphens of a bracket expression, which stand for themselves. -/
def readHyphens (verbose : Bool) : Nat → List Char → List ClassItem × List Char
  | 0, cs => ([], cs)
  | fuel + 1, '-' :: cs =>
    let (items, rest) := readHyphens verbose fuel (skip verbose cs)
    (.literal '-' false :: items, rest)
  | _ + 1, cs => ([], cs)

/-- The opening of a bracket expression after the bracket: whether it is negated, and the leading
hyphens or the closing bracket that stand for themselves there. There are less than `fuel`
hyphens. -/
def readClassOpen (verbose : Bool) (fuel : Nat) (cs : List Char) :
    Option (Bool × List ClassItem × List Char) :=
  let cs := skip verbose cs
  let (negated, cs) :=
    match cs with
    | '^' :: rest => (true, skip verbose rest)
    | _ => (false, cs)
  match readHyphens verbose fuel cs with
  | ([], ']' :: rest) =>
    match skip verbose rest with
    | [] => none
    | rest => some (negated, [.literal ']' false], rest)
  | (_, []) => none
  | (items, rest) => some (negated, items, rest)

/-- Reads a bracket expression to its end. `items` are the parts of the innermost bracket, latest
first. -/
def readClassLoop (verbose : Bool) :
    Nat → List OpenClass → List ClassItem → List Char → Option (Written × List Char)
  | 0, _, _, _ => none
  | fuel + 1, stack, items, cs =>
    match skip verbose cs with
    | [] => none
    | '[' :: rest =>
      match readAsciiClass rest with
      | some (item, after) => readClassLoop verbose fuel stack (item :: items) after
      | none =>
        (readClassOpen verbose (fuel + 1) rest).bind fun (negated, inner, rest) =>
          readClassLoop verbose fuel (.bracket items negated :: stack) inner rest
    | ']' :: rest =>
      let (set, stack) := closeOp (unionOf items) stack
      match stack with
      | .bracket _ negated :: [] => some (.bracket negated set, rest)
      | .bracket before negated :: outer =>
        readClassLoop verbose fuel outer (.bracket negated set :: before) rest
      | _ => none
    | '&' :: '&' :: rest =>
      let (lhs, stack) := closeOp (unionOf items) stack
      readClassLoop verbose fuel (.op .intersection lhs :: stack) [] rest
    | '-' :: '-' :: rest =>
      let (lhs, stack) := closeOp (unionOf items) stack
      readClassLoop verbose fuel (.op .difference lhs :: stack) [] rest
    | '~' :: '~' :: rest =>
      let (lhs, stack) := closeOp (unionOf items) stack
      readClassLoop verbose fuel (.op .symmetricDifference lhs :: stack) [] rest
    | rest =>
      (readClassRange verbose rest).bind fun (item, rest) =>
        readClassLoop verbose fuel stack (item :: items) rest

/-- A bracket expression after its opening bracket. -/
def readClass (verbose : Bool) (cs : List Char) : Option (Written × List Char) :=
  (readClassOpen verbose (cs.length + 1) cs).bind fun (negated, items, rest) =>
    readClassLoop verbose (rest.length + 1) [.bracket [] negated] items rest

/-! ## Repetitions -/

/-- The greatest count that a repetition may have. -/
def countLimit : Nat := 4294967295

/-- Digits, with what the mode ignores after each. -/
def takeDigits (verbose : Bool) : Nat → List Char → List Char × List Char
  | 0, cs => ([], cs)
  | _ + 1, [] => ([], [])
  | fuel + 1, c :: cs =>
    if c.isDigit then
      let (ds, rest) := takeDigits verbose fuel (skip verbose cs)
      (c :: ds, rest)
    else ([], c :: cs)

/-- A decimal count, with blanks on both sides; none in the first place when there is no digit or
the count is too large. -/
def readCount (verbose : Bool) (cs : List Char) : Option Nat × List Char :=
  let (ds, rest) := takeDigits verbose (cs.length + 1) (cs.dropWhile isBlank)
  let rest := rest.dropWhile isBlank
  let count := Number.digitsValue ds
  (if ds.isEmpty || countLimit < count then none else some count, rest)

/-- The least and the greatest count, after the opening brace and up to the closing one. -/
def readBounds (verbose : Bool) (cs : List Char) : Option ((Nat × Option Nat) × List Char) :=
  match skip verbose cs with
  | [] => none
  | cs =>
    match readCount verbose cs with
    | (some low, ',' :: rest) =>
      match skip verbose rest with
      | '\x7d' :: rest => some ((low, none), rest)
      | rest =>
        match readCount verbose rest with
        | (some high, '\x7d' :: rest) => if low ≤ high then some ((low, some high), rest) else none
        | _ => none
    | (some low, '\x7d' :: rest) => some ((low, some low), rest)
    | _ => none

/-- Whether a repetition may follow the expression. -/
def isRepeatable : Written → Bool
  | .empty | .flags _ => false
  | _ => true

/-- Takes the question mark that makes a repetition lazy. -/
def takeLazy : List Char → Bool × List Char
  | '?' :: cs => (false, cs)
  | cs => (true, cs)

/-! ## Groups -/

/-- Flags up to the colon or the bracket that ends them. -/
def readFlags : Bool → Bool → FlagChanges → List Char → Option (FlagChanges × Char × List Char)
  | _, _, _, [] => none
  | negated, dangling, changes, c :: cs =>
    if c = ':' ∨ c = ')' then if dangling then none else some (changes, c, cs)
    else if c = '-' then if negated then none else readFlags true true changes cs
    else
      match Flag.ofChar? c with
      | some flag =>
        if (changes.value? flag).isSome then none
        else readFlags negated false (changes ++ [(flag, !negated)]) cs
      | none => none

/-- Whether the character may stand in the name of a group. -/
def isNameChar (first : Bool) (c : Char) : Bool :=
  if first then c == '_' || isAlphabetic c
  else c == '_' || c == '.' || c == '[' || c == ']' || isAlphanumeric c

/-- The name of a group up to the closing angle bracket. -/
def readName (cs : List Char) : Option (List Char × List Char) :=
  let name := cs.takeWhile (· != '>')
  match name, cs.dropWhile (· != '>') with
  | c :: more, '>' :: rest =>
    if isNameChar true c && more.all (isNameChar false) then some (name, rest) else none
  | _, _ => none

/-- What the opening of a group announces. -/
inductive Opening where
  | named (name : List Char)
  | numbered
  | flagged (changes : FlagChanges)
  | setFlags (changes : FlagChanges)

/-- The opening of a group after its bracket. Conditions on the text before or after a position are
refused. -/
def readOpening (verbose : Bool) (cs : List Char) : Option (Opening × List Char) :=
  match skip verbose cs with
  | '?' :: rest =>
    match rest with
    | '=' :: _ | '!' :: _ | '<' :: '=' :: _ | '<' :: '!' :: _ => none
    | 'P' :: '<' :: name => (readName name).map fun (n, rest) => (.named n, rest)
    | '<' :: name => (readName name).map fun (n, rest) => (.named n, rest)
    | _ =>
      match readFlags false false [] rest with
      | some (changes, ')', rest) =>
        if changes.isEmpty then none else some (.setFlags changes, rest)
      | some (changes, _, rest) => some (.flagged changes, rest)
      | none => none
  | rest => some (.numbered, rest)

/-! ## The whole expression -/

/-- A group that is open, with what was read before it at its level. -/
structure OpenGroup where
  index : Option Nat
  changes : FlagChanges
  verbose : Bool
  alternatives : List Written
  items : List Written

/-- What has been read: open groups, finished alternatives and the parts of the current alternative
of the innermost group (both latest first), and the groups counted and named so far. -/
structure Reading where
  stack : List OpenGroup
  alternatives : List Written
  items : List Written
  verbose : Bool
  groups : Nat
  names : List (List Char)

namespace Reading

/-- Nothing read yet. -/
def start : Reading := ⟨[], [], [], false, 0, []⟩

/-- Adds a part to the current alternative. -/
def push (r : Reading) (w : Written) : Reading :=
  { r with items := w :: r.items }

/-- The current alternative as one expression. -/
def sequence (r : Reading) : Written :=
  match r.items with
  | [] => .empty
  | [w] => w
  | ws => .concat ws.reverse

/-- The innermost group as one expression. -/
def body (r : Reading) : Written :=
  match r.alternatives with
  | [] => r.sequence
  | ws => .alternation (r.sequence :: ws).reverse

/-- Opens a group. -/
def openGroup (r : Reading) (index : Option Nat) (changes : FlagChanges) : Reading :=
  { r with
    stack := ⟨index, changes, r.verbose, r.alternatives, r.items⟩ :: r.stack
    alternatives := []
    items := []
    verbose := (changes.value? .verbose).getD r.verbose }

/-- Closes the innermost group. -/
def closeGroup? (r : Reading) : Option Reading :=
  match r.stack with
  | [] => none
  | g :: stack =>
    some { r with
      stack := stack
      alternatives := g.alternatives
      items := .group g.index g.changes r.body :: g.items
      verbose := g.verbose }

/-- Puts the last part under a repetition. -/
def repeatLast? (r : Reading) (min : Nat) (max : Option Nat) (greedy : Bool) : Option Reading :=
  match r.items with
  | w :: ws =>
    if isRepeatable w then some { r with items := .repetition min max greedy w :: ws } else none
  | [] => none

/-- Applies the opening of a group. -/
def applyOpening? (r : Reading) : Opening → Option Reading
  | .named name =>
    if r.names.contains name then none
    else
      some ({ r with groups := r.groups + 1, names := name :: r.names }.openGroup
        (some (r.groups + 1)) [])
  | .numbered => some ({ r with groups := r.groups + 1 }.openGroup (some (r.groups + 1)) [])
  | .flagged changes => some (r.openGroup none changes)
  | .setFlags changes =>
    some { r.push (.flags changes) with verbose := (changes.value? .verbose).getD r.verbose }

end Reading

/-- A repetition sign with its bounds: the reading after it and the rest. -/
def readRepetition (r : Reading) (min : Nat) (max : Option Nat) (cs : List Char) :
    Option (Reading × List Char) :=
  let (greedy, rest) := takeLazy cs
  (r.repeatLast? min max greedy).map fun r => (r, rest)

/-- Reads one sign and what belongs to it. -/
def readStep (r : Reading) (c : Char) (cs : List Char) : Option (Reading × List Char) :=
  match c with
  | '(' =>
    (readOpening r.verbose cs).bind fun (opening, rest) =>
      (r.applyOpening? opening).map fun r => (r, rest)
  | ')' => r.closeGroup?.map fun r => (r, cs)
  | '|' => some ({ r with alternatives := r.sequence :: r.alternatives, items := [] }, cs)
  | '[' => (readClass r.verbose cs).map fun (w, rest) => (r.push w, rest)
  | '?' => readRepetition r 0 (some 1) cs
  | '*' => readRepetition r 0 none cs
  | '+' => readRepetition r 1 none cs
  | '\x7b' =>
    (readBounds r.verbose cs).bind fun ((low, high), rest) =>
      readRepetition r low high (skip r.verbose rest)
  | '\\' => (readEscape r.verbose cs).map fun (w, rest) => (r.push w, rest)
  | '.' => some (r.push .dot, cs)
  | '^' => some (r.push (.anchor .lineStart), cs)
  | '$' => some (r.push (.anchor .lineEnd), cs)
  | c => some (r.push (.literal c false), cs)

/-- Reads sign after sign. -/
def readLoop : Nat → Reading → List Char → Option Reading
  | 0, _, _ => none
  | fuel + 1, r, cs =>
    match skip r.verbose cs with
    | [] => some r
    | c :: rest => (readStep r c rest).bind fun (r, rest) => readLoop fuel r rest

/-- The expression that a text denotes. -/
def Written.read? (source : String) : Option Written :=
  let cs := source.toList
  (readLoop (cs.length + 1) .start cs).bind fun r =>
    if r.stack.isEmpty && r.body.depth ≤ depthLimit then some r.body else none

end AdaptiveTree.Regex
