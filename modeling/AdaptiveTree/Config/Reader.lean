import AdaptiveTree.Config.Moment
import AdaptiveTree.Config.Toml

/-!
# Reading TOML

A document is read line by line: headers, pairs of a key and a value, and comments. Reading
functions take the rest of the text and give what they read with what is left; none means that the
text is not a document. Loops are bounded by the length of the text, since each round uses up at
least one character.
-/

set_option autoImplicit false

namespace AdaptiveTree.Config

/-- The text after spaces and tabs. -/
def skipSpace (cs : List Char) : List Char :=
  cs.dropWhile fun c => c == ' ' || c == '\t'

/-- Takes an end of line: a line feed, with a carriage return before it or not. -/
def takeNewline? : List Char → Option (List Char)
  | '\n' :: cs => some cs
  | '\r' :: '\n' :: cs => some cs
  | _ => none

/-- Whether the character may stand in a comment. -/
def isCommentChar (c : Char) : Bool :=
  c == '\t' || (0x20 ≤ c.toNat && c.toNat != 0x7F)

/-- The text after a comment, if one stands there. -/
def skipComment : List Char → List Char
  | '#' :: cs => cs.dropWhile isCommentChar
  | cs => cs

/-- The end of a line: spaces, a comment, and a line end or the end of the text. -/
def endLine? (cs : List Char) : Option (List Char) :=
  match skipComment (skipSpace cs) with
  | [] => some []
  | cs => takeNewline? cs

/-- The text after spaces, comments and line ends. -/
def skipLines : Nat → List Char → List Char
  | 0, cs => cs
  | fuel + 1, cs =>
    let rest := skipComment (skipSpace cs)
    match takeNewline? rest with
    | some rest => skipLines fuel rest
    | none => rest

/-! ## Strings -/

/-- Takes `n` hexadecimal digits. -/
def takeHexDigits : Nat → List Char → Option (List Char × List Char)
  | 0, cs => some ([], cs)
  | _ + 1, [] => none
  | n + 1, c :: cs =>
    if (Number.hexValue? c).isSome then
      (takeHexDigits n cs).map fun (ds, rest) => (c :: ds, rest)
    else none

/-- A character by the hexadecimal digits of its code point. -/
def readCodePoint (digits : Nat) (cs : List Char) : Option (Char × List Char) :=
  (takeHexDigits digits cs).bind fun (ds, rest) =>
    (Number.foldDigits Number.hexValue? 16 0 ds).bind fun n =>
      if n.isValidChar then some (Char.ofNat n, rest) else none

/-- What stands for itself between double quotes. -/
def isBasicChar (c : Char) : Bool :=
  c == '\t' || (0x20 ≤ c.toNat && c.toNat != 0x7F && c != '"' && c != '\\')

/-- What stands for itself between single quotes. -/
def isLiteralChar (c : Char) : Bool :=
  c == '\t' || (0x20 ≤ c.toNat && c.toNat != 0x7F && c != '\'')

/-- The character of an escape, after its backslash. -/
def readEscape : List Char → Option (Char × List Char)
  | 'b' :: cs => some ('\x08', cs)
  | 't' :: cs => some ('\t', cs)
  | 'n' :: cs => some ('\n', cs)
  | 'f' :: cs => some ('\x0c', cs)
  | 'r' :: cs => some ('\r', cs)
  | '"' :: cs => some ('"', cs)
  | '\\' :: cs => some ('\\', cs)
  | 'u' :: cs => readCodePoint 4 cs
  | 'U' :: cs => readCodePoint 8 cs
  | _ => none

/-- The rest of a string in double quotes. -/
def readBasic : Nat → List Char → Option (List Char × List Char)
  | 0, _ => none
  | _ + 1, [] => none
  | fuel + 1, c :: cs =>
    if c = '"' then some ([], cs)
    else if c = '\\' then
      (readEscape cs).bind fun (e, rest) =>
        (readBasic fuel rest).map fun (s, rest) => (e :: s, rest)
    else if isBasicChar c then (readBasic fuel cs).map fun (s, rest) => (c :: s, rest)
    else none

/-- The rest of a string in single quotes. -/
def readLiteral : List Char → Option (List Char × List Char)
  | [] => none
  | c :: cs =>
    if c = '\'' then some ([], cs)
    else if isLiteralChar c then (readLiteral cs).map fun (s, rest) => (c :: s, rest)
    else none

/-- A backslash at the end of a line joins it with the next text: what follows it up to there is
dropped. -/
def joinLines? (cs : List Char) : Option (List Char) :=
  (takeNewline? (skipSpace cs)).map fun rest =>
    rest.dropWhile fun c => c == ' ' || c == '\t' || c == '\n' || c == '\r'

/-- Quotes at the end of a string of several lines: three close it, and up to two more before them
belong to it. -/
def closeQuotes? (quote : Char) (cs : List Char) : Option (List Char × List Char) :=
  let count := (cs.takeWhile (· == quote)).length
  if count < 3 then none
  else
    let inside := min (count - 3) 2
    some (List.replicate inside quote, cs.drop (inside + 3))

/-- The rest of a string of several lines in double quotes. -/
def readBasicLines : Nat → List Char → Option (List Char × List Char)
  | 0, _ => none
  | _ + 1, [] => none
  | fuel + 1, c :: cs =>
    match closeQuotes? '"' (c :: cs) with
    | some (s, rest) => some (s, rest)
    | none =>
      match takeNewline? (c :: cs) with
      | some rest => (readBasicLines fuel rest).map fun (s, rest) => ('\n' :: s, rest)
      | none =>
        if c = '\\' then
          match joinLines? cs with
          | some rest => readBasicLines fuel rest
          | none =>
            (readEscape cs).bind fun (e, rest) =>
              (readBasicLines fuel rest).map fun (s, rest) => (e :: s, rest)
        else if c = '"' || isBasicChar c then
          (readBasicLines fuel cs).map fun (s, rest) => (c :: s, rest)
        else none

/-- The rest of a string of several lines in single quotes. -/
def readLiteralLines : Nat → List Char → Option (List Char × List Char)
  | 0, _ => none
  | _ + 1, [] => none
  | fuel + 1, c :: cs =>
    match closeQuotes? '\'' (c :: cs) with
    | some (s, rest) => some (s, rest)
    | none =>
      match takeNewline? (c :: cs) with
      | some rest => (readLiteralLines fuel rest).map fun (s, rest) => ('\n' :: s, rest)
      | none =>
        if c = '\'' || isLiteralChar c then
          (readLiteralLines fuel cs).map fun (s, rest) => (c :: s, rest)
        else none

/-- The text after a line end that stands there. -/
def dropNewline (cs : List Char) : List Char :=
  (takeNewline? cs).getD cs

/-- A string of any form. A line end right after three opening quotes is dropped. -/
def readString (cs : List Char) : Option (String × List Char) :=
  let result :=
    match cs with
    | '"' :: '"' :: '"' :: rest => readBasicLines (rest.length + 1) (dropNewline rest)
    | '"' :: rest => readBasic (rest.length + 1) rest
    | '\'' :: '\'' :: '\'' :: rest => readLiteralLines (rest.length + 1) (dropNewline rest)
    | '\'' :: rest => readLiteral rest
    | _ => none
  result.map fun (s, rest) => (String.ofList s, rest)

/-! ## Keys -/

/-- Whether the character may stand in a key without quotes. -/
def isBareChar (c : Char) : Bool :=
  c.isAlphanum || c == '_' || c == '-'

/-- One part of a key: bare, or a string on one line. -/
def readKeyPart (cs : List Char) : Option (String × List Char) :=
  match cs with
  | '"' :: rest => (readBasic (rest.length + 1) rest).map fun (s, rest) => (String.ofList s, rest)
  | '\'' :: rest => (readLiteral rest).map fun (s, rest) => (String.ofList s, rest)
  | _ =>
    match cs.takeWhile isBareChar with
    | [] => none
    | name => some (String.ofList name, cs.dropWhile isBareChar)

/-- The number from which on there are too many parts of a key, or too many values within each
other. -/
def nestingLimit : Nat := 80

/-- The parts of a key, with dots between them. Spaces may stand around each part. -/
def readKeyParts : Nat → List Char → Option (List String × List Char)
  | 0, _ => none
  | fuel + 1, cs =>
    (readKeyPart (skipSpace cs)).bind fun (part, rest) =>
      match skipSpace rest with
      | '.' :: more => (readKeyParts fuel more).map fun (parts, rest) => (part :: parts, rest)
      | rest => some ([part], rest)

/-- A key. -/
def readKey (cs : List Char) : Option (List String × List Char) :=
  (readKeyParts (cs.length + 1) cs).filter fun (parts, _) => parts.length < nestingLimit

/-! ## Values -/

/-- Digits with single underscores between them; `value` tells the digits. -/
def takeNumber (value : Char → Option Nat) : Bool → List Char → Option (List Char × List Char)
  | between, [] => if between then some ([], []) else none
  | between, c :: cs =>
    if (value c).isSome then
      (takeNumber value true cs).map fun (ds, rest) => (c :: ds, rest)
    else if between && c = '_' then takeNumber value false cs
    else if between then some ([], c :: cs)
    else none

/-- Value of a digit below a base of at most ten. -/
def digitBelow (base : Nat) (c : Char) : Option Nat :=
  (Number.digitValue? c).bind fun v => if v < base then some v else none

/-- An integer in a base other than ten, after the sign of its base. -/
def readBased (value : Char → Option Nat) (base : Nat) (cs : List Char) :
    Option (Int × List Char) :=
  (takeNumber value false cs).bind fun (ds, rest) =>
    (Number.foldDigits value base 0 ds).map fun n => ((n : Int), rest)

/-- An integer in base ten without its sign: no leading zeros. -/
def readDecimal (cs : List Char) : Option (Nat × List Char) :=
  match cs with
  | '0' :: rest => some (0, rest)
  | _ =>
    (takeNumber Number.digitValue? false cs).map fun (ds, rest) => (Number.digitsValue ds, rest)

/-- An integer of 64 bits. -/
def readInt (cs : List Char) : Option (Int × List Char) :=
  let result : Option (Int × List Char) :=
    match cs with
    | '0' :: 'x' :: rest => readBased Number.hexValue? 16 rest
    | '0' :: 'o' :: rest => readBased (digitBelow 8) 8 rest
    | '0' :: 'b' :: rest => readBased (digitBelow 2) 2 rest
    | '+' :: rest => (readDecimal rest).map fun (n, rest) => ((n : Int), rest)
    | '-' :: rest => (readDecimal rest).map fun (n, rest) => (-(n : Int), rest)
    | _ => (readDecimal cs).map fun (n, rest) => ((n : Int), rest)
  result.bind fun (n, rest) =>
    if -9223372036854775808 ≤ n ∧ n ≤ 9223372036854775807 then some (n, rest) else none

/-- The digits of an exponent, after its letter, as a number. -/
def readPower (cs : List Char) : Option (Int × List Char) :=
  let (negative, rest) := Number.takeSign cs
  (takeNumber Number.digitValue? false rest).map fun (ds, rest) =>
    let power : Int := Number.digitsValue ds
    (if negative then -power else power, rest)

/-- The digits of a fraction, if one stands there. -/
def readFraction (cs : List Char) : Option (List Char × List Char) :=
  match cs with
  | '.' :: rest => takeNumber Number.digitValue? false rest
  | _ => some ([], cs)

/-- The exponent, if one stands there. -/
def readExponent (cs : List Char) : Option (Int × List Char) :=
  match cs with
  | 'e' :: rest | 'E' :: rest => readPower rest
  | _ => some (0, cs)

/-- The text after a number with a fraction or an exponent, or one of the two special ones. A
positive number must not be too large for a double. -/
def skipFloat? (cs : List Char) : Option (List Char) :=
  let (negative, rest) := Number.takeSign cs
  match rest with
  | 'i' :: 'n' :: 'f' :: rest | 'n' :: 'a' :: 'n' :: rest => some rest
  | _ =>
    (readDecimal rest).bind fun (whole, rest) =>
      (readFraction rest).bind fun (fraction, afterFraction) =>
        (readExponent afterFraction).bind fun (power, after) =>
          let digits := Number.digitsValue ((Nat.toDigits 10 whole) ++ fraction)
          let value := Number.ofDecimal digits (power - fraction.length)
          let isWhole := after.length = rest.length
          let isTooLarge := !negative && Number.exact value == .infinite false
          if isWhole ∨ isTooLarge then none else some after

/-- A number or a moment. -/
def readNumber (cs : List Char) : Option (Toml × List Char) :=
  (((skipMoment? cs).map fun rest => (Toml.moment, rest)).or
    ((skipFloat? cs).map fun rest => (Toml.float, rest))).or
    ((readInt cs).map fun (n, rest) => (Toml.int n, rest))

mutual

/-- A value that stands within `depth` others. -/
def readValue : Nat → Nat → List Char → Option (Toml × List Char)
  | 0, _, _ => none
  | fuel + 1, depth, cs =>
    match cs with
    | '"' :: _ | '\'' :: _ => (readString cs).map fun (s, rest) => (.string s, rest)
    | 't' :: 'r' :: 'u' :: 'e' :: rest => some (.bool true, rest)
    | 'f' :: 'a' :: 'l' :: 's' :: 'e' :: rest => some (.bool false, rest)
    | '[' :: rest =>
      if depth + 1 < nestingLimit then
        (readItems fuel (depth + 1) rest).map fun (items, rest) => (.array items, rest)
      else none
    | '\x7b' :: rest =>
      if depth + 1 < nestingLimit then
        match skipSpace rest with
        | '\x7d' :: rest => some (.table .inline [], rest)
        | rest =>
          (readPairs fuel (depth + 1) [] rest).map fun (es, rest) => (.table .inline es, rest)
      else none
    | _ => readNumber cs

/-- The items of an array up to its closing bracket, with a comma after the last or not. -/
def readItems : Nat → Nat → List Char → Option (List Toml × List Char)
  | 0, _, _ => none
  | fuel + 1, depth, cs =>
    match skipLines (cs.length + 1) cs with
    | ']' :: rest => some ([], rest)
    | cs =>
      (readValue fuel depth cs).bind fun (v, rest) =>
        match skipLines (rest.length + 1) rest with
        | ']' :: rest => some ([v], rest)
        | ',' :: rest => (readItems fuel depth rest).map fun (vs, rest) => (v :: vs, rest)
        | _ => none

/-- The pairs of an inline table up to its closing brace. -/
def readPairs : Nat → Nat → Toml.Entries → List Char → Option (Toml.Entries × List Char)
  | 0, _, _, _ => none
  | fuel + 1, depth, es, cs =>
    (readKey cs).bind fun (path, rest) =>
      match rest with
      | '=' :: rest =>
        (readValue fuel depth (skipSpace rest)).bind fun (v, rest) =>
          (Toml.addPath v path es).bind fun es =>
            match skipSpace rest with
            | '\x7d' :: rest => some (es, rest)
            | ',' :: rest => readPairs fuel depth es rest
            | _ => none
      | _ => none

end

/-! ## Documents -/

/-- What has been read: the document, and the path of the table that pairs go to. -/
structure Draft where
  root : Toml.Entries
  path : List String

/-- A header after its opening bracket or brackets, up to the closing ones. -/
def readHeader (closing : List Char) (cs : List Char) : Option (List String × List Char) :=
  (readKey cs).bind fun (path, rest) =>
    if closing.isPrefixOf rest then some (path, rest.drop closing.length) else none

/-- Opens the table of a header with the given way to open it. -/
def Draft.open? (d : Draft) (how : String → Toml.Entries → Option Toml.Entries)
    (path : List String) : Option Draft :=
  match path.getLast? with
  | none => none
  | some key => (Toml.modifyAt (how key) path.dropLast d.root).map fun root => ⟨root, path⟩

/-- Adds a pair to the current table. -/
def Draft.add? (d : Draft) (path : List String) (v : Toml) : Option Draft :=
  (Toml.modifyAt (Toml.addPath v path) d.path d.root).map fun root => { d with root }

/-- Reads what stands on a line, up to a comment or its end. -/
def readLine (d : Draft) (cs : List Char) : Option (Draft × List Char) :=
  match cs with
  | [] => some (d, [])
  | '#' :: _ | '\n' :: _ | '\r' :: _ => some (d, cs)
  | '[' :: '[' :: rest =>
    (readHeader [']', ']'] rest).bind fun (path, rest) =>
      (d.open? Toml.openTables path).map fun d => (d, rest)
  | '[' :: rest =>
    (readHeader [']'] rest).bind fun (path, rest) =>
      (d.open? Toml.openTable path).map fun d => (d, rest)
  | _ =>
    (readKey cs).bind fun (path, rest) =>
      match rest with
      | '=' :: rest =>
        let rest := skipSpace rest
        (readValue (rest.length + 1) 0 rest).bind fun (v, rest) =>
          (d.add? path v).map fun d => (d, rest)
      | _ => none

/-- Reads line after line. -/
def readLines : Nat → Draft → List Char → Option Draft
  | 0, _, _ => none
  | _ + 1, d, [] => some d
  | fuel + 1, d, cs =>
    (readLine d (skipSpace cs)).bind fun (d, rest) => (endLine? rest).bind (readLines fuel d)

/-- The document that a text denotes. A byte order mark at its start is ignored. -/
def Toml.read? (text : String) : Option Toml.Entries :=
  let cs :=
    match text.toList with
    | '\ufeff' :: rest => rest
    | cs => cs
  (readLines (cs.length + 1) ⟨[], []⟩ cs).map (·.root)

end AdaptiveTree.Config
