/-!
# TOML documents

A document is a table of values by key. While it is read, a table remembers how it came about, since
that decides what may still be added to it: a table with a header of its own is never opened again,
a table that dotted keys made takes dotted keys only, and an inline table is closed.
-/

set_option autoImplicit false

namespace AdaptiveTree.Config

/-- How a table came about. -/
inductive TableOrigin where
  /-- It has a header of its own. -/
  | header
  /-- It is part of the path of another header. -/
  | implied
  /-- It is part of a dotted key. -/
  | dotted
  /-- It is written in braces. -/
  | inline
deriving DecidableEq, Repr

/-- A value of a document. No setting is a number with a fraction or a moment, so these are not
told apart. -/
inductive Toml where
  | bool (b : Bool)
  | int (n : Int)
  | float
  | moment
  | string (s : String)
  | array (items : List Toml)
  | table (origin : TableOrigin) (entries : List (String × Toml))
  /-- Tables with one header in double brackets, in order. -/
  | tables (items : List (List (String × Toml)))
deriving Repr

namespace Toml

/-- The entries of a table. -/
abbrev Entries := List (String × Toml)

/-- Replaces the value of a key, or adds the key at the end. -/
def replace (es : Entries) (key : String) (v : Toml) : Entries :=
  if (es.lookup key).isSome then es.map fun e => if e.1 == key then (key, v) else e
  else es ++ [(key, v)]

/-- Changes the table at the end of a path. Tables on the way that do not exist are made; of tables
in double brackets the last is taken. -/
def modifyAt (f : Entries → Option Entries) : List String → Entries → Option Entries
  | [], es => f es
  | key :: path, es =>
    match es.lookup key with
    | none => (modifyAt f path []).map fun sub => replace es key (.table .implied sub)
    | some (.table .inline _) => none
    | some (.table origin sub) =>
      (modifyAt f path sub).map fun sub => replace es key (.table origin sub)
    | some (.tables items) =>
      match items.getLast? with
      | none => none
      | some last =>
        (modifyAt f path last).map fun sub => replace es key (.tables (items.dropLast ++ [sub]))
    | some _ => none

/-- Adds a key that must be new. -/
def addNew (key : String) (v : Toml) (es : Entries) : Option Entries :=
  if (es.lookup key).isSome then none else some (es ++ [(key, v)])

/-- Adds a value under a dotted key. The table that gets the value must be one that dotted keys
made; `reached` tells whether the current table is. -/
def addDotted (v : Toml) (key : String) : List String → Bool → Entries → Option Entries
  | [], reached, es => if reached then addNew key v es else none
  | part :: path, _, es =>
    match es.lookup part with
    | none => (addDotted v key path true []).map fun sub => replace es part (.table .dotted sub)
    | some (.table .dotted sub) =>
      (addDotted v key path true sub).map fun sub => replace es part (.table .dotted sub)
    | some (.table .implied sub) =>
      (addDotted v key path false sub).map fun sub => replace es part (.table .implied sub)
    | some (.tables items) =>
      match items.getLast? with
      | none => none
      | some last =>
        (addDotted v key path false last).map fun sub =>
          replace es part (.tables (items.dropLast ++ [sub]))
    | some _ => none

/-- Adds a value under a key, which may be dotted. -/
def addPath (v : Toml) (path : List String) (es : Entries) : Option Entries :=
  match path.getLast? with
  | none => none
  | some key => if path.length = 1 then addNew key v es else addDotted v key path.dropLast true es

/-- Opens the table of a header: a new one, or one that was only implied so far. -/
def openTable (key : String) (es : Entries) : Option Entries :=
  match es.lookup key with
  | none => some (es ++ [(key, .table .header [])])
  | some (.table .implied sub) => some (replace es key (.table .header sub))
  | some _ => none

/-- Opens one more table of a header in double brackets. -/
def openTables (key : String) (es : Entries) : Option Entries :=
  match es.lookup key with
  | none => some (es ++ [(key, .tables [[]])])
  | some (.tables items) => some (replace es key (.tables (items ++ [[]])))
  | some _ => none

end Toml

end AdaptiveTree.Config
