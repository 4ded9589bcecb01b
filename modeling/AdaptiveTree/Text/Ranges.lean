/-!
# Ranges of code points

A set of characters is given by a table of closed ranges of code points. A table is in order when
its ranges are sorted and do not touch; the operations on sets give tables in order. The code points
of surrogates are no characters: a complement has no range that starts or ends among them.

Tables of properties are written as text: hexadecimal code points and ranges such as `41-5A` with
spaces between them, where `100-12E/2` stands for every second code point.
-/

set_option autoImplicit false

namespace AdaptiveTree.Text

/-- A set of code points, as closed ranges. -/
abbrev Ranges := Array (Nat × Nat)

namespace Ranges

/-- Whether the code point of `c` lies in one of the ranges. -/
def holds (ranges : Ranges) (c : Char) : Bool :=
  ranges.any fun r => r.1 ≤ c.toNat && c.toNat ≤ r.2

/-! ## Tables in order -/

/-- Looks for the code point `n` among the ranges from `low` to before `high` of a table in order,
by halving that stretch. -/
def search (ranges : Ranges) (n : Nat) : Nat → Nat → Nat → Bool
  | 0, _, _ => false
  | fuel + 1, low, high =>
    let middle := (low + high) / 2
    if low < high then
      match ranges[middle]? with
      | none => false
      | some (first, last) =>
        if n < first then search ranges n fuel low middle
        else if last < n then search ranges n fuel (middle + 1) high
        else true
    else false

/-- Whether a table in order has the code point `n`. -/
def contains (ranges : Ranges) (n : Nat) : Bool :=
  ranges.search n (ranges.size + 1) 0 ranges.size

/-- Joins a range with the ranges after it that it touches; these are sorted by their starts. -/
def join : Nat × Nat → List (Nat × Nat) → List (Nat × Nat)
  | r, [] => [r]
  | r, s :: rest =>
    if s.1 ≤ r.2 + 1 then join (r.1, max r.2 s.2) rest else r :: join s rest

/-- A table in order with the code points of any ranges. -/
def ofList (rs : List (Nat × Nat)) : Ranges :=
  match rs.mergeSort fun r s => r.1 ≤ s.1 with
  | [] => #[]
  | r :: rest => (join r rest).toArray

/-! ## Operations on sets -/

/-- The code points of either table. -/
def union (a b : Ranges) : Ranges :=
  ofList (a.toList ++ b.toList)

/-- The code points of any of the tables. -/
def unionAll (tables : List Ranges) : Ranges :=
  ofList (tables.flatMap Array.toList)

/-- The greatest code point. -/
def greatest : Nat := 0x10FFFF

/-- The code point of the next character; the surrogates are passed over. -/
def next (n : Nat) : Nat :=
  if n = 0xD7FF then 0xE000 else n + 1

/-- The code point of the character before; the surrogates are passed over. -/
def previous (n : Nat) : Nat :=
  if n = 0xE000 then 0xD7FF else n - 1

/-- What lies between the ranges of a table in order, from the code point `first` on. -/
def gaps : Nat → List (Nat × Nat) → List (Nat × Nat)
  | first, [] => if first ≤ greatest then [(first, greatest)] else []
  | first, r :: rest =>
    if first < r.1 then (first, previous r.1) :: gaps (next r.2) rest else gaps (next r.2) rest

/-- The characters that a table in order does not have. -/
def complement (a : Ranges) : Ranges :=
  (gaps 0 a.toList).toArray

/-- The characters of both tables. -/
def intersection (a b : Ranges) : Ranges :=
  (a.complement.union b.complement).complement

/-- The characters of the first table that the second does not have. -/
def difference (a b : Ranges) : Ranges :=
  (a.complement.union b).complement

/-- The characters of exactly one of the tables. -/
def symmetricDifference (a b : Ranges) : Ranges :=
  (a.union b).difference (a.intersection b)

/-! ## Tables written as text -/

/-- Value of a hexadecimal digit in capitals. -/
def digitValue (c : Char) : Nat :=
  if c.isDigit then c.toNat - 48 else c.toNat - 55

/-- Value of hexadecimal digits in capitals. -/
def codePoint (cs : List Char) : Nat :=
  cs.foldl (fun n c => 16 * n + digitValue c) 0

/-- Every second code point from `first` to `last`. -/
def everySecond (first last : Nat) : List (Nat × Nat) :=
  (List.range ((last - first) / 2 + 1)).map fun i => (first + 2 * i, first + 2 * i)

/-- The ranges that one word of a table denotes. -/
def ofWord (word : List Char) : List (Nat × Nat) :=
  let first := codePoint (word.takeWhile (· != '-'))
  match word.dropWhile (· != '-') with
  | [] => [(first, first)]
  | _ :: rest =>
    let last := codePoint (rest.takeWhile (· != '/'))
    if rest.contains '/' then everySecond first last else [(first, last)]

/-- Splits a text at spaces and line ends; `word` holds the characters of the current word, latest
first. -/
def wordsOf : List Char → List Char → List (List Char)
  | word, [] => if word.isEmpty then [] else [word.reverse]
  | word, c :: cs =>
    if c = ' ' ∨ c = '\n' then
      if word.isEmpty then wordsOf [] cs else word.reverse :: wordsOf [] cs
    else wordsOf (c :: word) cs

/-- The table that a text denotes. -/
def ofText (text : String) : Ranges :=
  ofList ((wordsOf [] text.toList).flatMap ofWord)

end Ranges

end AdaptiveTree.Text
