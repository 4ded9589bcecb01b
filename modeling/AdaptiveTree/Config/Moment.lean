import AdaptiveTree.Number.Reading

/-!
# Dates and times

A document can hold a date, a time of day, or both with or without an offset. No setting is one of
these, so they are only checked: a reading function gives what is left of the text, or none.
-/

set_option autoImplicit false

namespace AdaptiveTree.Config

/-- Takes exactly `n` digits: the number that they denote, and the rest. -/
def takeCount? (n : Nat) (cs : List Char) : Option (Nat × List Char) :=
  let digits := cs.take n
  if digits.length = n ∧ digits.all Char.isDigit then
    some (Number.digitsValue digits, cs.drop n)
  else none

/-- Takes two digits that denote a number from `low` to `high`. -/
def takePair? (low high : Nat) (cs : List Char) : Option (Nat × List Char) :=
  (takeCount? 2 cs).filter fun (n, _) => low ≤ n && n ≤ high

/-- Takes the given character. -/
def takeChar? (c : Char) : List Char → Option (List Char)
  | d :: cs => if c = d then some cs else none
  | [] => none

/-- Number of days of a month. -/
def daysOf (year month : Nat) : Nat :=
  let isLeap := year % 4 = 0 ∧ (year % 100 ≠ 0 ∨ year % 400 = 0)
  if month = 2 then if isLeap then 29 else 28
  else if month = 4 ∨ month = 6 ∨ month = 9 ∨ month = 11 then 30
  else 31

/-- The text after a date: a year of four digits, a month and a day of it. -/
def skipDate? (cs : List Char) : Option (List Char) :=
  (takeCount? 4 cs).bind fun (year, cs) =>
    (takeChar? '-' cs).bind fun cs =>
      (takePair? 1 12 cs).bind fun (month, cs) =>
        (takeChar? '-' cs).bind fun cs =>
          (takePair? 1 (daysOf year month) cs).map (·.2)

/-- The text after a fraction of a second, if one stands there. -/
def skipFraction (cs : List Char) : List Char :=
  match cs with
  | '.' :: d :: rest => if d.isDigit then rest.dropWhile Char.isDigit else cs
  | _ => cs

/-- The text after a time of day. A minute can have a leap second. -/
def skipTime? (cs : List Char) : Option (List Char) :=
  (takePair? 0 23 cs).bind fun (_, cs) =>
    (takeChar? ':' cs).bind fun cs =>
      (takePair? 0 59 cs).bind fun (_, cs) =>
        (takeChar? ':' cs).bind fun cs =>
          (takePair? 0 60 cs).map fun (_, cs) => skipFraction cs

/-- The text after an offset from universal time, if one stands there. -/
def skipOffset (cs : List Char) : List Char :=
  let hoursMinutes? := fun (cs : List Char) =>
    (takePair? 0 23 cs).bind fun (_, cs) =>
      (takeChar? ':' cs).bind fun cs => (takePair? 0 59 cs).map (·.2)
  match cs with
  | 'Z' :: rest | 'z' :: rest => rest
  | '+' :: rest | '-' :: rest => (hoursMinutes? rest).getD cs
  | _ => cs

/-- The text after a time of day that follows a date, if one stands there. -/
def skipTimeOfDate (cs : List Char) : List Char :=
  match cs with
  | 'T' :: rest | 't' :: rest | ' ' :: rest => ((skipTime? rest).map skipOffset).getD cs
  | _ => cs

/-- The text after a date, a time of day, or both. -/
def skipMoment? (cs : List Char) : Option (List Char) :=
  ((skipDate? cs).map skipTimeOfDate).or (skipTime? cs)

end AdaptiveTree.Config
