import AdaptiveTree.Text.Unprintable

/-!
# Quoted text

A text in double quotes, on one line and with every invisible character shown: a quote and a
backslash are escaped, five controls have a short form, and a character without a visible form of
its own is shown by its code point.
-/

set_option autoImplicit false

namespace AdaptiveTree.Text

/-- Lower-case hexadecimal digits of `n`, without leading zeros. -/
def hexDigits (n : Nat) : String :=
  String.ofList (Nat.toDigits 16 n)

/-- The form of one character inside a quoted text. -/
def quoteChar (c : Char) : String :=
  if c = '\x00' then "\\0"
  else if c = '\t' then "\\t"
  else if c = '\r' then "\\r"
  else if c = '\n' then "\\n"
  else if c = '"' then "\\\""
  else if c = '\\' then "\\\\"
  else if isUnprintable c then "\\u\x7b" ++ hexDigits c.toNat ++ "\x7d"
  else c.toString

/-- The text `s` in double quotes. -/
def quote (s : String) : String :=
  "\"" ++ String.join (s.toList.map quoteChar) ++ "\""

end AdaptiveTree.Text
