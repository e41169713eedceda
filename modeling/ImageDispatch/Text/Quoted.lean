import ImageDispatch.Text.CodePoints

/-!
# Quoted text

`quoted` writes a text between double quotes, so that it can be read in one line of a log.

* A quote and a backslash are escaped with a backslash; tab, line feed, carriage return and NUL
  have a letter of their own.
* A character that is hidden or extends the one before it is written as its code point in
  hexadecimal.
* All else stands for itself, the apostrophe too.
-/

namespace ImageDispatch.Text

/-- The digits of a code point in base sixteen, lower case, without leading zeros. -/
def hexDigits (n : Nat) : String := String.ofList (Nat.toDigits 16 n)

/-- How one character is written between quotes. -/
def escaped (c : Char) : String :=
  if c = '"' then "\\\""
  else if c = '\\' then "\\\\"
  else if c = '\t' then "\\t"
  else if c = '\n' then "\\n"
  else if c = '\r' then "\\r"
  else if c = '\x00' then "\\0"
  else if 0x20 ≤ c.toNat ∧ c.toNat ≤ 0x7e then c.toString
  else if isExtending c || isHidden c then "\\u\x7b" ++ hexDigits c.toNat ++ "\x7d"
  else c.toString

/-- The text between double quotes. -/
def quoted (text : String) : String :=
  "\"" ++ String.join (text.toList.map escaped) ++ "\""

end ImageDispatch.Text
