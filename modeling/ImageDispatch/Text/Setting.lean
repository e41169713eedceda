/-!
# Reading settings

The values of environment variables, read leniently at the ends and strictly inside.

* `trimBlank` drops white space in the sense of Unicode from both ends.
* `natural?` reads a decimal number below a bound: digits only, after at most one plus sign.
-/

namespace ImageDispatch.Text

/-- White space (the Unicode property). -/
def isBlank (c : Char) : Bool :=
  let n := c.toNat
  (0x9 ≤ n && n ≤ 0xd) || n = 0x20 || n = 0x85 || n = 0xa0 || n = 0x1680 ||
    (0x2000 ≤ n && n ≤ 0x200a) || n = 0x2028 || n = 0x2029 || n = 0x202f || n = 0x205f ||
    n = 0x3000

/-- The text without white space at either end. -/
def trimBlank (text : String) : String :=
  String.ofList ((text.toList.dropWhile isBlank).reverse.dropWhile isBlank).reverse

/-- The number that a run of decimal digits denotes. -/
def digitsValue (digits : List Char) : Nat :=
  digits.foldl (fun n c => 10 * n + (c.toNat - '0'.toNat)) 0

/-- Digits of the ASCII range only, and at least one. -/
def isNumeral (cs : List Char) : Bool := !cs.isEmpty && cs.all Char.isDigit

/-- The number below `bound` that the text denotes. -/
def natural? (bound : Nat) (text : String) : Option Nat :=
  let cs := match text.toList with
    | '+' :: rest => rest
    | cs => cs
  if isNumeral cs && digitsValue cs < bound then some (digitsValue cs) else none

end ImageDispatch.Text
