import Mixdown.Gain.Basic
import Mixdown.Single.Decimal

/-!
# Gains as text

A gain is written as a linear factor (`0.5`) or in decibels (`-6db`, in any case of letters),
with blanks around the number and around the whole.
-/

namespace Mixdown

/-- White space of any script, by its Unicode property. -/
def isBlank (c : Char) : Bool :=
  let n := c.toNat
  (0x09 ≤ n && n ≤ 0x0d) || n == 0x20 || n == 0x85 || n == 0xa0 || n == 0x1680 ||
    (0x2000 ≤ n && n ≤ 0x200a) || n == 0x2028 || n == 0x2029 || n == 0x202f || n == 0x205f ||
    n == 0x3000

/-- The text without the blanks at its start and end. -/
def trimBlanks (cs : List Char) : List Char :=
  ((cs.dropWhile isBlank).reverse.dropWhile isBlank).reverse

/-- The text before a final `db`, if there is one. -/
def stripDecibels? (cs : List Char) : Option (List Char) :=
  match cs.reverse with
  | 'b' :: 'd' :: rest => some rest.reverse
  | _ => none

/-- A gain written as a factor or in decibels. -/
def parseGain? (text : String) : Option Float32 :=
  let trimmed := (trimBlanks text.toList).map Char.toLower
  if trimmed.isEmpty then none
  else match stripDecibels? trimmed with
    | some db => (Single.parse? (trimBlanks db)).map dbToLinear
    | none => Single.parse? trimmed

end Mixdown
