import Mixdown.Json.Basic
import Mixdown.Single.Shortest

/-!
# Building JSON values
-/

namespace Mixdown

namespace Json

namespace Number

def ofNat (n : Nat) : Number :=
  { negative := false, whole := Nat.toDigits 10 n, fraction := [], exponent := none }

/-- The most digits before the point of a number without an exponent. -/
def maxWholeDigits : Int := 13

/-- The most zeros after the point, before the first other digit, of a number without an
exponent. -/
def maxLeadingZeros : Int := 5

/-- A decimal with a point. An exponent is written where the point would lie too far from the
digits. -/
def ofDecimal (negative : Bool) (digits : Nat) (power : Int) : Number :=
  let ds := Nat.toDigits 10 digits
  let point := ds.length + power
  let zeros (n : Int) : List Char := List.replicate n.toNat '0'
  if 0 ≤ power ∧ point ≤ maxWholeDigits then
    { negative, whole := ds ++ zeros power, fraction := ['0'], exponent := none }
  else if 0 < point ∧ point ≤ maxWholeDigits then
    { negative, whole := ds.take point.toNat, fraction := ds.drop point.toNat, exponent := none }
  else if point ≤ 0 ∧ -point ≤ maxLeadingZeros then
    { negative, whole := ['0'], fraction := zeros (-point) ++ ds, exponent := none }
  else
    { negative, whole := ds.take 1, fraction := ds.drop 1, exponent := some (point - 1) }

end Number

def ofNat (n : Nat) : Json := number (.ofNat n)

/-- The shortest decimal that reads back as a single; `null` for what is not finite. -/
def ofSingle (x : Float32) : Json :=
  match Single.shortest? x with
  | some (digits, power) => number (.ofDecimal (x.toBits >>> 31 == 1) digits power)
  | none => null

/-- A character between quotes. -/
def escape (c : Char) : List Char :=
  match (escapes.filter (·.1 != '/')).find? (·.2 == c) with
  | some (letter, _) => ['\\', letter]
  | none =>
    if c.toNat < 0x20 then
      ['\\', 'u', '0', '0', Nat.digitChar (c.toNat / 16), Nat.digitChar (c.toNat % 16)]
    else [c]

def ofText (text : String) : Json := string (text.toList.flatMap escape)

/-- `null` for nothing. -/
def ofOption {α : Type} (encode : α → Json) : Option α → Json
  | some a => encode a
  | none => null

/-- An object with its members in order. -/
def ofMembers (members : List (String × Json)) : Json :=
  object (members.map fun (name, value) => (name.toList.flatMap escape, value))

end Json

end Mixdown
