import Mixdown.Single

/-!
# Decimal text as a single

A number is an optional sign and either `inf`, `infinity` or `nan` in any case of letters, or
digits with an optional point and an optional exponent. There is a digit before or after the
point. The value is the nearest single.
-/

namespace Mixdown

/-- The value of a run of decimal digits. -/
def digitsValue (digits : List Char) : Nat :=
  digits.foldl (fun n c => 10 * n + (c.toNat - '0'.toNat)) 0

namespace Single

/-- An exponent after its letter: an optional sign and at least one digit, up to the end. -/
def parseExponent? : List Char → Option Int
  | '+' :: rest => natural rest
  | '-' :: rest => (natural rest).map (- ·)
  | rest => natural rest
where
  natural (cs : List Char) : Option Int :=
    if cs.isEmpty || !cs.all Char.isDigit then none else some (digitsValue cs)

/-- The nearest single to `mantissa * 10 ^ exponent`. -/
def ofDecimal (mantissa : Nat) (exponent : Int) : Float32 :=
  .ofScientific mantissa (exponent < 0) exponent.natAbs

/-- An unsigned number. -/
def parseMagnitude? (cs : List Char) : Option Float32 :=
  match String.ofList (cs.map Char.toLower) with
  | "inf" | "infinity" => some (1 / 0)
  | "nan" => some (0 / 0)
  | _ =>
    let whole := cs.takeWhile Char.isDigit
    let afterWhole := cs.dropWhile Char.isDigit
    let (fraction, afterFraction) := match afterWhole with
      | '.' :: rest => (rest.takeWhile Char.isDigit, rest.dropWhile Char.isDigit)
      | rest => ([], rest)
    if whole.isEmpty && fraction.isEmpty then none
    else
      let value (e : Int) := ofDecimal (digitsValue (whole ++ fraction)) (e - fraction.length)
      match afterFraction with
      | [] => some (value 0)
      | letter :: rest =>
        if letter = 'e' ∨ letter = 'E' then (parseExponent? rest).map value else none

/-- A signed number, the whole of the text. -/
def parse? (text : List Char) : Option Float32 :=
  match text with
  | '+' :: rest => parseMagnitude? rest
  | '-' :: rest => (parseMagnitude? rest).map (- ·)
  | rest => parseMagnitude? rest

end Single

end Mixdown
