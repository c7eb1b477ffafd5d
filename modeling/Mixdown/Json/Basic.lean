import Mixdown.Single.Decimal

/-!
# JSON values

A value keeps the text of its numbers and strings as it was written, so that what is ignored is
only checked for its form. `Json.Number.value?` and `Json.unescape?` read that text.
-/

namespace Mixdown

namespace Json

/-- A number as it is written: the digits before and after the point and the exponent. -/
structure Number where
  negative : Bool
  whole : List Char
  /-- The digits after the point; none if there is no point. -/
  fraction : List Char
  exponent : Option Int
deriving DecidableEq, Repr

end Json

/-- A JSON value. Strings and names hold the characters between the quotes, escapes and all. -/
inductive Json where
  | null
  | bool (b : Bool)
  | number (n : Json.Number)
  | string (raw : List Char)
  | array (items : List Json)
  | object (members : List (List Char × Json))

namespace Json

/-- What a number stands for. A number without point and exponent is an integer as long as it
fits into 64 bits. -/
inductive Number.Value where
  | natural (n : Nat)
  | negative (n : Int)
  | double (x : Float)

namespace Number

/-- Take digits to the end of `significand` as long as it stays below `2 ^ 64`; the digits that
are left come second. -/
def accumulate (significand : Nat) : List Char → Nat × List Char
  | [] => (significand, [])
  | c :: rest =>
    let next := 10 * significand + (c.toNat - '0'.toNat)
    if next < UInt64.size then accumulate next rest else (significand, c :: rest)

/-- `significand * 10 ^ exponent` in double precision: one multiplication or division by a power
of ten, or two divisions where the power is out of range. There is no value beyond the range. -/
def scale? (significand : Nat) (exponent : Int) : Option Float :=
  let x := Float.ofNat significand
  let power (k : Nat) : Float := .ofScientific 1 false k
  if significand = 0 then some 0
  else if 308 < exponent then none
  else if 0 ≤ exponent then
    let y := x * power exponent.toNat
    if y.isFinite then some y else none
  else if -308 ≤ exponent then some (x / power (-exponent).toNat)
  else if -616 ≤ exponent then some (x / power 308 / power (-exponent - 308).toNat)
  else some 0

/-- The magnitude of a number in double precision, from the digits that fit into 64 bits and a
power of ten. Whole digits beyond those count as zeros, and fraction digits are dropped. -/
def magnitude? (n : Number) : Option Float :=
  let (significand, skipped) := accumulate 0 n.whole
  let (significand, dropped) := accumulate significand n.fraction
  let shift : Int := skipped.length - (n.fraction.length - dropped.length : Nat)
  scale? significand (shift + n.exponent.getD 0)

/-- The value of a number, unless it is beyond the range of doubles. -/
def value? (n : Number) : Option Value :=
  let whole := digitsValue n.whole
  let isWhole := n.fraction.isEmpty && n.exponent.isNone
  if isWhole && !n.negative && whole < UInt64.size then some (.natural whole)
  else if isWhole && n.negative && 0 < whole && whole ≤ UInt64.size / 2 then
    some (.negative (-whole))
  else n.magnitude?.map fun x => .double (if n.negative then -x else x)

end Number

/-- The value of a hexadecimal digit. -/
def hexDigit? (c : Char) : Option Nat :=
  if c.isDigit then some (c.toNat - '0'.toNat)
  else if 'a' ≤ c ∧ c ≤ 'f' then some (c.toNat - 'a'.toNat + 10)
  else if 'A' ≤ c ∧ c ≤ 'F' then some (c.toNat - 'A'.toNat + 10)
  else none

/-- The value of four hexadecimal digits at the start of a text, and the rest of it. -/
def hex4? : List Char → Option (Nat × List Char)
  | a :: b :: c :: d :: rest => do
    let a ← hexDigit? a
    let b ← hexDigit? b
    let c ← hexDigit? c
    let d ← hexDigit? d
    some (((a * 16 + b) * 16 + c) * 16 + d, rest)
  | _ => none

/-- The character that a letter after a backslash stands for. -/
def escapes : List (Char × Char) :=
  [('"', '"'), ('\\', '\\'), ('/', '/'), ('b', '\x08'), ('f', '\x0c'), ('n', '\n'),
    ('r', '\r'), ('t', '\t')]

/-- The character written as `\u` and four digits, where two such escapes in a row may stand for
one character as a surrogate pair, and the rest of the text. A lone surrogate is refused. -/
def unicode? (text : List Char) : Option (Char × List Char) := do
  let (high, rest) ← hex4? text
  if high < 0xd800 ∨ 0xdfff < high then some (Char.ofNat high, rest)
  else if 0xdc00 ≤ high then none
  else match rest with
    | '\\' :: 'u' :: rest =>
      let (low, rest) ← hex4? rest
      if 0xdc00 ≤ low ∧ low ≤ 0xdfff then
        some (Char.ofNat (0x10000 + (high - 0xd800) * 0x400 + (low - 0xdc00)), rest)
      else none
    | _ => none

/-- The characters that the text between two quotes stands for; each step reads at least one of
`fuel` characters. -/
def unescapeFrom : (fuel : Nat) → List Char → Option (List Char)
  | 0, text => if text.isEmpty then some [] else none
  | _ + 1, [] => some []
  | fuel + 1, '\\' :: 'u' :: rest =>
    match unicode? rest with
    | some (c, rest) => (unescapeFrom fuel rest).map (c :: ·)
    | none => none
  | fuel + 1, '\\' :: letter :: rest =>
    match escapes.lookup letter with
    | some c => (unescapeFrom fuel rest).map (c :: ·)
    | none => none
  | fuel + 1, c :: rest => if c = '\\' then none else (unescapeFrom fuel rest).map (c :: ·)

/-- The string that the text between two quotes stands for. -/
def unescape? (raw : List Char) : Option String :=
  (unescapeFrom raw.length raw).map String.ofList

end Json

end Mixdown
