import Mixdown.Double
import Mixdown.Gain.Text
import Mixdown.Json.Reader

/-!
# Decoding JSON values

A record is written as an object, whose unknown members are ignored and whose known ones occur
once, or as an array of its fields in order, of which the last may be missing. A plain choice is
written as its name or as an object of that name and `null`.
-/

namespace Mixdown

namespace Json

/-- An integer from zero up to, but not including, `bound`. -/
def natural? (bound : Nat) : Json → Option Nat
  | number n =>
    match n.value? with
    | some (.natural value) => if value < bound then some value else none
    | _ => none
  | _ => none

/-- A count or an index. -/
def count? (j : Json) : Option Nat := j.natural? UInt64.size

def uint32? (j : Json) : Option UInt32 := (j.natural? UInt32.size).map .ofNat

def uint64? (j : Json) : Option UInt64 := (j.natural? UInt64.size).map .ofNat

def bool? : Json → Option Bool
  | bool b => some b
  | _ => none

def text? : Json → Option String
  | string raw => unescape? raw
  | _ => none

namespace Number.Value

/-- The single nearest to a number. -/
def toSingle : Number.Value → Float32
  | natural n => Single.nearest n 0
  | negative n => Single.nearest n 0
  | double x => Double.toSingle x

end Number.Value

def single? : Json → Option Float32
  | number n => n.value?.map Number.Value.toSingle
  | _ => none

/-- A gain: a number, or a text as `parseGain?` reads it. -/
def gain? : Json → Option Float32
  | number n => n.value?.map Number.Value.toSingle
  | string raw => (unescape? raw).bind parseGain?
  | _ => none

/-- A value that may be `null`. -/
def nullable? {α : Type} (decode : Json → Option α) : Json → Option (Option α)
  | null => some none
  | j => (decode j).map some

/-- The items of an array. -/
def list? {α : Type} (decode : Json → Option α) : Json → Option (List α)
  | array items => items.mapM decode
  | _ => none

/-- One of the plain choices `all`, by its name. -/
def choice? {α : Type} (all : List α) (keyword : α → String) (j : Json) : Option α := do
  let name ← match j with
    | string raw => unescape? raw
    | object [(raw, null)] => unescape? raw
    | _ => none
  all.find? (keyword · == name)

/-- An object of one member: the name of a choice and what it holds. -/
def variant? : Json → Option (String × Json)
  | object [(raw, value)] => (unescape? raw).map (·, value)
  | _ => none

/-- The name of a field of a record, and the other names that it goes by. -/
structure Field where
  name : String
  aliases : List String := []

/-- The fields of a record that are present, by name. -/
abbrev Record := List (String × Json)

/-- The field that goes by a name. -/
def fieldNamed? (fields : List Field) (name : String) : Option Field :=
  fields.find? fun f => f.name == name || f.aliases.contains name

/-- The members of an object as fields of a record. -/
def recordOfMembers? (fields : List Field) : List (List Char × Json) → Option Record
  | [] => some []
  | (raw, value) :: rest => do
    let name ← unescape? raw
    let record ← recordOfMembers? fields rest
    match fieldNamed? fields name with
    | none => some record
    | some f => if (record.lookup f.name).isSome then none else some ((f.name, value) :: record)

/-- A record with the given fields. -/
def record? (fields : List Field) : Json → Option Record
  | object members => recordOfMembers? fields members
  | array items =>
    if fields.length < items.length then none
    else some ((fields.map Field.name).zip items)
  | _ => none

namespace Record

variable {α : Type}

/-- A field that has to be there. -/
def required? (r : Record) (name : String) (decode : Json → Option α) : Option α :=
  (r.lookup name).bind decode

/-- A field that has a value when it is missing. -/
def field? (r : Record) (name : String) (decode : Json → Option α) (missing : α) : Option α :=
  match r.lookup name with
  | some j => decode j
  | none => some missing

end Record

end Json

end Mixdown
