import Mixdown.Json.Basic

/-!
# Printing JSON

Each member and each item has a line of its own, two blanks further in than what it belongs to.
-/

namespace Mixdown

namespace Json

def Number.render (n : Number) : List Char :=
  (if n.negative then ['-'] else []) ++ n.whole ++
    (if n.fraction.isEmpty then [] else '.' :: n.fraction) ++
    (match n.exponent with
      | some e => 'e' :: (toString e).toList
      | none => [])

/-- A new line at a depth. -/
def newLine (depth : Nat) : List Char := '\n' :: List.replicate (2 * depth) ' '

def quoted (raw : List Char) : List Char := '"' :: raw ++ ['"']

mutual

/-- A value whose first line starts at a depth. -/
def render (depth : Nat) : Json → List Char
  | null => "null".toList
  | bool b => (if b then "true" else "false").toList
  | number n => n.render
  | string raw => quoted raw
  | array [] => ['[', ']']
  | array (item :: items) =>
    '[' :: newLine (depth + 1) ++ render (depth + 1) item ++ renderItems (depth + 1) items ++
      newLine depth ++ [']']
  | object [] => ['{', '}']
  | object ((name, value) :: members) =>
    '{' :: newLine (depth + 1) ++ quoted name ++ [':', ' '] ++ render (depth + 1) value ++
      renderMembers (depth + 1) members ++ newLine depth ++ ['}']

/-- The items behind the first. -/
def renderItems (depth : Nat) : List Json → List Char
  | [] => []
  | item :: items => ',' :: newLine depth ++ render depth item ++ renderItems depth items

/-- The members behind the first. -/
def renderMembers (depth : Nat) : List (List Char × Json) → List Char
  | [] => []
  | (name, value) :: members =>
    ',' :: newLine depth ++ quoted name ++ [':', ' '] ++ render depth value ++
      renderMembers depth members

end

/-- The text of a value. -/
def toText (j : Json) : String := String.ofList (j.render 0)

end Json

end Mixdown
