import Mixdown.CommandLine.Grammar

/-!
# Reading command lines

`Command.parse` reads the words of a command line from left to right. A word that could be the
name of a subcommand is one, unless an option waits for its value. An option that has its value is
settled by the next word that is not a value, so a faulty value is reported then, and not before.
-/

namespace Mixdown

/-- A count: digits, perhaps behind a plus sign, of a value below `2 ^ 64`. -/
def parseCount? (text : String) : Option Nat :=
  let digits := match text.toList with
    | '+' :: rest => rest
    | cs => cs
  if digits.isEmpty || !digits.all Char.isDigit then none
  else
    let n := digits.foldl (fun n c => 10 * n + (c.toNat - '0'.toNat)) 0
    if n < UInt64.size then some n else none

/-- An option that is not settled yet, and its value as far as it is there. -/
structure Pending where
  option : OptionSpec
  value : Option String

/-- The words after a command, as far as they are read. -/
structure Scan where
  values : List (String × OptionValue) := []
  pending : Option Pending := none
  /-- The arguments that are still to come. -/
  places : List String
  /-- Two dashes were read, so the other words are arguments. -/
  literal : Bool := false

namespace Scan

/-- An option waits for its value. -/
def awaitsValue (s : Scan) : Bool :=
  match s.pending with
  | some p => p.value.isNone
  | none => false

/-- Note an option that was not given before. -/
def note (s : Scan) (name : String) (value : Except UsageError OptionValue) :
    Except UsageError Scan :=
  if (s.values.lookup name).isSome then .error .repeated
  else value.map fun value => { s with values := (name, value) :: s.values }

/-- Note an option with its value. -/
def noteValue (s : Scan) (option : OptionSpec) (text : String) : Except UsageError Scan :=
  s.note option.name <| match option.kind with
    | .count => match parseCount? text with
      | some n => .ok (.count n)
      | none => .error .faultyValue
    | _ => .ok (.text text)

/-- Settle the option that is pending. -/
def settle (s : Scan) : Except UsageError Scan :=
  match s.pending with
  | none => .ok s
  | some ⟨_, none⟩ => .error .missingValue
  | some ⟨option, some text⟩ => { s with pending := none }.noteValue option text

/-- Act on an option that takes no value. -/
def flag (s : Scan) (option : OptionSpec) : Except UsageError Scan := do
  let s ← s.settle
  match option.kind with
  | .help => throw .help
  | .version => throw .version
  | _ => s.note option.name (.ok .given)

/-- Act on an option that takes a value, which may be attached to it. -/
def valued (s : Scan) (option : OptionSpec) (attached : Option String) :
    Except UsageError Scan := do
  let s ← s.settle
  match attached with
  | some text => s.noteValue option text
  | none => return { s with pending := some ⟨option, none⟩ }

/-- Read `--name` or `--name=value`, without the dashes. -/
def long (s : Scan) (c : Command) (text : List Char) : Except UsageError Scan :=
  let name := String.ofList (text.takeWhile (· != '='))
  let attached := match text.dropWhile (· != '=') with
    | _ :: value => some (String.ofList value)
    | [] => none
  match c.options.find? (·.name == name) with
  | none => .error .unknownArgument
  | some option =>
    if option.kind.takesValue then s.valued option attached
    else if attached.isSome then .error .needlessValue
    else s.flag option

/-- Read letters behind a dash. What stands behind the letter of an option that takes a value is
its value, perhaps after an equals sign. -/
def letters (s : Scan) (c : Command) : List Char → Except UsageError Scan
  | [] => .ok s
  | letter :: rest =>
    match c.options.find? (·.letter == some letter) with
    | none => .error .unknownArgument
    | some option =>
      if option.kind.takesValue then
        s.valued option (match rest with
          | [] => none
          | '=' :: value => some (String.ofList value)
          | value => some (String.ofList value))
      else do
        let s ← s.flag option
        s.letters c rest

/-- Read an argument. -/
def argument (s : Scan) (c : Command) (word : String) : Except UsageError Scan :=
  match s.places with
  | place :: places => do
    let s ← s.settle
    return { s with values := (place, .text word) :: s.values, places }
  | [] =>
    if s.literal && c.knows word then .error .unknownArgument
    else if !c.subcommands.isEmpty && c.places.isEmpty then .error .unknownSubcommand
    else .error .unknownArgument

/-- Read a word that is no subcommand. -/
def read (s : Scan) (c : Command) (word : String) : Except UsageError Scan :=
  if s.literal then s.argument c word
  else match word.toList with
    | ['-', '-'] => .ok { s with literal := true }
    | '-' :: '-' :: name => s.long c name
    | '-' :: letter :: rest => s.letters c (letter :: rest)
    | _ =>
      match s.pending with
      | some ⟨option, none⟩ => .ok { s with pending := some ⟨option, some word⟩ }
      | _ => s.argument c word

/-- The end of the words. -/
def finish (s : Scan) (c : Command) (subcommand : Option (String × Selection)) :
    Except UsageError Selection := do
  let s ← s.settle
  let missing (name : String) : Bool := (s.values.lookup name).isNone
  if subcommand.isNone && c.needsWords && s.values.isEmpty then throw .nothingAsked
  if c.places.any missing || c.options.any fun o => o.required && missing o.name then
    throw .missingArgument
  return { values := s.values, subcommand }

end Scan

namespace Command

/-- The answer to a request for help on the subcommand that some words name: help, unless a word
names none. Help on help has no subcommands. -/
def helpOn (c : Command) : List String → UsageError
  | [] => .help
  | word :: rest =>
    match c.subcommand? word with
    | some sub => sub.helpOn rest
    | none => if c.knows word && rest.isEmpty then .help else .unknownSubcommand

/-- Read the words that are left. -/
def parseFrom (c : Command) (s : Scan) : List String → Except UsageError Selection
  | [] => s.finish c none
  | word :: rest =>
    if !s.literal && !s.awaitsValue && c.knows word then
      match c.subcommand? word with
      | none => .error (c.helpOn rest)
      | some sub => do
        let selection ← sub.parseFrom { places := sub.places } rest
        s.finish c (some (sub.name, selection))
    else do
      let s ← s.read c word
      c.parseFrom s rest

/-- Read the words after a command. -/
def parse (c : Command) (words : List String) : Except UsageError Selection :=
  c.parseFrom { places := c.places } words

end Command

end Mixdown
