/-!
# Command lines

A command has options, named arguments in fixed places and subcommands. A `Selection` is what the
words of a command line say about them.
-/

namespace Mixdown

/-- What an option does. -/
inductive OptionKind where
  | flag
  /-- It takes a count. -/
  | count
  | text
  /-- It asks for help instead of a run. -/
  | help
  | version
deriving DecidableEq, Repr

namespace OptionKind

def takesValue : OptionKind → Bool
  | count | text => true
  | _ => false

end OptionKind

/-- An option: `--name`, or a dash and a letter. -/
structure OptionSpec where
  name : String
  letter : Option Char := none
  kind : OptionKind
  required : Bool := false
deriving Repr

/-- A command, and what may follow it. -/
structure Command where
  name : String
  options : List OptionSpec
  /-- The names of the arguments in fixed places, all of which have to be there. -/
  places : List String := []
  subcommands : List Command := []
  /-- The command does not run without a word after it. -/
  needsWords : Bool := false

namespace Command

/-- The name that, in front of the names of subcommands, asks for help on them. -/
def helpName : String := "help"

def subcommand? (c : Command) (word : String) : Option Command :=
  c.subcommands.find? (·.name == word)

/-- A word names a subcommand, or asks for help on the subcommands. -/
def knows (c : Command) (word : String) : Bool :=
  (c.subcommand? word).isSome || (!c.subcommands.isEmpty && word == helpName)

end Command

/-- Why a command line is not run. -/
inductive UsageError where
  /-- Help is asked for. -/
  | help
  | version
  /-- Nothing is asked for, and the command does not run without words. -/
  | nothingAsked
  | unknownArgument
  | unknownSubcommand
  /-- An option has no value. -/
  | missingValue
  /-- A value is not of its kind. -/
  | faultyValue
  /-- A value is given to an option that takes none. -/
  | needlessValue
  /-- An option is given twice. -/
  | repeated
  /-- A required option or argument is not there. -/
  | missingArgument
deriving DecidableEq, Repr

/-- What a command line says about one option or argument. -/
inductive OptionValue where
  | given
  | count (n : Nat)
  | text (s : String)
deriving DecidableEq, Repr

/-- What the words after a command say: about its options and arguments, and, if there is one,
what the words after a subcommand say. -/
structure Selection where
  values : List (String × OptionValue)
  subcommand : Option (String × Selection)

namespace Selection

def isGiven (s : Selection) (name : String) : Bool := (s.values.lookup name).isSome

def count? (s : Selection) (name : String) : Option Nat :=
  match s.values.lookup name with
  | some (.count n) => some n
  | _ => none

def text? (s : Selection) (name : String) : Option String :=
  match s.values.lookup name with
  | some (.text t) => some t
  | _ => none

end Selection

end Mixdown
