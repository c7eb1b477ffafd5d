import Mixdown.CommandLine.Scan

/-!
# What the program is asked to do
-/

namespace Mixdown

/-- What a command line asks for. -/
inductive Request where
  /-- Render a scene file to a wave file, and perhaps its first auxiliary bus to another. -/
  | render (scene out : String) (bus : Nat) (auxOut : Option String)
  /-- Print a scene to start from. -/
  | sampleScene
  /-- Create something, without saying what. -/
  | create
  /-- Measure the mixer. -/
  | bench
  /-- Nothing. -/
  | idle
deriving DecidableEq, Repr

namespace Request

/-- The options that every command has. -/
def shared : List OptionSpec :=
  [{ name := "quiet", letter := some 'q', kind := .flag },
    { name := "help", letter := some 'h', kind := .help }]

def renderCommand : Command :=
  { name := "render"
    options :=
      [{ name := "out", letter := some 'o', kind := .text, required := true },
        { name := "bus", kind := .count }, { name := "aux-out", kind := .text }] ++ shared
    places := ["SCENE"] }

def createCommand : Command :=
  { name := "create"
    options := shared
    subcommands := [{ name := "scene-json", options := shared }] }

/-- The command line of the program. -/
def grammar : Command :=
  { name := "mixdown"
    options :=
      [{ name := "bench", kind := .flag }, { name := "bench-tracks", kind := .count },
        { name := "bench-resampled", kind := .count }, { name := "bench-frames", kind := .count },
        { name := "bench-iterations", kind := .count },
        { name := "version", letter := some 'V', kind := .version }] ++ shared
    subcommands := [renderCommand, createCommand]
    needsWords := true }

/-- What is rendered to where. The first main bus is written unless another one is named. -/
def ofRender? (s : Selection) : Option Request := do
  let scene ← s.text? "SCENE"
  let out ← s.text? "out"
  some (.render scene out ((s.count? "bus").getD 0) (s.text? "aux-out"))

def ofSelection? (s : Selection) : Option Request :=
  if s.isGiven "bench" then some .bench
  else match s.subcommand with
    | none => some .idle
    | some ("render", inner) => ofRender? inner
    | some (_, inner) => some (if inner.subcommand.isSome then .sampleScene else .create)

/-- The request that the words after the name of the program make. -/
def parse (words : List String) : Except UsageError Request := do
  let selection ← grammar.parse words
  match ofSelection? selection with
  | some request => return request
  | none => throw .missingArgument

end Request

end Mixdown
