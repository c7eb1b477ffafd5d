import Mixdown.CommandLine.Run

/-!
# The program

Renders scenes to wave files on the disk.
-/

namespace Mixdown

/-- Why a file of the disk cannot be read or written. -/
def FileFault.ofError : IO.Error → FileFault
  | .noFileOrDirectory _ _ _ => .notFound
  | .inappropriateType _ 20 _ => .notFolder
  | .inappropriateType _ 21 _ => .isFolder
  | e => .other (toString e)

/-- The files of the disk and the standard output. -/
def disk : Host IO where
  read path := do
    try
      let bytes ← IO.FS.readBinFile path
      return .ok bytes.toList
    catch e => return .error (.ofError e)
  write path bytes := do
    try
      IO.FS.writeBinFile path ⟨bytes.toArray⟩
      return .ok ()
    catch e => return .error (.ofError e)
  sameFile path other := do
    try
      return (← IO.FS.realPath path) == (← IO.FS.realPath other)
    catch _ => return false
  print text := IO.print text

namespace UsageError

/-- What is printed instead of a run. -/
def text : UsageError → String
  | help | nothingAsked =>
    "usage: mixdown [-q] render SCENE -o WAV [--bus INDEX] [--aux-out WAV]\n" ++
      "       mixdown [-q] create scene-json"
  | version => "mixdown 0.1.0"
  | unknownArgument => "error: unexpected argument"
  | unknownSubcommand => "error: unrecognized subcommand"
  | missingValue => "error: a value is required"
  | faultyValue => "error: invalid value"
  | needlessValue => "error: unexpected value"
  | repeated => "error: an argument cannot be used multiple times"
  | missingArgument => "error: a required argument was not provided"

/-- The exit code: asking for help is no error. -/
def code : UsageError → UInt8
  | help | version => 0
  | _ => 2

end UsageError

end Mixdown

open Mixdown in
def main (args : List String) : IO UInt32 := do
  match Request.parse args with
  | .error e =>
    if e.code = 0 then IO.println e.text else IO.eprintln e.text
    return e.code.toUInt32
  | .ok request =>
    match ← (request.run disk).run with
    | .ok outcome =>
      if let .refused reason := outcome then IO.eprintln reason
      return outcome.code.toUInt32
    | .error e =>
      IO.eprintln (String.ofList (e.message.toList.map Char.toLower))
      return e.code.toUInt32
