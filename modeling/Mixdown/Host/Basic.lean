/-!
# Files and output

What the program needs of its surroundings: files by name and a place to print to. The program
is written against `Host`, so it can run on a disk as well as in memory.
-/

namespace Mixdown

/-- Why a file cannot be read or written. -/
inductive FileFault where
  | notFound
  /-- Something on the way to the file is no folder. -/
  | notFolder
  /-- There is a folder of this name. -/
  | isFolder
  | nameTooLong
  /-- The name holds a zero character. -/
  | badName
  /-- The file does not hold text. -/
  | notText
  | other (text : String)
deriving DecidableEq, Repr

namespace FileFault

def message : FileFault → String
  | notFound => "No such file or directory (os error 2)"
  | notFolder => "Not a directory (os error 20)"
  | isFolder => "Is a directory (os error 21)"
  | nameTooLong => "File name too long (os error 36)"
  | badName => "file name contained an unexpected NUL byte"
  | notText => "stream did not contain valid UTF-8"
  | other text => text

end FileFault

/-- Access to files and to the output, with effects in `m`. -/
structure Host (m : Type → Type) where
  /-- The bytes of a file. -/
  read : String → m (Except FileFault (List UInt8))
  /-- Replace a file, or create it. -/
  write : String → List UInt8 → m (Except FileFault Unit)
  /-- Two paths lead to the same file. -/
  sameFile : String → String → m Bool
  print : String → m Unit

/-- The text that some bytes hold. -/
def textOf? (bytes : List UInt8) : Except FileFault String :=
  match String.fromUTF8? ⟨bytes.toArray⟩ with
  | some text => .ok text
  | none => .error .notText

end Mixdown
