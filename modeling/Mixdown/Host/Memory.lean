import Mixdown.Host.Basic

/-!
# Files in memory

A host that keeps its files and what was printed. A folder exists as long as there is a file below
it; the one that relative paths start from exists anyway, and so do those above it. The null
device reads as empty and keeps nothing.
-/

namespace Mixdown

/-- Files by the names on the way to them from the top folder, and the printed text. -/
structure Memory where
  files : List (List String × List UInt8) := []
  /-- The way to the folder that relative paths start from. -/
  home : List String := ["tmp", "session"]
  printed : String := ""

/-- What lies at the end of a way. -/
inductive Place where
  | folder (way : List String)
  | file (way : List String) (bytes : List UInt8)
  /-- Nothing, in a folder that exists. -/
  | vacant (way : List String)

namespace Memory

/-- The way to the null device. -/
def nullDevice : List String := ["dev", "null"]

/-- A folder is at or above the home folder, or above the null device or a file. -/
def isFolder (s : Memory) (way : List String) : Bool :=
  let above (name : List String) : Bool := way.length < name.length && way.isPrefixOf name
  way.isPrefixOf s.home || above nullDevice || s.files.any (above ·.1)

/-- The longest name of a file, in bytes. -/
def maxNameBytes : Nat := 255

/-- The longest way to a file, in bytes. -/
def maxWayBytes : Nat := 4095

/-- The bytes of a file. -/
def contents? (s : Memory) (way : List String) : Option (List UInt8) :=
  if way = nullDevice then some [] else s.files.lookup way

/-- Where one name leads from a folder. The top folder lies in itself. -/
def enter (s : Memory) (here : List String) (name : String) : Except FileFault Place :=
  if name = "" ∨ name = "." then .ok (.folder here)
  else if name = ".." then .ok (.folder here.dropLast)
  else if maxNameBytes < name.utf8ByteSize then .error .nameTooLong
  else
    let way := here ++ [name]
    match s.contents? way with
    | some bytes => .ok (.file way bytes)
    | none => .ok (if s.isFolder way then .folder way else .vacant way)

/-- Where names lead one after another from a folder. -/
def walk (s : Memory) (here : List String) : List String → Except FileFault Place
  | [] => .ok (.folder here)
  | name :: rest =>
    match s.enter here name with
    | .ok (.folder way) => s.walk way rest
    | .ok (.file way bytes) => if rest.isEmpty then .ok (.file way bytes) else .error .notFolder
    | .ok (.vacant way) => if rest.isEmpty then .ok (.vacant way) else .error .notFound
    | .error fault => .error fault

/-- What a path names. -/
def place (s : Memory) (path : String) : Except FileFault Place :=
  if path.contains '\x00' then .error .badName
  else if maxWayBytes < path.utf8ByteSize then .error .nameTooLong
  else if path.isEmpty then .error .notFound
  else s.walk (if path.startsWith "/" then [] else s.home) (path.splitOn "/")

def read (s : Memory) (path : String) : Except FileFault (List UInt8) :=
  match s.place path with
  | .ok (.file _ bytes) => .ok bytes
  | .ok (.folder _) => .error .isFolder
  | .ok (.vacant _) => .error .notFound
  | .error fault => .error fault

/-- The files with one of them replaced or added. -/
def put (s : Memory) (way : List String) (bytes : List UInt8) : Memory :=
  if way = nullDevice then s
  else { s with files := (way, bytes) :: s.files.filter (·.1 != way) }

/-- The files with one of them, named from the home folder, replaced or added. -/
def add (s : Memory) (path : String) (bytes : List UInt8) : Memory :=
  s.put (s.home ++ path.splitOn "/") bytes

def write (s : Memory) (path : String) (bytes : List UInt8) : Except FileFault Unit × Memory :=
  match s.place path with
  | .ok (.file way _) | .ok (.vacant way) => (.ok (), s.put way bytes)
  | .ok (.folder _) => (.error .isFolder, s)
  | .error fault => (.error fault, s)

/-- Both paths lead to the same file. -/
def sameFile (s : Memory) (path other : String) : Bool :=
  match s.place path, s.place other with
  | .ok (.file way _), .ok (.file way' _) => way == way'
  | _, _ => false

/-- The host that works on the memory of a state. -/
def host : Host (StateM Memory) where
  read path := do return (← get).read path
  write path bytes := modifyGet fun s => s.write path bytes
  sameFile path other := do return (← get).sameFile path other
  print text := modify fun s => { s with printed := s.printed ++ text }

end Memory

end Mixdown
