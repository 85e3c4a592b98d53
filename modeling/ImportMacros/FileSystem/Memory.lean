import ImportMacros.FileSystem

/-!
# ImportMacros.FileSystem.Memory

A file system held in memory. Writing a file makes directories of all paths above it, and both
the file and the directories take the place of what was there. There are no links, so an
existing path is canonical as soon as it is normalized.
-/

namespace ImportMacros

inductive Entry where
  | file (contents : String)
  | directory
deriving DecidableEq, Repr, Inhabited

/-- An in-memory file system: its entries, the latest first, and its working directory. -/
structure Memory where
  entries : List (List Component × Entry) := []
  cwd : Path := Path.root
deriving Repr, Inhabited

namespace Memory

/-- A path as this file system understands it. -/
def absolute (m : Memory) (path : Path) : Path := Path.normalize m.cwd path

def entry? (m : Memory) (path : Path) : Option Entry :=
  m.entries.lookup (m.absolute path).components

/-- Changes the working directory, which need not exist. -/
def setCwd (m : Memory) (path : Path) : Memory := { m with cwd := m.absolute path }

def put (m : Memory) (path : Path) (entry : Entry) : Memory :=
  { m with entries := (path.components, entry) :: m.entries }

/-- Writes a file and makes the directories above it. -/
def write (m : Memory) (path : Path) (contents : String) : Memory :=
  let target := m.absolute path
  (target.parents.foldl (fun m dir => m.put dir .directory) m).put target (.file contents)

/-- The path itself, normalized, if there is anything at it. -/
def canonicalize (m : Memory) (path : Path) : Except IoError Path :=
  match m.entry? path with
  | none => .error .missing
  | some _ => .ok (m.absolute path)

def read (m : Memory) (path : Path) : Except IoError String :=
  match m.entry? path with
  | none => .error .missing
  | some .directory => .error .directory
  | some (.file contents) => .ok contents

def isFile (m : Memory) (path : Path) : Bool :=
  match m.entry? path with
  | some (.file _) => true
  | _ => false

def isDir (m : Memory) (path : Path) : Bool :=
  m.entry? path == some .directory

def fileSystem (m : Memory) : FileSystem where
  cwd := .ok m.cwd
  canonicalize := m.canonicalize
  read := m.read
  isFile := m.isFile
  isDir := m.isDir

end Memory
end ImportMacros
