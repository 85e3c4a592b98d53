import ImportMacros.FileSystem

/-!
# ImportMacros.FileSystem.Disk

A file system with links. A path is walked piece by piece from the root or the working directory;
every piece but the last has to be a directory, or a link to one. A link is replaced by its target,
so many times and no more.
-/

namespace ImportMacros

/-- A place on disk: the names that lead to it, the last one first. -/
abbrev Place := List String

def Place.path (place : Place) : Path :=
  .ofComponents (.root :: place.reverse.map .name)

inductive Node where
  /-- A file, and what it says if it is text. -/
  | file (text : Option String)
  | directory
  | link (target : Path)
deriving DecidableEq, Repr, Inhabited

/-- A file system with links: its entries, the latest first, and its working directory. -/
structure Disk where
  entries : List (Place × Node) := []
  cwd : Path := Path.root
deriving Repr, Inhabited

namespace Disk

/-- How many links are followed on the way to one place. -/
def linkLimit : Nat := 40

def node? (d : Disk) (place : Place) : Option Node :=
  if place.isEmpty then some .directory else d.entries.lookup place

/-- The place that some pieces lead to from another one. Nothing needs to stand there, but on the
way there have to be directories. -/
def walk (d : Disk) (links : Nat) (place : Place) : List String → Except IoError Place
  | [] => .ok place
  | piece :: rest =>
    match d.node? place with
    | none => .error .noEntry
    | some .directory =>
      if piece = "" || piece = "." then walk d links place rest
      else if piece = ".." then walk d links place.tail rest
      else
        match d.node? (piece :: place) with
        | some (.link target) =>
          match _h : links with
          | 0 => .error .linkLoop
          | left + 1 =>
            walk d left (if target.isAbsolute then [] else place) (target.pieces ++ rest)
        | _ => walk d links (piece :: place) rest
    | some _ => .error .notDirectory
termination_by pieces => (links, pieces.length)

def locate (d : Disk) (path : Path) : Except IoError Place :=
  if path.text.isEmpty then .error .noEntry
  else d.walk linkLimit [] (if path.isAbsolute then path.pieces else d.cwd.pieces ++ path.pieces)

def find (d : Disk) (path : Path) : Except IoError (Place × Node) :=
  match d.locate path with
  | .error error => .error error
  | .ok place =>
    match d.node? place with
    | none => .error .noEntry
    | some node => .ok (place, node)

def put (d : Disk) (place : Place) (node : Node) : Disk :=
  { d with entries := (place, node) :: d.entries }

/-- Makes a directory at a path where nothing stands yet. -/
def makeDirectory (d : Disk) (path : Path) : Disk :=
  match d.locate path with
  | .error _ => d
  | .ok place => if (d.node? place).isSome then d else d.put place .directory

def makeDirectories (d : Disk) (path : Path) : Disk :=
  path.ancestors.reverse.foldl makeDirectory d

def putAt (d : Disk) (path : Path) (node : Node) : Disk :=
  match d.locate path with
  | .error _ => d
  | .ok place => d.put place node

/-- Writes a file and makes the directories above it. -/
def write (d : Disk) (path : Path) (contents : ByteArray) : Disk :=
  let above := path.parents.reverse.foldl makeDirectory d
  above.putAt path (.file (String.fromUTF8? contents))

def makeLink (d : Disk) (path target : Path) : Disk := d.putAt path (.link target)

def canonicalize (d : Disk) (path : Path) : Except IoError Path :=
  (d.find path).map (·.1.path)

def read (d : Disk) (path : Path) : Except IoError String :=
  match d.find path with
  | .error error => .error error
  | .ok (_, .file (some text)) => .ok text
  | .ok (_, .file none) => .error .notText
  | .ok _ => .error .isDirectory

def isFile (d : Disk) (path : Path) : Bool :=
  match d.find path with
  | .ok (_, .file _) => true
  | _ => false

def isDir (d : Disk) (path : Path) : Bool :=
  match d.find path with
  | .ok (_, .directory) => true
  | _ => false

def fileSystem (d : Disk) : FileSystem where
  cwd := .ok d.cwd
  canonicalize := d.canonicalize
  read := d.read
  isFile := d.isFile
  isDir := d.isDir

end Disk
end ImportMacros
