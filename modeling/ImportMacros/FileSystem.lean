import ImportMacros.Path

/-!
# ImportMacros.FileSystem

What the rest of the library asks of a file system: five read-only questions. A `FileSystem` is
the answers of one moment, so everything computed from it is a function of those answers.
-/

namespace ImportMacros

inductive IoError where
  /-- No entry of an in-memory file system. -/
  | missing
  /-- A directory of an in-memory file system, read as a file. -/
  | directory
  /-- No entry on disk. -/
  | noEntry
  /-- A directory on disk, read as a file. -/
  | isDirectory
  /-- A file on disk, used as a directory. -/
  | notDirectory
  /-- A file on disk that is not UTF-8. -/
  | notText
  | linkLoop
  | refused (reason : String)
deriving DecidableEq, Repr, Inhabited

def IoError.message : IoError → String
  | .missing => "File not found"
  | .directory => "Path is a directory"
  | .noEntry => "No such file or directory (os error 2)"
  | .isDirectory => "Is a directory (os error 21)"
  | .notDirectory => "Not a directory (os error 20)"
  | .notText => "stream did not contain valid UTF-8"
  | .linkLoop => "Too many levels of symbolic links (os error 40)"
  | .refused reason => reason

/-- The answers of a file system at one moment. -/
structure FileSystem where
  cwd : Except IoError Path
  /-- The absolute path of an existing entry, with all links followed. -/
  canonicalize : Path → Except IoError Path
  read : Path → Except IoError String
  isFile : Path → Bool
  isDir : Path → Bool

namespace FileSystem

/-- `fs`, but for the files at `paths`, which exist and cannot be read. -/
def unreadable (fs : FileSystem) (paths : List Path) : FileSystem :=
  { fs with
    read := fun path =>
      if paths.any (·.same path) then .error (.refused "unreadable") else fs.read path }

/-- `fs`, but for its working directory, which is not known. -/
def adrift (fs : FileSystem) : FileSystem :=
  { fs with cwd := .error (.refused "no cwd") }

end FileSystem
end ImportMacros
