import ImportMacros.FileSystem

/-!
# ImportMacros.Resolve.Metadata

What a resolver is told about the paths of a file system. A file system has no word for links, but
a resolver asks for them: a path counts as a link if it is not its own canonical path.
-/

namespace ImportMacros
namespace Resolve

/-- What can stand at a path, once links are followed. -/
inductive EntryKind where
  | file
  | directory
deriving DecidableEq, Repr, Inhabited

structure Metadata where
  kind : EntryKind
  isLink : Bool
deriving DecidableEq, Repr, Inhabited

namespace Metadata

/-- What stands at a path, once links are followed, with a note on links. -/
def ofEntry (fs : FileSystem) (p : Path) (isLink : Bool) : Except IoError Metadata :=
  if fs.isFile p then .ok ⟨.file, isLink⟩
  else if fs.isDir p then .ok ⟨.directory, isLink⟩
  else .error .missing

def follow (fs : FileSystem) (p : Path) : Except IoError Metadata := ofEntry fs p false

/-- What is told about a path if links are looked for. Any path that is not its own canonical path
leads through one. -/
def noFollow (fs : FileSystem) (p : Path) : Except IoError Metadata :=
  match fs.canonicalize p with
  | .error error => .error error
  | .ok q => ofEntry fs p (!q.same p)

end Metadata

def EntryKind.at? (fs : FileSystem) (p : Path) : Option EntryKind :=
  (Metadata.follow fs p).toOption.map Metadata.kind

end Resolve
end ImportMacros
