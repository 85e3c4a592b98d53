import ImportMacros.Resolve.Metadata
import ImportMacros.Resolve.Package

/-!
# ImportMacros.Resolve.Sight

What a resolver sees of a file system: what stands at a path, which description a package has, and
where a path really leads. Looking is an action in a monad `m`, and there are two of them.

* `Sight.ofFileSystem` looks afresh every time.
* `Sight.remembering` sees a path forever as it was when it was first looked at, even if that was
  nothing. Only a description that is not JSON is read again.
-/

namespace ImportMacros
namespace Resolve

/-- Where a path leads to, if it is a link. -/
def link? (fs : FileSystem) (p : Path) : Option Path :=
  match Metadata.noFollow fs p with
  | .error _ => none
  | .ok metadata => if metadata.isLink then (fs.canonicalize p).toOption else none

/-- The place that a path and everything above it lead to, with links followed from the first that
is one. -/
def realFrom (fs : FileSystem) : List Path → Path
  | [] => ⟨[""]⟩
  | p :: above =>
    match link? fs p, above with
    | some q, _ => q
    | none, [] => p
    | none, above => follow (realFrom fs above) (Path.ofComponents p.components.getLast?.toList)

def realPath (fs : FileSystem) (p : Path) : Path := realFrom fs p.ancestors

/-- What a resolver sees of a file system. -/
structure Sight (m : Type → Type) where
  kind? : Path → m (Option EntryKind)
  package? : Path → m (Except ResolveError (Option Package))
  real : Path → m Path

/-- What was seen so far: what stands at paths, and the descriptions of packages. -/
structure Seen where
  kinds : List (Path × Option EntryKind) := []
  packages : List (Path × Option Package) := []
deriving Inhabited

namespace Sight

def ofFileSystem (fs : FileSystem) : Sight Id where
  kind? := EntryKind.at? fs
  package? := Package.read? fs
  real := realPath fs

/-- Looks at a file system, but sees what was seen before as it was then. -/
def remembering (fs : FileSystem) : Sight (StateM Seen) where
  kind? p := do
    match (← get).kinds.lookup p with
    | some kind => return kind
    | none =>
      let kind := EntryKind.at? fs p
      modify fun seen => { seen with kinds := (p, kind) :: seen.kinds }
      return kind
  package? dir := do
    match (← get).packages.lookup dir with
    | some package => return .ok package
    | none =>
      match Package.read? fs dir with
      | .error e => return .error e
      | .ok package =>
        modify fun seen => { seen with packages := (dir, package) :: seen.packages }
        return .ok package
  real p := return realPath fs p

end Sight

namespace Sight

variable {m : Type → Type} [Monad m]

def isFile (s : Sight m) (p : Path) : m Bool := do
  return (← s.kind? p) == some .file

def isDir (s : Sight m) (p : Path) : m Bool := do
  return (← s.kind? p) == some .directory

def package (s : Sight m) (dir : Path) : Look m (Option Package) := s.package? dir

/-- Of a path and those above it, the ones from the first directory on. -/
def scopes (s : Sight m) : List Path → m (List Path)
  | [] => return []
  | [p] => return [p]
  | p :: above => do
    if ← s.isDir p then return p :: above else scopes s above

def nearest (s : Sight m) (p : Path) : Look m (Option Package) := do
  Look.firstOf s.package (← s.scopes p.ancestors)

end Sight
end Resolve
end ImportMacros
