import ImportMacros.Event

/-!
# ImportMacros.Config.Explorer

The search for a configuration file, from a directory up to the root. An `Explorer` remembers the
outcome for every directory that a successful search has gone through; a search that fails is not
remembered. Directories are told apart by their components.
-/

namespace ImportMacros
namespace Config

structure Loaded where
  path : Path
  config : Value
deriving Repr, Inhabited

/-- What the first of some places of a directory holds that is not passed over. -/
def firstIn (fs : FileSystem) (dir : Path) : List Place → Except Error (Option Loaded)
  | [] => .ok none
  | place :: rest =>
    match place.lookIn fs dir with
    | .error error => .error error
    | .ok (some config) => .ok (some ⟨dir.join (Path.ofText place.name), config⟩)
    | .ok none => firstIn fs dir rest

def inDirectory (fs : FileSystem) (dir : Path) : Except Error (Option Loaded) :=
  firstIn fs dir places

/-- The outcomes of earlier searches, by directory. -/
structure Explorer where
  known : List (List Component × Option Loaded) := []
deriving Repr, Inhabited

namespace Explorer

def known? (explorer : Explorer) (dir : Path) : Option (Option Loaded) :=
  explorer.known.lookup dir.components

def remember (explorer : Explorer) (dirs : List Path) (outcome : Option Loaded) : Explorer :=
  ⟨dirs.map (fun dir => (dir.components, outcome)) ++ explorer.known⟩

/-- A finished walk: the directories that were looked into, what was found, and whether it was
found in the last of them. -/
structure Walk where
  visited : List Path
  outcome : Option Loaded
  isNew : Bool
deriving Repr, Inhabited

/-- Looks into directories one after the other until one has configuration or is known. -/
def walk (fs : FileSystem) (explorer : Explorer) : List Path → Except Error Walk
  | [] => .ok ⟨[], none, false⟩
  | dir :: rest =>
    match explorer.known? dir with
    | some outcome => .ok ⟨[], outcome, false⟩
    | none =>
      match inDirectory fs dir with
      | .error error => .error error
      | .ok (some loaded) => .ok ⟨[dir], some loaded, true⟩
      | .ok none =>
        match walk fs explorer rest with
        | .error error => .error error
        | .ok w => .ok { w with visited := dir :: w.visited }

def Walk.events (w : Walk) : List Event :=
  if w.isNew then w.outcome.toList.map (.configFound ·.path) else []

/-- The nearest configuration file to a directory, the explorer that knows it, and what there is
to tell. -/
def search (fs : FileSystem) (explorer : Explorer) (dir : Path) :
    Except Error (Option Loaded) × Explorer × List Event :=
  match explorer.walk fs dir.ancestors with
  | .error error => (.error error, explorer, [])
  | .ok w => (.ok w.outcome, explorer.remember w.visited w.outcome, w.events)

end Explorer
end Config
end ImportMacros
