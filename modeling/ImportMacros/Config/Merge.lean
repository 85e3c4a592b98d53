import ImportMacros.Config.Explorer

/-!
# ImportMacros.Config.Merge

The configuration of one macro: its section of the options, with its section of the nearest
configuration file on top. A section counts if it is an object or null. A macro without a
configuration name has no configuration, and nothing is looked up for it.
-/

namespace ImportMacros
namespace Config

inductive Failure where
  /-- The file's section cannot be merged with that of the options. -/
  | mismatch (path : Path) (name type : String)
  /-- The search failed, and the options have no section. -/
  | search (error : Error)
deriving DecidableEq, Repr, Inhabited

def Failure.message : Failure → String
  | .mismatch path name type =>
    path.text ++ " specified a " ++ name ++ " config of type " ++ type ++
      ", but the macros plugin's options." ++ name ++
      " did contain an object. Both configs must contain objects for their options to be mergeable."
  | .search error => error.message

/-- The section of the options for a name, if it counts. -/
def ofOptions (options : Fields) (name : String) : Option Value :=
  (options.get? name).filter Value.isMergeable

def optionsEvents (options : Fields) (name : String) : List Event :=
  match options.get? name with
  | some value => if value.isMergeable then [] else [.optionsIgnored name]
  | none => []

/-- The section of a file for a name, and the file's path. -/
def ofFile (loaded : Option Loaded) (name : String) : Option (Path × Value) :=
  loaded.bind fun l => (l.config.field? name).map fun value => (l.path, value)

/-- The fields of two sections, the second one on top. -/
def merge (options file : Option Value) : Fields :=
  Fields.merge (Fields.merge [] (options.map Value.fields |>.getD []))
    (file.map Value.fields |>.getD [])

def combine (name : String) (file : Option (Path × Value)) (options : Option Value) :
    Except Failure Fields × List Event :=
  match file with
  | none => (.ok (merge options none), [])
  | some (path, value) =>
    if value.isMergeable then (.ok (merge options (some value)), [])
    else if options.isSome then (.error (.mismatch path name value.typeName), [])
    else (.ok [], [.configUnmergeable path name value.typeName])

def forName (fs : FileSystem) (explorer : Explorer) (options : Fields) (name : String)
    (dir : Path) (source : String) : Except Failure Fields × Explorer × List Event :=
  let own := ofOptions options name
  let told := optionsEvents options name
  match explorer.search fs dir with
  | (.ok loaded, explorer, found) =>
    let (outcome, events) := combine name (ofFile loaded name) own
    (outcome, explorer, told ++ found ++ events)
  | (.error error, explorer, found) =>
    if own.isSome then
      let (outcome, events) := combine name none own
      (outcome, explorer, told ++ found ++ .configIgnored error :: events)
    else (.error (.search error), explorer, told ++ found ++ [.configFailed name source])

/-- The configuration of a macro imported from `source` into a file of a directory, the explorer
afterwards, and what there is to tell. -/
def forMacro (fs : FileSystem) (explorer : Explorer) (options : Fields) (name : Option String)
    (dir : Path) (source : String) : Except Failure (Option Fields) × Explorer × List Event :=
  match name with
  | none => (.ok none, explorer, [])
  | some name =>
    match forName fs explorer options name dir source with
    | (.ok fields, explorer, events) => (.ok (some fields), explorer, events)
    | (.error failure, explorer, events) => (.error failure, explorer, events)

end Config
end ImportMacros
