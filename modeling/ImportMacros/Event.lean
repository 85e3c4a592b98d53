import ImportMacros.Config.Place

/-!
# ImportMacros.Event

What the library tells about its work, as it goes along.
-/

namespace ImportMacros

inductive Level where
  | debug
  | error
deriving DecidableEq, Repr, Inhabited

def Level.name : Level → String
  | .debug => "debug"
  | .error => "error"

inductive Event where
  /-- A statement is about to be handled. -/
  | found (source : String)
  /-- Nothing that a statement binds is used. -/
  | unused
  /-- A binding of a statement is no longer declared. -/
  | undeclared (importedName localName : String)
  | invoking (path : Path)
  | removedImport (source : String)
  | removedRequire (source : String)
  | configFound (path : Path)
  /-- A configuration file is of no use, but the options have what is needed. -/
  | configIgnored (error : Config.Error)
  /-- A configuration file is of no use, and neither are the options. -/
  | configFailed (name source : String)
  /-- The options of a macro can not be merged. -/
  | optionsIgnored (name : String)
  | configUnmergeable (path : Path) (name type : String)
deriving DecidableEq, Repr, Inhabited

namespace Event

def level : Event → Level
  | .configFailed _ _ => .error
  | .optionsIgnored _ => .error
  | .configUnmergeable _ _ _ => .error
  | _ => .debug

def message : Event → String
  | .found source => "Found macro statement for " ++ source
  | .unused => "Skipping macro without references"
  | .undeclared importedName localName =>
    "Skipping " ++ importedName ++ " imported as " ++ localName ++ ": binding not found"
  | .invoking path => "Invoking macro from " ++ path.text
  | .removedImport source => "Removed import of " ++ source
  | .removedRequire source => "Removed require of " ++ source
  | .configFound path => "Found macros config at " ++ path.text
  | .configIgnored error =>
    "Ignoring macros config error in favour of plugin options: " ++ error.message
  | .configFailed name source =>
    "There was an error trying to load the config \"" ++ name ++
      "\" for the macro imported from \"" ++ source ++
      "\". Please see the error thrown for more information."
  | .optionsIgnored name =>
    "The macro plugin options' " ++ name ++ " property was not an object or null."
  | .configUnmergeable path name type =>
    path.text ++ " specified a " ++ name ++ " config of type " ++ type ++
      " which was not an object or null, ignoring it."

end Event
end ImportMacros
