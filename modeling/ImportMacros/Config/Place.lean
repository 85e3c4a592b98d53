import ImportMacros.FileSystem
import ImportMacros.Text.Blank
import ImportMacros.Data.Json5
import ImportMacros.Data.Yaml

/-!
# ImportMacros.Config.Place

The files of a directory that may hold the configuration of macros, and what one of them holds.
A place can be passed over (`none`): it is no file, or it is blank, or it is a package
description without the field for macros.
-/

namespace ImportMacros
namespace Config

inductive Format where
  /-- A package description, of which one field counts. -/
  | package
  /-- JSON5, or else YAML. -/
  | either
  | json
  | yaml
  | script
deriving DecidableEq, Repr, Inhabited

structure Place where
  name : String
  format : Format
deriving DecidableEq, Repr, Inhabited

/-- The places of a directory; an earlier one hides the later ones. -/
def places : List Place := [
  ⟨"package.json", .package⟩,
  ⟨".babel-plugin-macrosrc", .either⟩,
  ⟨".babel-plugin-macrosrc.json", .json⟩,
  ⟨".babel-plugin-macrosrc.yaml", .yaml⟩,
  ⟨".babel-plugin-macrosrc.yml", .yaml⟩,
  ⟨".babel-plugin-macrosrc.js", .script⟩,
  ⟨"babel-plugin-macros.config.js", .script⟩]

def packageField : String := "babelMacros"

inductive Error where
  /-- Scripts are not run. -/
  | script (path : Path)
  | unreadable (error : IoError)
  /-- The text is not of the file's format. -/
  | malformed (path : Path) (text : String)
deriving DecidableEq, Repr, Inhabited

/-- The wording of an error. A parser's own reason would follow the last of these after a colon; it
is left out, and depends on nothing but the path and the text. -/
def Error.message : Error → String
  | .script path => "Unable to load " ++ path.text ++ ": JavaScript config files are not supported"
  | .unreadable error => error.message
  | .malformed path _ => "Error parsing " ++ path.text

def Format.read? (format : Format) (text : String) : Option Value :=
  match format with
  | .package | .json => Json.read? text
  | .either => (Json5.read? text).or (Yaml.read? text)
  | .yaml => Yaml.read? text
  | .script => none

/-- The part of a file's value that is configuration. -/
def Format.pick (format : Format) (value : Value) : Option Value :=
  match format with
  | .package => value.field? packageField
  | _ => some value

def Place.load (fs : FileSystem) (place : Place) (path : Path) : Except Error (Option Value) :=
  if place.format = .script then .error (.script path)
  else
    match fs.read path with
    | .error error => .error (.unreadable error)
    | .ok text =>
      if Text.isBlankText text then .ok none
      else
        match place.format.read? text with
        | none => .error (.malformed path text)
        | some value => .ok (place.format.pick value)

def Place.lookIn (fs : FileSystem) (dir : Path) (place : Place) : Except Error (Option Value) :=
  let path := dir.join (Path.ofText place.name)
  if fs.isFile path then place.load fs path else .ok none

end Config
end ImportMacros
