import ImportMacros.Resolve.Target
import ImportMacros.Data.Json

/-!
# ImportMacros.Resolve.Package

Package descriptions and what they say. A description that cannot be read counts as absent; one
that is not JSON is an error wherever it is read.
-/

namespace ImportMacros
namespace Resolve

structure Package where
  dir : Path
  description : Value
deriving Inhabited

namespace Package

def read? (fs : FileSystem) (dir : Path) : Except ResolveError (Option Package) :=
  match fs.read (dir.join (Path.ofText "package.json")) with
  | .error _ => .ok none
  | .ok text =>
    match Json.read? text with
    | none => .error .malformedPackage
    | some description => .ok (some ⟨dir, description⟩)

def text? (package : Package) (field : String) : Option String :=
  match package.description.field? field with
  | some (.string text) => some text
  | _ => none

/-- What a package exports; null is not nothing. -/
def exports? (package : Package) : Option Value := package.description.field? "exports"

/-- What a package imports under names of its own. -/
def imports? (package : Package) : Option Fields :=
  match package.description.field? "imports" with
  | some (.object fields) => some fields
  | _ => none

end Package
end Resolve
end ImportMacros
