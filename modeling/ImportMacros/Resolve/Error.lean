import ImportMacros.FileSystem

/-!
# ImportMacros.Resolve.Error

Why a source cannot be resolved to the path of a module.
-/

namespace ImportMacros

inductive ResolveError where
  | notFound (source : String) (dir : Path)
  /-- Nothing is left of the source without its query and fragment. -/
  | emptySource
  /-- A package description on the way is not JSON. -/
  | malformedPackage
  | notExported
  /-- A package exports or imports a path that is not inside it. -/
  | invalidTarget
  /-- A package mixes conditions and paths among its exports. -/
  | mixedExports
  /-- A package exports a folder to something that is no folder. -/
  | invalidFolder
  /-- A package has a condition after the default one. -/
  | lateCondition
  /-- The source cannot be the name of a package's own import. -/
  | invalidImport
  | notImported
  /-- The working directory is not known. -/
  | adrift (error : IoError)
  | refused (reason : String)
deriving DecidableEq, Repr, Inhabited

namespace ResolveError

/-- The wording of an error, for the errors that have one of their own. -/
def message? : ResolveError → Option String
  | .notFound source dir =>
    some ("Cannot find module '" ++ source ++ "' from '" ++ dir.text ++ "'")
  | .adrift error => some error.message
  | .refused reason => some reason
  | _ => none

end ResolveError

abbrev Resolver := String → Path → Except ResolveError Path

end ImportMacros
