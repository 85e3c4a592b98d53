import ImportMacros.Resolve.Sight
import ImportMacros.Resolve.Source

/-!
# ImportMacros.Resolve

From the source of an import and the directory of the importing file to the path of a module.

* A relative or absolute path is tried as a file, with each of the extensions, and as a directory,
  in which the package description names the main file, or else it is called `index`.
* The name of a package is looked up in the package that the file itself belongs to, if it has
  that name, and in the `node_modules` of the directory and of all above it, then in other places.
  What a package exports decides, if it says so.
* A source that starts with `#` is an import that the file's own package gives a name to.

A result has its links followed, and the package that it belongs to has to be readable.

A `Finder` looks through a `Sight` in a monad `m`; `Finder.resolve` is the plain function of a file
system that it comes to without a memory.
-/

namespace ImportMacros
namespace Resolve

/-- What may be missing at the end of a file's name, in the order in which it is tried. -/
def extensions : List String := [".js", ".ts", ".tsx", ".mjs", ".cjs", ".jsx"]

/-- Where modules are looked for: what is seen of a file system, and the names of the directories
that hold packages. -/
structure Finder (m : Type → Type) where
  sight : Sight m
  places : List String

namespace Finder

variable {m : Type → Type} [Monad m]

/-- Looks for packages in `node_modules`, and then in some other places. -/
def ofPaths (sight : Sight m) (paths : List String) : Finder m := ⟨sight, "node_modules" :: paths⟩

def withExtension (p : Path) (extension : String) : Path :=
  Path.ofText ((Path.ofComponents p.components).text ++ extension)

/-- The file at a path, as it is or with an extension. -/
def asFile (f : Finder m) (p : Path) : m (Option Path) :=
  (p :: extensions.map (withExtension p)).findM? f.sight.isFile

def index (f : Finder m) (dir : Path) : m (Option Path) :=
  f.asFile (follow dir (Path.ofText "index"))

/-- The main file of a package, as a file or as a directory. -/
def mainFile (f : Finder m) (dir : Path) (main : String) : m (Option Path) := do
  let p := follow dir (Path.ofText main)
  match ← f.asFile p with
  | some file => return some file
  | none => f.index p

def asDirectory (f : Finder m) (dir : Path) : Look m (Option Path) := do
  let package ← f.sight.package dir
  let main ←
    match package.bind (·.text? "main") with
    | some main => f.mainFile dir main
    | none => pure none
  match main with
  | some file => return some file
  | none => f.index dir

/-- The file at a path or in the directory at it. A name that ends in a slash is a directory. -/
def asFileOrDirectory (f : Finder m) (p : Path) (name : List Char) : Look m (Option Path) := do
  let file ← if name.getLast? = some '/' then pure none else f.asFile p
  match file with
  | some file => return some file
  | none => if ← f.sight.isDir p then f.asDirectory p else return none

/-- The module at a path, which is there or not found. -/
def found (search : Look m (Option Path)) : Look m Path := do
  match ← search with
  | some p => return p
  | none => throw (.notFound "" ⟨[]⟩)

def relative (f : Finder m) (dir : Path) (name : List Char) : Look m Path :=
  found (f.asFileOrDirectory (follow dir (Path.ofText (String.ofList name))) name)

/-- The directory for packages of one place, as seen from a directory. -/
def moduleDirectory (f : Finder m) (dir : Path) (place : String) : m (Option Path) := do
  if dir.fileName? = some place then return some dir
  let inner := dir.join (Path.ofText place)
  if ← f.sight.isDir inner then return some inner else return none

/-- The places in which packages are looked for, each with a directory it is seen from: all
directories above for one place, then for the next. -/
def outlooks (f : Finder m) (dir : Path) : List (String × Path) :=
  f.places.flatMap fun place => dir.ancestors.map (place, ·)

/-- The module that a package says it exports under a name, if it says so. -/
def fromExports (f : Finder m) (package : Option Package) (dir : Path) (sub : List Char)
    (hasSuffix : Bool) : Look m (Option Path) := do
  match package.bind (·.exports?) with
  | none => return none
  | some exports =>
    let p ← Target.exported dir exports ('.' :: sub) hasSuffix
    return some (← found (f.asFileOrDirectory p []))

/-- A module of the package that a directory belongs to, asked for by the package's name. -/
def fromSelf (f : Finder m) (dir : Path) (name : List Char) (hasSuffix : Bool) :
    Look m (Option Path) := do
  match ← f.sight.nearest dir with
  | none => return none
  | some package =>
    match (package.text? "name").bind fun own => Source.afterPackage? own.toList name with
    | none => return none
    | some sub => f.fromExports (some package) (← f.sight.real package.dir) sub hasSuffix

/-- A module of a package in the directory `modules`. -/
def fromModules (f : Finder m) (modules : Path) (name : List Char) (hasSuffix : Bool) :
    Look m (Option Path) := do
  let (packageName, sub) := Source.splitPackage name
  let package := follow modules (Path.ofText (String.ofList packageName))
  let plain := f.asFileOrDirectory (follow modules (Path.ofText (String.ofList name))) name
  if ← f.sight.isDir package then
    match ← f.fromExports (← f.sight.package package) package sub hasSuffix with
    | some p => return some p
    | none => plain
  else if !sub.isEmpty then return none
  else if packageName.head? = some '@' then
    match package.parent? with
    | some scope => if ← f.sight.isDir scope then plain else return none
    | none => plain
  else plain

def fromPlace (f : Finder m) (name : List Char) (hasSuffix : Bool) (place : String) (dir : Path) :
    Look m (Option Path) := do
  let modules ← if ← f.sight.isDir dir then f.moduleDirectory dir place else pure none
  match modules with
  | none => return none
  | some modules => f.fromModules modules name hasSuffix

/-- A module asked for by the name of a package. -/
def bare (f : Finder m) (dir : Path) (name : List Char) (hasSuffix : Bool) : Look m Path := do
  match ← f.fromSelf dir name hasSuffix with
  | some p => return p
  | none =>
    found (Look.firstOf (fun outlook => f.fromPlace name hasSuffix outlook.1 outlook.2)
      (f.outlooks dir))

/-- A source resolved by `go`, which is given a path and whether a query or a fragment follows it.
A fragment without a query may be part of a name, which is tried first. -/
def parsed (go : List Char → Bool → Look m Path) (source : String) : Look m Path :=
  match Source.parse? source with
  | none => throw .emptySource
  | some s =>
    match s.query, s.fragment with
    | none, some fragment => tryCatch (go (s.path ++ fragment) false) (fun _ => go s.path true)
    | query, fragment => go s.path (query.isSome || fragment.isSome)

/-- What a package in the directory `modules` exports, or has at a path. -/
def fromOtherModules (f : Finder m) (modules : Path) (packageName sub : List Char)
    (hasSuffix : Bool) : Look m (Option Path) := do
  let package := follow modules (Path.ofText (String.ofList packageName))
  if ← f.sight.isDir package then
    let description ← f.sight.package package
    match description.bind (·.exports?) with
    | some exports => return some (← Target.exported package exports ('.' :: sub) hasSuffix)
    | none =>
      return some (← parsed (fun path _ => f.relative package path) (String.ofList ('.' :: sub)))
  else return none

/-- The module of another package that an import of a package in `dir` leads to. -/
def fromOther (f : Finder m) (dir : Path) (hasSuffix : Bool) (name : String) :
    Look m (Option Path) := do
  let (packageName, sub) := Source.splitPackage name.toList
  let seen (outlook : String × Path) : Look m (Option Path) := do
    match ← f.moduleDirectory outlook.2 outlook.1 with
    | none => return none
    | some modules => f.fromOtherModules modules packageName sub hasSuffix
  return some (← found (Look.firstOf seen (f.outlooks dir)))

/-- The module that the package of a directory imports under a name that starts with `#`. -/
def fromImports (f : Finder m) (dir : Path) (name : List Char) (hasSuffix : Bool) :
    Look m (Option Path) := do
  let package ← f.sight.nearest dir
  match package.bind fun package => package.imports?.map (package, ·) with
  | none => return none
  | some (package, keys) =>
    if name = ['#'] || "#/".toList.isPrefixOf name then throw .invalidImport
    let own ← f.sight.real package.dir
    match ← Target.lookup own (some (f.fromOther own hasSuffix)) name keys with
    | none => throw .notImported
    | some p => return some (← found (f.asFileOrDirectory p []))

/-- The module at a path, which may be a name of any kind. -/
def named (f : Finder m) (dir : Path) (name : List Char) (hasSuffix : Bool) : Look m Path := do
  let path := Path.ofText (String.ofList name)
  match path.components.head? with
  | some .root => found (f.asFileOrDirectory path name)
  | some .cur => f.relative dir name
  | some .up => f.relative dir name
  | _ =>
    let imported ← if name.head? = some '#' then f.fromImports dir name hasSuffix else pure none
    match imported with
    | some p => return p
    | none => f.bare dir name hasSuffix

/-- The module that a source stands for in a directory, once links are followed. -/
def locate (f : Finder m) (source : String) (dir : Path) : Look m Path := do
  let p ← parsed (f.named (Path.ofComponents dir.components)) source
  let _ ← f.sight.nearest p
  f.sight.real p

def find (f : Finder m) (source : String) (dir : Path) : m (Except ResolveError Path) := do
  match ← (f.locate source dir).run with
  | .error (.notFound _ _) => return .error (.notFound source dir)
  | result => return result

def resolve (f : Finder Id) : Resolver := fun source dir => (f.find source dir).run

end Finder
end Resolve
end ImportMacros
