import ImportMacros.Resolve.Look
import ImportMacros.Data.Value

/-!
# ImportMacros.Resolve.Target

The paths that a package offers under names of its own: its exports, and the imports that only it
can see. A name is looked up among keys, of which some are patterns with one `*` and some are
folders that end in a slash. What it is mapped to is a path below the package, or a choice of
targets: conditions, of which only the default one holds, or alternatives.
-/

namespace ImportMacros
namespace Resolve

/-- The path that `sub` leads to from a directory. No path leads to no path. -/
def follow (dir : Path) (sub : Path) : Path :=
  let step (p : Path) : Component → Path
    | .name text => p.join ⟨[text]⟩
    | .up => p.parent?.getD p
    | _ => p
  match sub.components with
  | [] => sub
  | .root :: steps => Path.ofComponents (.root :: steps)
  | steps => steps.foldl step dir

namespace Target

/-- A key that fits a name: what it is mapped to, and what the name has in place of the `*`. -/
structure Match where
  key : List Char
  target : Value
  star : List Char
deriving Inhabited

/-- How long the part of a key is that has to be matched literally first. -/
def baseLength (key : List Char) : Nat :=
  if key.contains '*' then (key.takeWhile (· != '*')).length + 1
  else (String.ofList key).utf8ByteSize

/-- Whether `key` is to be preferred to `best`: the longer base, then a pattern over a folder, then
the longer key. -/
def isBetter (best key : List Char) : Bool :=
  if best.isEmpty then true
  else if baseLength best != baseLength key then baseLength best < baseLength key
  else if !best.contains '*' then true
  else if !key.contains '*' then false
  else (String.ofList best).utf8ByteSize < (String.ofList key).utf8ByteSize

/-- What a name has in place of the `*` of a pattern, or after a folder, if it fits the key. -/
def star? (name key : List Char) : Option (List Char) :=
  if !("./".toList.isPrefixOf key || key.head? = some '#') then none
  else if key.contains '*' then
    let base := key.takeWhile (· != '*')
    let trailer := (key.dropWhile (· != '*')).drop 1
    if base.isPrefixOf name && !trailer.contains '*' &&
        (trailer.isEmpty || ((String.ofList key).utf8ByteSize ≤ (String.ofList name).utf8ByteSize &&
          trailer.isSuffixOf name)) then
      some ((name.drop base.length).take (name.length - base.length - trailer.length))
    else none
  else if key.getLast? = some '/' && key.isPrefixOf name then some (name.drop key.length)
  else none

def best (name : List Char) (found : Option Match) : List (String × Value) → Option Match
  | [] => found
  | (key, target) :: rest =>
    let key := key.toList
    match star? name key with
    | some star =>
      if found.all fun m => isBetter m.key key then best name (some ⟨key, target, star⟩) rest
      else best name found rest
    | none => best name found rest

/-- Where targets are looked up: the package's directory, the key, the part for the `*` if the key
has a place for one, and how the name of another package is resolved, if that is allowed. -/
structure Ground (m : Type → Type) where
  dir : Path
  key : List Char
  star : Option (List Char)
  other : Option (String → Look m (Option Path))

def fill (star text : List Char) : List Char :=
  text.flatMap fun c => if c = '*' then star else [c]

/-- A target with the part for the `*` of a key put in. -/
def filled (key : List Char) (star : Option (List Char)) (target : List Char) :
    Except ResolveError (List Char) :=
  match star with
  | none => .ok target
  | some star =>
    if key.contains '*' || target.contains '*' then .ok (fill star target)
    else if key.getLast? = some '/' && target.getLast? = some '/' then .ok (target ++ star)
    else .error .invalidFolder

/-- Whether a path may lead out of a package. -/
def isOutside (path : Path) : Bool :=
  path.components.zipIdx.any fun (c, i) =>
    match c with
    | .up => true
    | .cur => i != 0
    | .name text => text.toLower == "node_modules"
    | .root => false

/-- The path below a package that a text stands for. -/
def inside (dir : Path) (text : List Char) : Except ResolveError Path :=
  let path := Path.ofText (String.ofList text)
  if isOutside path then .error .invalidTarget else .ok (follow dir path)

variable {m : Type → Type} [Monad m]

def ofText (g : Ground m) (target : List Char) : Look m (Option Path) := do
  if "./".toList.isPrefixOf target then
    let target ← Look.of (filled g.key g.star target)
    return some (← Look.of (inside g.dir target))
  else
    match g.other with
    | none => throw .invalidTarget
    | some other =>
      if "../".toList.isPrefixOf target || target.head? = some '/' then throw .invalidTarget
      other (String.ofList (← Look.of (filled g.key g.star target)))

mutual

/-- The path that a target stands for, if it stands for one. -/
def resolve (g : Ground m) : Value → Look m (Option Path)
  | .string target => ofText g target.toList
  | .object conditions => ofConditions g conditions
  | .array [] => throw .notExported
  | .array (target :: rest) => ofAlternatives g (target :: rest)
  | _ => return none

/-- The path of the default condition, which has to be the last one. -/
def ofConditions (g : Ground m) : List (String × Value) → Look m (Option Path)
  | [] => return none
  | (condition, target) :: rest =>
    if condition = "default" then
      if rest.isEmpty then resolve g target else throw .lateCondition
    else ofConditions g rest

def ofAlternatives (g : Ground m) : List Value → Look m (Option Path)
  | [] => return none
  | target :: rest => do
    match ← tryCatch (resolve g target) (fun _ => return none) with
    | some path => return some path
    | none => ofAlternatives g rest

end

def lookup (dir : Path) (other : Option (String → Look m (Option Path))) (name : List Char)
    (keys : Fields) : Look m (Option Path) :=
  if name.getLast? = some '/' then return none
  else
    let exact := if name.contains '*' then none else Fields.get? keys (String.ofList name)
    match exact with
    | some target => resolve ⟨dir, name, none, other⟩ target
    | none =>
      match best name none keys with
      | some found => resolve ⟨dir, found.key, some found.star, other⟩ found.target
      | none => return none

/-- Whether some keys are of both kinds: paths and conditions. -/
def isMixed (keys : Fields) : Bool :=
  let isPath (key : String) : Bool := key.toList.head? = some '.' || key.toList.head? = some '#'
  keys.any (isPath ·.1) && keys.any (!isPath ·.1)

/-- What a package exports when nothing but its name is asked for. -/
def main? (exports : Value) : Option Value :=
  match exports with
  | .object keys =>
    match Fields.get? keys "." with
    | some target => some target
    | none =>
      if keys.any fun key => "./".toList.isPrefixOf key.1.toList || key.1.toList.head? = some '#'
      then none
      else some exports
  | .string _ => some exports
  | .array _ => some exports
  | _ => none

/-- The path that a package in `dir` exports as `name`, which starts with a dot; `hasSuffix` tells
whether a query or a fragment was asked for. -/
def exported (dir : Path) (exports : Value) (name : List Char) (hasSuffix : Bool) :
    Look m Path := do
  let keys := exports.fields
  if isMixed keys then throw .mixedExports
  if name = ['.'] && hasSuffix then throw .notExported
  let main ←
    match if name = ['.'] then main? exports else none with
    | some target => resolve ⟨dir, ['.'], none, none⟩ target
    | none => pure none
  match main with
  | some path => return path
  | none =>
    match ← lookup dir none name keys with
    | some path => return path
    | none => throw .notExported

end Target
end Resolve
end ImportMacros
