/-!
# ImportMacros.Path

Paths as they are spelled, and what they mean.

* `Path` keeps the spelling: the pieces between the slashes, so `/a//b` is `["", "a", "", "b"]`.
* `Path.components` is the meaning: repeated slashes and inner `.` pieces vanish, a leading `.`
  and every `..` stay. Two paths name the same place lexically when their components agree.
* `Path.normalize` joins a path onto a base and drops the `.` and `..` of the path.
-/

namespace ImportMacros

inductive Component where
  | root
  /-- A leading `.`. -/
  | cur
  /-- `..` -/
  | up
  | name (text : String)
deriving DecidableEq, Repr, Inhabited

/-- How a component is spelled between two slashes. -/
def Component.piece : Component → String
  | .root => ""
  | .cur => "."
  | .up => ".."
  | .name text => text

/-- A path, as the pieces between its slashes. -/
structure Path where
  pieces : List String
deriving DecidableEq, Repr, Inhabited

namespace Path

/-- The pieces of `cs` between slashes; `piece` is the part of the first one read so far. -/
def splitSlashes (piece : List Char) : List Char → List String
  | [] => [String.ofList piece]
  | c :: cs =>
    if c = '/' then String.ofList piece :: splitSlashes [] cs
    else splitSlashes (piece ++ [c]) cs

def ofText (text : String) : Path := ⟨splitSlashes [] text.toList⟩

def text (p : Path) : String := "/".intercalate p.pieces

def root : Path := ⟨["", ""]⟩

def isAbsolute (p : Path) : Bool :=
  match p.pieces with
  | "" :: _ :: _ => true
  | _ => false

/-- A piece that is a step of its own wherever it stands. -/
def isStep (piece : String) : Bool := piece != "" && piece != "."

/-- The component that a piece after the first stands for. -/
def component (piece : String) : Component :=
  if piece = ".." then .up else .name piece

/-- The steps of the pieces after a leading root or `.`. -/
def steps (pieces : List String) : List Component :=
  (pieces.filter isStep).map component

/-- A path cut into the piece that is special for being first, if any, and the rest. -/
def split (p : Path) : List String × List String :=
  match p.pieces with
  | "" :: piece :: rest => ([""], piece :: rest)
  | "." :: rest => (["."], rest)
  | rest => ([], rest)

/-- What a path means. -/
def components (p : Path) : List Component :=
  match p.split with
  | ([""], rest) => .root :: steps rest
  | (["."], rest) => .cur :: steps rest
  | (_, rest) => steps rest

/-- Two spellings of the same steps. -/
def same (p q : Path) : Bool := p.components == q.components

/-- The plain spelling of some components; a root stands only at the front. -/
def ofComponents : List Component → Path
  | [] => ⟨[""]⟩
  | [.root] => root
  | cs => ⟨cs.map Component.piece⟩

/-- `q` read from the directory `p`: an absolute path replaces it. -/
def join (p q : Path) : Path :=
  if q.isAbsolute then q
  else if p.pieces.getLast? = some "" then ⟨p.pieces.dropLast ++ q.pieces⟩
  else ⟨p.pieces ++ q.pieces⟩

/-- The path with the first piece `lead` and the pieces `rest`, given last piece first and
freed of trailing pieces that are no steps. -/
def assemble (lead : List String) (rest : List String) : Path :=
  match lead ++ (rest.dropWhile (!isStep ·)).reverse with
  | [] => ⟨[""]⟩
  | [""] => root
  | pieces => ⟨pieces⟩

/-- The paths above `lead` and the pieces `rest`, given last piece first, nearest first. -/
def above (lead : List String) : List String → List Path
  | [] => if lead = ["."] then [⟨[""]⟩] else []
  | piece :: rest =>
    if isStep piece then assemble lead rest :: above lead rest else above lead rest

/-- The directories above a path, nearest first. -/
def parents (p : Path) : List Path := above p.split.1 p.split.2.reverse

def parent? (p : Path) : Option Path := p.parents.head?

/-- A path and the directories above it, nearest first. -/
def ancestors (p : Path) : List Path := p :: p.parents

def fileName? (p : Path) : Option String :=
  match p.components.getLast? with
  | some (.name text) => some text
  | _ => none

/-- One step taken from a place, given as its steps with the last one first. -/
def walk (place : List Component) : Component → List Component
  | .cur => place
  | .root => .root :: place
  | .name text => .name text :: place
  | .up =>
    match place with
    | [] => []
    | .root :: _ => place
    | _ :: above => above

/-- The place that `path` leads to from `base`, last step first. -/
def destination (base path : Path) : List Component :=
  path.components.foldl walk (if path.isAbsolute then [] else base.components.reverse)

/-- `path` read from `base`, without the `.` and `..` of `path`. No link is followed, and nothing
needs to exist. The steps of `base` are taken as they are. -/
def normalize (base path : Path) : Path :=
  ofComponents (destination base path).reverse

end Path
end ImportMacros
