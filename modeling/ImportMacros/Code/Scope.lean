import ImportMacros.Tree

/-!
# ImportMacros.Code.Scope

Which scope every identifier of a program belongs to. `Program.resolved` numbers the scopes: one is
for names that nothing declares, two is the top of the program, and every function, block, loop
and catch clause inside has a number of its own.

* `hoist` goes over a list of statements before anything in it is resolved, and declares what the
  list declares as a whole: variables, functions, classes and imports. A variable declared with
  `var` comes out of any block, up to the function; a function does only where the code is sloppy.
* `resolve` then goes through the tree in order. What is left to declare there are parameters,
  caught values and the variables of a loop.

An identifier that is declared is claimed, by its place, for the scope that declares it, and keeps
that scope from then on.
-/

namespace ImportMacros
namespace Code

inductive Manner where
  /-- For the block it stands in. -/
  | lexical
  | parameter
  /-- For the function it stands in. -/
  | hoisted
deriving DecidableEq, Repr, Inhabited

/-- A scope and the names it declares, the latest first. -/
structure Scope where
  number : Nat
  isFunction : Bool
  /-- Functions in blocks are declared for the function around them. -/
  isSloppy : Bool
  names : List (String × Manner)
deriving Repr, Inhabited

namespace Scope

/-- The number of names that nothing declares. -/
def undeclared : Nat := 1

/-- The number of the top of a program. -/
def top : Nat := 2

def declares (s : Scope) (name : String) : Bool := (s.names.lookup name).isSome

end Scope

structure Progress where
  current : Scope
  /-- The scopes around it, from the inside out. -/
  outer : List Scope
  /-- The scope of each declared identifier, by the place where it starts. -/
  claims : List (Nat × Nat)
  /-- The names that a catch clause has given to the function around it. -/
  escaped : List String
  next : Nat
deriving Repr, Inhabited

abbrev Resolving := StateM Progress

/-- The names that always mean the same at the top of a script, declared or not. -/
def fixedNames : List String := ["undefined", "NaN", "Infinity"]

namespace Resolving

/-- Declares an identifier in the current scope, unless it has been claimed. -/
def declare (manner : Manner) (id : Ident) : Resolving Unit :=
  modify fun s =>
    if (s.claims.lookup id.span.start).isSome then s
    else { s with
      current := { s.current with names := (id.name, manner) :: s.current.names }
      claims := (id.span.start, s.current.number) :: s.claims }

/-- The scope that declares a name: the innermost one. -/
def owner? (name : String) : Resolving (Option Scope) := do
  let s ← get
  return (s.current :: s.outer).find? (·.declares name)

def refer (isModule : Bool) (id : Ident) : Resolving Ident := do
  match ← owner? id.name with
  | none => return { id with scope := Scope.undeclared }
  | some owner =>
    if owner.number = Scope.top && !isModule && fixedNames.contains id.name then
      return { id with scope := Scope.undeclared }
    else return { id with scope := owner.number }

def claimed (id : Ident) : Resolving Ident := do
  return { id with scope := ((← get).claims.lookup id.span.start).getD id.scope }

def within {α : Type} (isFunction : Bool) (act : Resolving α) : Resolving α := fun s =>
  let inner : Scope := ⟨s.next, isFunction, s.current.isSloppy, []⟩
  let (a, t) := act { s with current := inner, outer := s.current :: s.outer, next := s.next + 1 }
  (a, { t with current := s.current, outer := s.outer })

/-- Makes the current scope strict if a body starts by asking for that. -/
def heed (isStrict : Bool) : Resolving Unit :=
  modify fun s =>
    { s with current := { s.current with isSloppy := s.current.isSloppy && !isStrict } }

/-- Whether a name is declared up to the nearest function. -/
def isLocal (name : String) : Resolving Bool := do
  let s ← get
  return go name (s.current :: s.outer)
where
  go (name : String) : List Scope → Bool
    | [] => false
    | s :: rest => s.declares name || (!s.isFunction && go name rest)

end Resolving

open Resolving

/-- Whether some statements start by asking for strict code. -/
def asksStrict : List Tree → Bool
  | .node .expressionStatement _ _ [.node .string _ data []] :: _ =>
    match Fields.get? data "raw" with
    | some (.string raw) => raw == "'use strict'" || raw == "\"use strict\""
    | _ => false
  | _ => false

/-- Where a declaration stands, seen from the list of statements that is hoisted. -/
structure Depth where
  inBlock : Bool
  inCatch : Bool
  /-- The names that the catch clauses around it bind. -/
  caught : List String
  manner : Manner

namespace Depth

def top : Depth := ⟨false, false, [], .lexical⟩

/-- Declares the identifier of a pattern. In a catch clause, a variable named like what is caught
is one of the function, unless the function has that name already. -/
def declareVariable (d : Depth) (id : Ident) : Resolving Unit := do
  let isCaught := d.caught.contains id.name
  if d.inCatch then
    unless isCaught && (← isLocal id.name) do
      modify fun s => { s with escaped := id.name :: s.escaped }
      declare d.manner id
  else
    unless isCaught && !(← get).escaped.contains id.name do
      declare d.manner id

/-- Declares a function. Out of a block it comes only in sloppy code, and only if it does not
get in the way of another variable. -/
def declareFunction (d : Depth) (id : Ident) : Resolving Unit := do
  let s := (← get).current
  let isFree := match s.names.lookup id.name with
    | some .lexical | some .parameter => false
    | _ => true
  unless d.caught.contains id.name do
    if !d.inBlock || (s.isSloppy && isFree) then declare .hoisted id

end Depth

def mannerOf (data : Fields) : Manner :=
  match Fields.get? data "kind" with
  | some (.string "var") => .hoisted
  | _ => .lexical

mutual

def boundNames : Tree → List String
  | .binder id _ => [id.name]
  | .seq items => boundNamesAll items
  | .node kind _ _ parts => if kind.isExpression then [] else boundNamesAll parts
  | _ => []

def boundNamesAll : List Tree → List String
  | [] => []
  | t :: rest => boundNames t ++ boundNamesAll rest

end

/-- The statements of a list that are hoisted before the others. -/
def isEarly (t : Tree) : Bool :=
  t.isKind .variableDeclaration || t.isKind .functionDeclaration

def isRest : Tree → Bool
  | .node .restElement _ _ _ => true
  | .node .parameter _ _ [.node .restElement _ _ _] => true
  | _ => false

def declareNamed (declare : Ident → Resolving Unit) : Tree → Resolving Unit
  | .use id => declare id
  | _ => pure ()

mutual

/-- Declares what a part of a list of statements declares for the list. -/
def hoist (d : Depth) : Tree → Resolving Unit
  | .absent => pure ()
  | .use _ => pure ()
  | .binder id _ => d.declareVariable id
  | .seq items => do
    hoistAll d isEarly items
    hoistAll d (fun t => !isEarly t) items
  | .node kind _ data parts =>
    match kind, parts with
    | .variableDeclaration, [declarators] =>
      let manner := mannerOf data
      if d.inBlock && manner = .lexical then pure () else hoist { d with manner } declarators
    | .variableDeclarator, [target, _] => hoist d target
    | .functionDeclaration, name :: _ => declareNamed d.declareFunction name
    | .exportDefaultDeclaration, [declared] => declareNamed (declare .hoisted) (declared.part 0)
    | .importDefaultSpecifier, name :: _ => declareNamed (declare .lexical) name
    | .importNamespaceSpecifier, name :: _ => declareNamed (declare .lexical) name
    | .importSpecifier, name :: _ => declareNamed (declare .lexical) name
    | .block, [body] => hoist { d with inBlock := true } body
    | .catchClause, [caught, body] => do
      let before := (← get).escaped
      let inner := { d with caught := d.caught ++ boundNames caught }
      modify fun s => { s with escaped := [] }
      hoist { inner with inCatch := true } body
      hoist { inner with inCatch := false } caught
      modify fun s => { s with escaped := before }
    | .forStatement, [first, _, _, body] => do
      hoist { d with inBlock := true } first
      hoist d body
    | .forInStatement, [head, _, body] => do
      if head.isKind .variableDeclaration then hoist { d with inBlock := true } head
      hoist d body
    | .forOfStatement, [head, _, body] => do
      if head.isKind .variableDeclaration then hoist { d with inBlock := true } head
      hoist d body
    | kind, parts => if kind.isExpression then pure () else hoistAll d (fun _ => true) parts

def hoistAll (d : Depth) (wanted : Tree → Bool) : List Tree → Resolving Unit
  | [] => pure ()
  | t :: rest => do
    if wanted t then hoist d t
    hoistAll d wanted rest

end

/-- What a tree is for the one around it. -/
inductive Role where
  | plain
  /-- A pattern whose names are declared. -/
  | declared (manner : Manner)
  /-- A block that shares the scope around it. -/
  | body
deriving DecidableEq, Repr, Inhabited

def Role.ofParts (role : Role) (kind : Kind) (data : Fields) : Role :=
  match kind, role with
  | .variableDeclaration, _ => .declared (mannerOf data)
  | .parameter, _ => .declared .parameter
  | _, .declared manner => if kind.isExpression then .plain else .declared manner
  | _, _ => .plain

/-- Gives a declared name the scope that has claimed it. -/
def resolveName : Tree → Resolving Tree
  | .use id => do
    return .use (← claimed id)
  | t => pure t

def resolveImport : Tree → Resolving Tree
  | .node kind span data (own :: rest) => do
    return .node kind span data ((← resolveName own) :: rest)
  | t => pure t

/-- Resolves the object that the name of an element starts with. -/
def resolveObject (isModule : Bool) : Tree → Resolving Tree
  | .use id => do
    return .use (← refer isModule id)
  | .node kind span data (object :: rest) => do
    return .node kind span data ((← resolveObject isModule object) :: rest)
  | t => pure t

/-- Resolves the name of an element. One that starts with a small letter refers to nothing. -/
def resolveElementName (isModule : Bool) : Tree → Resolving Tree
  | .use id =>
    if id.name.toList.head?.any Char.isLower then
      pure (.use { id with scope := Scope.undeclared })
    else resolveObject isModule (.use id)
  | t => resolveObject isModule t

/-- Resolves a list of statements, which is hoisted first. -/
def inStatements (body : Tree) (resolveBody : Resolving Tree) : Resolving Tree := do
  hoist Depth.top body
  resolveBody

/-- Resolves a function in a scope of its own. All parameters but the rest are declared before any
of them is resolved. -/
def inFunction (params body : Tree) (resolveParams resolveBody : Resolving Tree) :
    Resolving (List Tree) :=
  within true do
    heed (asksStrict (body.part 0).items)
    hoistAll { Depth.top with manner := .parameter } (fun t => !isRest t) params.items
    let params ← resolveParams
    return [params, ← resolveBody]

def inLoop (resolveHead resolveSubject resolveBody : Resolving Tree) : Resolving (List Tree) :=
  within false do
    let head ← resolveHead
    let subject ← resolveSubject
    return [head, subject, ← within false resolveBody]

mutual

def resolve (isModule : Bool) (role : Role) : Tree → Resolving Tree
  | .absent => pure .absent
  | .use id => do
    return .use (← refer isModule id)
  | .binder id ascription =>
    match role with
    | .declared manner => do
      declare manner id
      return .binder (← claimed id) ascription
    | _ => do
      return .binder (← refer isModule id) ascription
  | .seq items => do
    return .seq (← resolveAll isModule role items)
  | .node kind span data parts => do
    let parts ← match kind, parts with
      | .importDeclaration, [specifiers, source] =>
        pure [.seq (← specifiers.items.mapM resolveImport), source]
      | .exportNamed, [specifiers, source] =>
        if source.isAbsent then pure [← resolve isModule .plain specifiers, source]
        else pure [specifiers, source]
      | .exportSpecifier, [own, exported] => pure [← resolve isModule .plain own, exported]
      | .exportDefaultDeclaration, [.node kind span data [name, params, body]] =>
        let inner ← inFunction params body
          (resolve isModule .plain params) (resolve isModule .body body)
        pure [.node kind span data ((← resolveName name) :: inner)]
      | .functionDeclaration, [name, params, body] =>
        let inner ← inFunction params body
          (resolve isModule .plain params) (resolve isModule .body body)
        pure ((← resolveName name) :: inner)
      | .functionExpression, [.absent, params, body] =>
        let inner ← inFunction params body
          (resolve isModule .plain params) (resolve isModule .body body)
        pure (.absent :: inner)
      | .functionExpression, [name, params, body] =>
        within true do
          declareNamed (declare .hoisted) name
          let inner ← inFunction params body
            (resolve isModule .plain params) (resolve isModule .body body)
          return (← resolveName name) :: inner
      | .arrow, [params, body] =>
        inFunction params body
          (resolve isModule (.declared .parameter) params) (resolve isModule .body body)
      | .block, [body] =>
        let inner := inStatements body (resolve isModule .plain body)
        pure [← if role = .body then inner else within false inner]
      | .forStatement, [first, test, update, body] =>
        within false do
          let first ← resolve isModule .plain first
          let test ← resolve isModule .plain test
          let update ← resolve isModule .plain update
          return [first, test, update, ← within false (resolve isModule .body body)]
      | .forInStatement, [head, subject, body] =>
        inLoop (resolve isModule .plain head) (resolve isModule .plain subject)
          (resolve isModule .body body)
      | .forOfStatement, [head, subject, body] =>
        inLoop (resolve isModule .plain head) (resolve isModule .plain subject)
          (resolve isModule .body body)
      | .catchClause, [caught, body] =>
        within true do
          let caught ← resolve isModule (.declared .parameter) caught
          return [caught, ← resolve isModule .body body]
      | .variableDeclarator, [target, value] =>
        let target ← resolve isModule role target
        pure [target, ← resolve isModule .plain value]
      | .labeledStatement, [label, body] => pure [label, ← resolve isModule .plain body]
      | .breakStatement, parts => pure parts
      | .continueStatement, parts => pure parts
      | .jsxOpeningElement, [name, attributes] =>
        let name ← resolveElementName isModule name
        pure [name, ← resolve isModule .plain attributes]
      | .jsxClosingElement, [name] => pure [← resolveElementName isModule name]
      | kind, parts => resolveAll isModule (role.ofParts kind data) parts
    return .node kind span data parts

def resolveAll (isModule : Bool) (role : Role) : List Tree → Resolving (List Tree)
  | [] => pure []
  | t :: rest => do
    let t ← resolve isModule role t
    return t :: (← resolveAll isModule role rest)

end

end Code

namespace Program

def resolved (p : Program) : Program :=
  let top : Code.Scope := ⟨Code.Scope.top, true, !p.isModule && !Code.asksStrict p.body, []⟩
  let body : Code.Resolving Tree :=
    Code.inStatements (.seq p.body) (Code.resolve p.isModule .plain (.seq p.body))
  { p with body := (body ⟨top, [], [], [], Code.Scope.top + 1⟩).1.items }

end Program
end ImportMacros
