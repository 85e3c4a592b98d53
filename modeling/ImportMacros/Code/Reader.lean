import ImportMacros.Code.Statement

/-!
# ImportMacros.Code.Reader

Whole programs. `Program.ofCode?` reads a text; imports and exports stand only at its top, and make
it a module. The scopes of identifiers are left open.

A part of ECMAScript with JSX is read: the statements of `Code.statement`, the expressions of
`Code.expression`, imports, and exports by name, of a declaration or as the default. A text with
anything else in it is refused as if it were no program. That concerns classes and `super`;
`switch`, `with` and `debugger`; `using` and `for await`; accessors and methods of objects; `async`
functions, generators, `await` and `yield`; optional chaining, regular expressions, big integers,
`import` as an expression and `new.target`; attributes of imports, `export *` and `export` of a
class; and a line that names an interpreter.
-/

namespace ImportMacros
namespace Code

open ImportMacros.Code.Parser

/-- Reads what a name of a module can be: a word, or a string. -/
def exportedName : Parser Tree := do
  match (← peek).token with
  | .quoted _ _ => stringLiteral
  | _ =>
    let (text, span) ← anyWord
    return .use (identAt text span)

def isVariableName : Tree → Bool
  | .use id => !reserved.contains id.name
  | _ => false

def importSpecifier : Parser Tree := do
  let start ← here
  let name ← exportedName
  if ← eatWord "as" then
    let own ← identifier
    return .node .importSpecifier (← spanFrom start) [] [.use own, name]
  else
    require (isVariableName name)
    return .node .importSpecifier (← spanFrom start) [] [name, .absent]

/-- Reads imports by name in braces, or the import of a whole module. -/
def importNames : Parser (List Tree) := do
  let start ← here
  if ← eatMark "*" then
    word "as"
    let own ← identifier
    return [.node .importNamespaceSpecifier (← spanFrom start) [] [.use own]]
  else
    mark "\x7b"
    commaList "\x7d" importSpecifier

def importSpecifiers : Parser (List Tree) := do
  match (← peek).token with
  | .word _ =>
    let own ← identifier
    let first := Tree.node .importDefaultSpecifier own.span [] [.use own]
    if ← eatMark "," then return first :: (← importNames) else return [first]
  | _ => importNames

def importDeclaration : Parser Tree := do
  let start ← here
  word "import"
  let specifiers ← do
    match (← peek).token with
    | .quoted _ _ => pure []
    | _ =>
      let specifiers ← importSpecifiers
      word "from"
      pure specifiers
  let source ← stringLiteral
  endStatement
  return .node .importDeclaration (← spanFrom start) [] [.seq specifiers, source]

def exportSpecifier : Parser Tree := do
  let start ← here
  let name ← exportedName
  let exported ← do
    if ← eatWord "as" then exportedName else pure Tree.absent
  return .node .exportSpecifier (← spanFrom start) [] [name, exported]

/-- Reads exports by name, after the word. -/
def exportNames (start : Nat) : Parser Tree := do
  mark "\x7b"
  let specifiers ← commaList "\x7d" exportSpecifier
  let source ← do
    if ← eatWord "from" then stringLiteral else pure Tree.absent
  endStatement
  return .node .exportNamed (← spanFrom start) [] [.seq specifiers, source]

def exportDefault (g : Grammar) (start : Nat) : Parser Tree := do
  if ← isAt (.word "function") then
    let declared ← functionExpression g
    return .node .exportDefaultDeclaration (← spanFrom start) [] [declared]
  else
    let value ← g.assignment
    endStatement
    return .node .exportDefaultExpression (← spanFrom start) [] [value]

def exportDeclaration (g : Grammar) : Parser Tree := do
  let start ← here
  word "export"
  match (← peek).token with
  | .mark "\x7b" => exportNames start
  | .word "default" =>
    word "default"
    exportDefault g start
  | .word "function" =>
    let declared ← functionDeclaration g
    return .node .exportDeclaration (← spanFrom start) [] [declared]
  | .word kind =>
    require (declaring.contains kind)
    let declared ← declaration g
    return .node .exportDeclaration (← spanFrom start) [] [declared]
  | _ => fail

/-- Reads something at the top of a program; tells whether only modules have it. -/
def item (g : Grammar) : Parser (Tree × Bool) := do
  match (← peek).token with
  | .word "import" => return (← importDeclaration, true)
  | .word "export" => return (← exportDeclaration g, true)
  | _ => return (← statement g, false)

/-- A grammar in which constructs nest up to some depth. -/
def grammar : Nat → Grammar
  | 0 => ⟨fail, fail, fail, fun _ => fail, fail⟩
  | depth + 1 => {
    expression := fun c => expression (grammar depth) c
    assignment := fun c => assignment (grammar depth) c
    statement := fun c => statement (grammar depth) c
    pattern := fun members c => pattern (grammar depth) members c
    element := fun c => element (grammar depth) c }

def program (g : Grammar) : Parser Program := do
  let start ← here
  let items ← many do
    if ← isAt .finish then return none
    return some (← item g)
  return ⟨items.any (·.2), ← spanFrom start, .null, items.map (·.1)⟩

end Code

def Program.ofCode? (text : String) : Option Program :=
  ((Code.program (Code.grammar (text.length + 1))).run (Code.Cursor.ofText text)).map (·.1)

end ImportMacros
