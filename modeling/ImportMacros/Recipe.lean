import ImportMacros.Macro

/-!
# ImportMacros.Recipe

Macros written down as data: a list of actions on the program, and an answer. Most actions are
about expressions, so `Kind.plainSlots` tells where a subtree is none: names, labels, properties
in short form, and the calls and elements that belong to a larger construct.
-/

namespace ImportMacros

/-- The slots of a kind whose identifiers, calls and elements are no expressions by themselves. -/
def Kind.plainSlots : Kind → List String
  | .functionDeclaration | .functionExpression | .classDeclaration | .classExpression =>
    ["identifier"]
  | .labeledStatement | .breakStatement | .continueStatement => ["label"]
  | .importDefaultSpecifier | .importNamespaceSpecifier | .importSpecifier => ["local", "imported"]
  | .exportSpecifier => ["orig", "exported"]
  | .object => ["properties"]
  | .optionalChaining => ["base"]
  | .jsxOpeningElement | .jsxClosingElement => ["name"]
  | .jsxMemberExpression => ["object"]
  | .jsxElement | .jsxFragment => ["opening", "children", "closing"]
  | .jsxAttribute => ["name", "value"]
  | .moduleDeclaration => ["id"]
  | .other _ _ _ => ["id", "key", "name", "exported", "typeName", "exprName", "left"]
  | _ => []

namespace Tree

mutual

/-- A tree with `f` put to its expressions, inner ones first; `isExpr` tells whether the tree is
where an expression is. -/
def mapExpr (f : Tree → Tree) (isExpr : Bool) : Tree → Tree
  | .absent => .absent
  | .use id => if isExpr then f (.use id) else .use id
  | .binder id ascription => .binder id (mapExpr f false ascription)
  | .seq items => .seq (mapExprAll f isExpr items)
  | .node kind span data parts =>
    let t := .node kind span data (mapExprParts f kind.plainSlots kind.slots parts)
    if isExpr then f t else t

def mapExprAll (f : Tree → Tree) (isExpr : Bool) : List Tree → List Tree
  | [] => []
  | t :: rest => mapExpr f isExpr t :: mapExprAll f isExpr rest

def mapExprParts (f : Tree → Tree) (plain : List String) : List String → List Tree → List Tree
  | _, [] => []
  | slots, t :: rest =>
    mapExpr f (!(slots.head?.any plain.contains)) t :: mapExprParts f plain slots.tail rest

end

mutual

def mapIdent (f : Ident → Ident) : Tree → Tree
  | .absent => .absent
  | .use id => .use (f id)
  | .binder id ascription => .binder (f id) (mapIdent f ascription)
  | .seq items => .seq (mapIdentAll f items)
  | .node kind span data parts => .node kind span data (mapIdentAll f parts)

def mapIdentAll (f : Ident → Ident) : List Tree → List Tree
  | [] => []
  | t :: rest => mapIdent f t :: mapIdentAll f rest

end

/-- A reference as the name that it was imported by. -/
def asImported (refs : References) : Tree → Tree
  | .use id =>
    match refs.importedName? id with
    | some name => literal name
    | none => .use id
  | t => t

def joinTexts (kind : Kind) (field : String) (items : List Tree) : String :=
  "".intercalate (items.map fun t => if t.isKind kind then (t.text? field).getD "" else "")

/-- The text that an expression hands to a reference: a template after it, the string in a call of
it, or the content of an element named by it. -/
def handed? (refs : References) : Tree → Option String
  | .node .taggedTemplate _ _ [.use tag, .node .templateLiteral _ _ [_, .seq quasis]] =>
    if refs.contains tag then some (joinTexts .templateElement "raw" quasis) else none
  | .node .call _ _ [.use callee, .seq (.node .argument _ _ [first] :: _)] =>
    if refs.contains callee && first.isKind .string then first.text? "value" else none
  | .node .jsxElement _ _ [.node .jsxOpeningElement _ _ (.use name :: _), .seq children, _] =>
    if refs.contains name then some (joinTexts .jsxText "value" children) else none
  | _ => none

/-- An expression as the text that it hands to a reference. -/
def inlined (refs : References) (t : Tree) : Tree :=
  match handed? refs t with
  | some text => literal text
  | none => t

end Tree

inductive Action where
  /-- Every reference that is an expression becomes its imported name. -/
  | name
  /-- Every expression that hands a text to a reference becomes that text. -/
  | inline
  /-- Every identifier at the place of a reference gets another name. -/
  | rename (newName : String)
  | removeItem (index : Nat)
  | insertItems (index : Nat) (items : List Tree)
deriving Repr, Inhabited

namespace Action

/-- Puts items in one by one; an index beyond the end is the end. -/
def insertAll (index : Nat) (body : List Tree) : List Tree → List Tree
  | [] => body
  | t :: rest => insertAll (index + 1) (body.insertIdx (min index body.length) t) rest

def perform (refs : References) (p : Program) : Action → Program
  | .name => { p with body := Tree.mapExprAll (Tree.asImported refs) false p.body }
  | .inline => { p with body := Tree.mapExprAll (Tree.inlined refs) false p.body }
  | .rename newName =>
    let rename (id : Ident) : Ident := if refs.contains id then { id with name := newName } else id
    { p with body := Tree.mapIdentAll rename p.body }
  | .removeItem index => { p with body := p.body.eraseIdx index }
  | .insertItems index items => { p with body := insertAll index p.body items }

end Action

/-- A macro as data. -/
structure Recipe where
  title : String
  configName : Option String
  actions : List Action
  answer : Except Raised (Option Request)
deriving Inhabited

namespace Recipe

def body (recipe : Recipe) (c : Call) (p : Program) : Reply :=
  ⟨recipe.answer, recipe.actions.foldl (fun p action => action.perform c.references p) p⟩

def macro? (recipe : Recipe) : Option Macro :=
  Macro.create? recipe.title recipe.configName recipe.body

end Recipe
end ImportMacros
