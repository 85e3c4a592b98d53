import ImportMacros.Tree

/-!
# ImportMacros.Tree.Variables

Which variables a program declares, and where it uses variables.

* `Program.declared` lists the variables that imports, functions, classes, declarators and
  parameters declare. A catch parameter and a loop variable without a declaration are counted only
  in the block body of an arrow function that has parameters, outside of any expression. Types are
  gone through like anything else, so a parameter that is named in a type may be counted too;
  programs of ECMAScript with JSX, which are meant here, have no types.
* `Program.uses` lists the identifiers that are used, in visiting order. Import declarations and
  the closing tags of elements use nothing, and a binder is no use.
-/

namespace ImportMacros
namespace Tree

/-- The variable of an identifier that stands alone, in a slot that names what is declared. -/
def ownVariable : Tree → List Variable
  | .use id => [id.toVariable]
  | _ => []

/-- The name of a function or class that is exported as the default. -/
def defaultVariable : Tree → List Variable
  | .node .functionExpression _ _ [identifier, _, .node _ _ _ _] => ownVariable identifier
  | .node .classExpression _ _ (identifier :: _) => ownVariable identifier
  | _ => []

/-- The variables that a node declares by itself, without its subtrees. -/
def named (kind : Kind) (parts : List Tree) : List Variable :=
  match kind, parts with
  | .functionDeclaration, identifier :: _ => ownVariable identifier
  | .classDeclaration, identifier :: _ => ownVariable identifier
  | .exportDefaultDeclaration, [declaration] => defaultVariable declaration
  | .importDefaultSpecifier, [own] => ownVariable own
  | .importNamespaceSpecifier, [own] => ownVariable own
  | .importSpecifier, own :: _ => ownVariable own
  | _, _ => []

mutual

/-- The variables that a tree declares; `declaring` tells whether its binders do. -/
def declared (declaring : Bool) : Tree → List Variable
  | .absent => []
  | .use _ => []
  | .binder id _ => if declaring then [id.toVariable] else []
  | .seq items => declaredAll declaring items
  | .node kind _ _ parts =>
    named kind parts ++
      match kind, parts with
      | .variableDeclarator, [target, value] => declared true target ++ declared false value
      | .arrow, [params, body] => declared true params ++ declared (!params.items.isEmpty) body
      | .parameter, parts => declaredAll true parts
      | kind, parts => declaredAll (declaring && !kind.isExpression) parts

def declaredAll (declaring : Bool) : List Tree → List Variable
  | [] => []
  | t :: rest => declared declaring t ++ declaredAll declaring rest

end

/-- Kinds whose identifiers are no uses. -/
def Kind.hidesUses : Kind → Bool
  | .importDeclaration => true
  | .jsxClosingElement => true
  | _ => false

mutual

def uses : Tree → List Ident
  | .absent => []
  | .use id => [id]
  | .binder _ _ => []
  | .seq items => usesAll items
  | .node kind _ _ parts => if Kind.hidesUses kind then [] else usesAll parts

def usesAll : List Tree → List Ident
  | [] => []
  | t :: rest => uses t ++ usesAll rest

end

end Tree

namespace Program

def declared (p : Program) : List Variable := Tree.declaredAll false p.body

def uses (p : Program) : List Ident := Tree.usesAll p.body

end Program
end ImportMacros
