import ImportMacros.Statement

/-!
# ImportMacros.Statement.Remove

Taking a handled statement out of a program.

* An import is removed from the items of a module, with all imports of the same key.
* A `require` is removed from its declaration: the first declarator with the key, where the
  declarators of a declaration come before anything inside them. Then `Tree.tidy` clears away
  declarations that declare nothing: from lists of statements together with an `export` around
  them, from the head of a for loop, and as the only statement of a body, where an empty statement
  stays. In the head of a for-in or for-of loop they stay.

No import declaration is looked into: there are no declarations in it.
-/

namespace ImportMacros
namespace Tree

def eraseFirst? (test : Tree → Bool) : List Tree → Option (List Tree)
  | [] => none
  | t :: rest => if test t then some rest else (eraseFirst? test rest).map (t :: ·)

def requires (key : Key) (t : Tree) : Bool := t.requireKey? == some key

/-- A declaration without its first declarator of a key, if it has one. -/
def dropDeclarator? (key : Key) : Tree → Option Tree
  | .node .variableDeclaration span data [.seq declarators] =>
    (eraseFirst? (requires key) declarators).map fun rest =>
      .node .variableDeclaration span data [.seq rest]
  | _ => none

mutual

/-- A tree without the first declarator of a key, if there is one in it. -/
def dropRequire? (key : Key) : Tree → Option Tree
  | .absent => none
  | .use _ => none
  | .binder id ascription => (dropRequire? key ascription).map (.binder id)
  | .seq items => (dropRequireIn? key items).map .seq
  | .node kind span data parts =>
    match dropDeclarator? key (.node kind span data parts) with
    | some t => some t
    | none =>
      if kind = .importDeclaration then none
      else (dropRequireIn? key parts).map (.node kind span data)

def dropRequireIn? (key : Key) : List Tree → Option (List Tree)
  | [] => none
  | t :: rest =>
    match dropRequire? key t with
    | some t => some (t :: rest)
    | none => (dropRequireIn? key rest).map (t :: ·)

end

/-- A declaration of variables that declares none. -/
def isEmptied : Tree → Bool
  | .node .variableDeclaration _ _ [.seq []] => true
  | _ => false

/-- An item of a list that goes when its declaration declares nothing. -/
def isEmptiedItem : Tree → Bool
  | .node .exportDeclaration _ _ [declaration] => declaration.isEmptied
  | t => t.isEmptied

def dropEmptied (items : List Tree) : List Tree := items.filter (!·.isEmptiedItem)

def tidyList : Tree → Tree
  | .seq items => .seq (dropEmptied items)
  | t => t

def tidyBody (t : Tree) : Tree := if t.isEmptied then emptyStatement else t

def tidyParts (kind : Kind) (parts : List Tree) : List Tree :=
  match kind, parts with
  | .block, [stmts] => [tidyList stmts]
  | .moduleBlock, [body] => [tidyList body]
  | .switchCase, [test, consequent] => [test, tidyList consequent]
  | .ifStatement, [test, consequent, alternate] => [test, tidyBody consequent, tidyBody alternate]
  | .labeledStatement, [label, body] => [label, tidyBody body]
  | .whileStatement, [test, body] => [test, tidyBody body]
  | .doWhileStatement, [test, body] => [test, tidyBody body]
  | .withStatement, [object, body] => [object, tidyBody body]
  | .forStatement, [first, test, update, body] =>
    [if first.isEmptied then .absent else first, test, update, tidyBody body]
  | .forInStatement, [left, right, body] => [left, right, tidyBody body]
  | .forOfStatement, [left, right, body] => [left, right, tidyBody body]
  | _, parts => parts

mutual

/-- A tree without declarations that declare nothing. -/
def tidy : Tree → Tree
  | .absent => .absent
  | .use id => .use id
  | .binder id ascription => .binder id (tidy ascription)
  | .seq items => .seq (tidyAll items)
  | .node kind span data parts =>
    if kind = .importDeclaration then .node kind span data parts
    else .node kind span data (tidyParts kind (tidyAll parts))

def tidyAll : List Tree → List Tree
  | [] => []
  | t :: rest => tidy t :: tidyAll rest

end

end Tree

namespace Program

/-- A program without the imports of a key among its items. -/
def dropImports (key : Key) (p : Program) : Program :=
  { p with body := p.body.filter fun item => item.importKey? != some key }

def tidy (p : Program) : Program :=
  { p with body := Tree.dropEmptied (Tree.tidyAll p.body) }

def dropRequire? (key : Key) (p : Program) : Option Program :=
  (Tree.dropRequireIn? key p.body).map fun body => { p with body := body }

/-- Takes a statement out of a program; tells whether anything was removed. Scripts keep
imports. -/
def remove (s : Statement) (p : Program) : Program × Bool :=
  match s with
  | .importing key _ =>
    if p.isModule then
      let q := p.dropImports key
      (q, q.body.length != p.body.length)
    else (p, false)
  | .requiring key _ =>
    match p.dropRequire? key with
    | some q => (q.tidy, true)
    | none => (p.tidy, false)

end Program
end ImportMacros
