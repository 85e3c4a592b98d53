import ImportMacros.Data.Value
import ImportMacros.Tree.Kind

/-!
# ImportMacros.Tree

Syntax trees whose scopes are resolved: every identifier carries the number of the scope it
belongs to, so two identifiers with the same name and scope are the same variable.

A tree is uniform: a node has a kind, its scalar fields, and its subtrees in the order in which
they are visited. Only identifiers and lists have a shape of their own, because everything that is
asked of a tree is asked of them: `Tree.use` is an identifier that is used, `Tree.binder` one
that is declared or assigned.
-/

namespace ImportMacros

structure Span where
  start : Nat
  stop : Nat
deriving DecidableEq, Repr, Inhabited

namespace Span

/-- The span of a node that is not from the source text. -/
def none : Span := ⟨0, 0⟩

end Span

structure Variable where
  name : String
  scope : Nat
deriving DecidableEq, Repr, Inhabited

structure Ident where
  name : String
  scope : Nat
  span : Span
  /-- Marked as optional with a question mark. -/
  optional : Bool := false
deriving DecidableEq, Repr, Inhabited

namespace Ident

def toVariable (id : Ident) : Variable := ⟨id.name, id.scope⟩

end Ident

inductive Tree where
  /-- Nothing where a subtree could be. -/
  | absent
  /-- The subtrees of a field that holds a list. -/
  | seq (items : List Tree)
  /-- An identifier that is used. -/
  | use (id : Ident)
  /-- An identifier that is declared or assigned, and its type ascription. -/
  | binder (id : Ident) (ascription : Tree)
  /-- Any other node: its scalar fields, and a subtree for each of its kind's slots. -/
  | node (kind : Kind) (span : Span) (data : Fields) (parts : List Tree)
deriving Repr, Inhabited

namespace Tree

/-- The items of a list; nothing else has items. -/
def items : Tree → List Tree
  | .seq items => items
  | _ => []

def isAbsent : Tree → Bool
  | .absent => true
  | _ => false

def kind? : Tree → Option Kind
  | .node kind _ _ _ => some kind
  | _ => none

def isKind (kind : Kind) : Tree → Bool
  | .node k _ _ _ => k == kind
  | _ => false

/-- A subtree of a node, by its position among the slots. -/
def part (t : Tree) (i : Nat) : Tree :=
  match t with
  | .node _ _ _ parts => parts.getD i .absent
  | _ => .absent

/-- A scalar field of a node that holds a text. -/
def text? (t : Tree) (field : String) : Option String :=
  match t with
  | .node _ _ data _ =>
    match data.get? field with
    | some (.string text) => some text
    | _ => none
  | _ => none

/-- A string literal that is not from the source text. -/
def literal (value : String) : Tree :=
  .node .string Span.none [("value", .string value), ("raw", .null)] []

def emptyStatement : Tree := .node .emptyStatement Span.none [] []

end Tree

structure Program where
  /-- Modules can import and export, scripts cannot. -/
  isModule : Bool
  span : Span
  /-- The line that names an interpreter, if there is one. -/
  interpreter : Value
  body : List Tree
deriving Repr, Inhabited

end ImportMacros
