import Mathlib.Data.List.Basic
import ImportMacros.Statement.Find
import ImportMacros.Statement.Remove
import ImportMacros.Tree.Variables

/-!
# ImportMacros.Proofs.Tree

Induction over syntax trees, and the lists that are read off them.

* `Tree.induct` has a hypothesis for every item of a list and every subtree of a node.
* The functions on lists of trees are `flatMap` and `map` of those on trees, so that facts about
  them come from the library of lists.
* `Tree.importOf`, `Tree.requireOf` and what follows them spell small trees.
* `Tree.Reading` are the lists that tidying cannot change: nothing is read off a declaration that
  declares nothing, so `Reading.tidyParts` lets it go.
-/

namespace ImportMacros
namespace Tree

@[elab_as_elim, induction_eliminator]
theorem induct {motive : Tree → Prop} (absent : motive .absent) (use : ∀ id, motive (.use id))
    (binder : ∀ id ascription, motive ascription → motive (.binder id ascription))
    (seq : ∀ items, (∀ t ∈ items, motive t) → motive (.seq items))
    (node : ∀ kind span data parts, (∀ t ∈ parts, motive t) →
      motive (.node kind span data parts)) (t : Tree) : motive t := by
  refine @Tree.rec motive (fun ts => ∀ t ∈ ts, motive t) absent seq use binder node ?_ ?_ t
  · intro t ht
    cases ht
  · intro head tail hhead htail t ht
    cases ht with
    | head => exact hhead
    | tail _ ht => exact htail t ht

section Lists

variable (wanted : String → Bool) (declaring : Bool)

theorem statementsAll_eq (ts : List Tree) :
    statementsAll wanted ts = ts.flatMap (statements wanted) := by
  induction ts with
  | nil => rfl
  | cons t rest ih => simp [statementsAll, ih]

theorem usesAll_eq (ts : List Tree) : usesAll ts = ts.flatMap uses := by
  induction ts with
  | nil => rfl
  | cons t rest ih => simp [usesAll, ih]

theorem declaredAll_eq (ts : List Tree) :
    declaredAll declaring ts = ts.flatMap (declared declaring) := by
  induction ts with
  | nil => rfl
  | cons t rest ih => simp [declaredAll, ih]

theorem tidyAll_eq (ts : List Tree) : tidyAll ts = ts.map tidy := by
  induction ts with
  | nil => rfl
  | cons t rest ih => simp [tidyAll, ih]

end Lists

/-! ## Small trees -/

def stringOf (span : Span) (value : String) : Tree :=
  .node .string span [("value", .string value), ("raw", .null)] []

/-- An import declaration of a default export. -/
def importOf (key : Key) (own : Ident) : Tree :=
  .node .importDeclaration key.span []
    [.seq [.node .importDefaultSpecifier key.span [] [.use own]], stringOf key.span key.source]

def requireOf (key : Key) (target : Tree) : Tree :=
  .node .variableDeclarator key.span [] [target,
    .node .call key.span [] [.use ⟨"require", 1, key.span, false⟩,
      .seq [.node .argument key.span [] [stringOf key.span key.source]]]]

def constOf (declarators : List Tree) : Tree :=
  .node .variableDeclaration Span.none [("kind", .string "const")] [.seq declarators]

def useOf (id : Ident) : Tree := .node .expressionStatement id.span [] [.use id]

/-! ## What tidying cannot change -/

/-- A list that is read off trees, with nothing from a declaration that declares nothing. -/
structure Reading {α : Type} (one : Tree → List α) : Prop where
  absent : one .absent = []
  seq : ∀ items, one (.seq items) = items.flatMap one
  emptied : ∀ t, t.isEmptiedItem = true → one t = []
  emptyStatement : one emptyStatement = []

theorem isEmptiedItem_of_isEmptied {t : Tree} (h : t.isEmptied = true) :
    t.isEmptiedItem = true := by
  unfold isEmptied at h
  split at h
  · rfl
  · cases h

namespace Reading

variable {α : Type} {one : Tree → List α}

theorem dropEmptied (r : Reading one) (items : List Tree) :
    (dropEmptied items).flatMap one = items.flatMap one := by
  induction items with
  | nil => rfl
  | cons t rest ih =>
    simp only [Tree.dropEmptied] at ih ⊢
    cases ht : t.isEmptiedItem with
    | true => simp [ht, ih, r.emptied t ht]
    | false => simp [ht, ih]

theorem tidyList (r : Reading one) (t : Tree) : one (tidyList t) = one t := by
  cases t with
  | seq items => simp only [Tree.tidyList, r.seq, r.dropEmptied]
  | _ => rfl

theorem tidyBody (r : Reading one) (t : Tree) : one (tidyBody t) = one t := by
  unfold Tree.tidyBody
  split
  · rename_i h
    rw [r.emptyStatement, r.emptied t (isEmptiedItem_of_isEmptied h)]
  · rfl

theorem head (r : Reading one) (t : Tree) :
    one (if t.isEmptied then .absent else t) = one t := by
  split
  · rename_i h
    rw [r.absent, r.emptied t (isEmptiedItem_of_isEmptied h)]
  · rfl

theorem tidyParts (r : Reading one) (kind : Kind) (parts : List Tree) :
    (tidyParts kind parts).flatMap one = parts.flatMap one := by
  unfold Tree.tidyParts
  split <;> simp [r.tidyList, r.tidyBody, r.head]

end Reading

end Tree
end ImportMacros
