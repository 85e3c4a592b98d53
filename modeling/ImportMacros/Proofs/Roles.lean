import ImportMacros.Proofs.Collection

/-!
# ImportMacros.Proofs.Roles

Identifiers that are declared or assigned. `Tree.Places` tells the role of each: it is in the
pattern of a declarator, a parameter, a catch clause or an assignment, it is the own name of a
function or class declaration, or the local name of an import.

Most of them are binding identifiers or stand in an import declaration, so they are no uses. Two
roles are filled by plain identifiers: own names, and what is assigned as an expression. These are
recorded like any use as soon as they stand for a live binding, which is what it takes to set a
recorded place apart from a declaration (`collect_apart_iff`). A function that declares a variable
again is enough for it (`not_collect_apart`).
-/

namespace ImportMacros

/-- What an identifier that is declared or assigned is there for. -/
inductive Role where
  | variable
  | parameter
  | caught
  /-- The own name of a function or class declaration. -/
  | ownName
  /-- The local name of an import. -/
  | specifier
  /-- Assigned, in a pattern. -/
  | target
  /-- Assigned, as an expression: in parentheses, under an assertion about its type, or by counting
  up or down. -/
  | operand
deriving DecidableEq, Repr

/-- Roles of identifiers that are no binding identifiers. -/
def Role.isPlain : Role → Bool
  | .ownName => true
  | .operand => true
  | _ => false

namespace Kind

/-- The nodes of TypeScript, `as` apart, that can be assigned in place of the expression in them. -/
def assertions : List String :=
  ["TsNonNullExpression", "TsTypeAssertion", "TsSatisfiesExpression", "TsInstantiation"]

/-- The slot in which a pattern goes on, or an expression that is assigned. -/
def patternSlot? : Kind → Option Nat
  | .arrayPattern => some 0
  | .objectPattern => some 0
  | .keyValuePatternProperty => some 1
  | .assignmentPatternProperty => some 0
  | .assignmentPattern => some 0
  | .restElement => some 0
  | .parenthesis => some 0
  | .typeAssertion => some 0
  | .other type slots _ => if assertions.contains type then slots.idxOf? "expression" else none
  | _ => none

/-- The slot whose pattern a node declares or assigns, and the role of the identifiers in it. -/
def boundSlot? : Kind → Option (Role × Nat)
  | .variableDeclarator => some (.variable, 0)
  | .parameter => some (.parameter, 0)
  | .arrow => some (.parameter, 0)
  | .setterProperty => some (.parameter, 1)
  | .catchClause => some (.caught, 0)
  | .assignment => some (.target, 0)
  | .forInStatement => some (.target, 0)
  | .forOfStatement => some (.target, 0)
  | .update => some (.target, 0)
  | _ => none

def isSpecifier : Kind → Bool
  | .importDefaultSpecifier => true
  | .importNamespaceSpecifier => true
  | .importSpecifier => true
  | _ => false

end Kind

namespace Tree

/-- The way from a pattern to a pattern inside it. -/
inductive Leads : Tree → Address → Tree → Prop where
  | here (t : Tree) : Leads t [] t
  | item {items : List Tree} {i : Nat} {t u : Tree} {a : Address} :
      items[i]? = some t → Leads t a u → Leads (.seq items) (i :: a) u
  | part {kind : Kind} {span : Span} {data : Fields} {parts : List Tree} {i : Nat} {t u : Tree}
      {a : Address} : kind.patternSlot? = some i → parts[i]? = some t → Leads t a u →
      Leads (.node kind span data parts) (i :: a) u

inductive Places : Tree → Role → Address → Ident → Prop where
  | bound {kind : Kind} {span : Span} {data : Fields} {parts : List Tree} {role : Role} {i : Nat}
      {pattern ascription : Tree} {a : Address} {id : Ident} :
      kind.boundSlot? = some (role, i) → parts[i]? = some pattern →
      pattern.Leads a (.binder id ascription) →
      Places (.node kind span data parts) role (i :: (a ++ [0])) id
  | operand {kind : Kind} {span : Span} {data : Fields} {parts : List Tree} {i : Nat}
      {pattern : Tree} {a : Address} {id : Ident} :
      kind.boundSlot? = some (.target, i) → parts[i]? = some pattern →
      pattern.Leads a (.use id) → Places (.node kind span data parts) .operand (i :: a) id
  | functionName {span : Span} {data : Fields} {id : Ident} {rest : List Tree} :
      Places (.node .functionDeclaration span data (.use id :: rest)) .ownName [0] id
  | className {span : Span} {data : Fields} {id : Ident} {rest : List Tree} :
      Places (.node .classDeclaration span data (.use id :: rest)) .ownName [0] id
  /-- A function or class that is exported as the default is a declaration, too. -/
  | defaultName {kind : Kind} {span own : Span} {data ownData : Fields} {id : Ident}
      {rest : List Tree} : kind = .functionExpression ∨ kind = .classExpression →
      Places (.node .exportDefaultDeclaration span data [.node kind own ownData (.use id :: rest)])
        .ownName [0, 0] id
  | specifier {kind : Kind} {span own : Span} {data ownData : Fields} {specifiers : List Tree}
      {rest more : List Tree} {i : Nat} {id : Ident} : kind.isSpecifier = true →
      specifiers[i]? = some (.node kind own ownData (.use id :: more)) →
      Places (.node .importDeclaration span data (.seq specifiers :: rest)) .specifier [0, i, 0] id

theorem Leads.at? {t u : Tree} {a : Address} (h : t.Leads a u) : t.at? a = some u := by
  induction h with
  | here t => rfl
  | item hitem _ ih =>
    rw [at?_cons hitem]
    exact ih
  | part _ hpart _ ih =>
    rw [at?_cons hpart]
    exact ih

theorem Places.at? {t : Tree} {role : Role} {a : Address} {id : Ident} (h : t.Places role a id) :
    t.at? a = some (.use id) := by
  cases h with
  | bound _ hpart hleads =>
    rw [at?_cons hpart, at?_append hleads.at?]
    rfl
  | operand _ hpart hleads =>
    rw [at?_cons hpart]
    exact hleads.at?
  | functionName => rfl
  | className => rfl
  | defaultName _ => rfl
  | specifier _ hspecifier =>
    rw [at?_cons rfl, at?_cons hspecifier]
    rfl

theorem IsOpen.below {t u : Tree} {front rest : Address} (h : t.IsOpen (front ++ rest))
    (hat : t.at? front = some u) : u.IsOpen rest := by
  intro a ha cover hcover
  refine h (front ++ a) ((List.prefix_append_right_inj front).2 ha) cover ?_
  rw [at?_append hat, hcover]

theorem Places.isPlain_of_isOpen {t : Tree} {role : Role} {a : Address} {id : Ident}
    (h : t.Places role a id) (hopen : t.IsOpen a) : role.isPlain = true := by
  cases h with
  | @bound kind span data parts _ i _ ascription a _ _ hpart hleads =>
    have hat : (Tree.node kind span data parts).at? (i :: a) = some (.binder id ascription) := by
      rw [at?_cons hpart]
      exact hleads.at?
    -- The binder itself lies on the way, one step above its identifier, and it hides uses.
    have hcover := hopen (i :: a) ⟨[0], rfl⟩ _ hat
    cases hcover
  | operand => rfl
  | functionName => rfl
  | className => rfl
  | defaultName => rfl
  | specifier => exact absurd hopen (not_isOpen_of_isCover rfl _)

end Tree

namespace Program

def HasRole (p : Program) (role : Role) (a : Address) (id : Ident) : Prop :=
  ∃ front t rest, a = front ++ rest ∧ p.tree.at? front = some t ∧ t.Places role rest id

theorem HasRole.at? {p : Program} {role : Role} {a : Address} {id : Ident}
    (h : p.HasRole role a id) : p.tree.at? a = some (.use id) := by
  obtain ⟨front, t, rest, rfl, hat, hplaces⟩ := h
  rw [Tree.at?_append hat]
  exact hplaces.at?

theorem HasRole.isPlain_of_isOpen {p : Program} {role : Role} {a : Address} {id : Ident}
    (h : p.HasRole role a id) (hopen : p.tree.IsOpen a) : role.isPlain = true := by
  obtain ⟨front, t, rest, rfl, hat, hplaces⟩ := h
  exact hplaces.isPlain_of_isOpen (hopen.below hat)

end Program

namespace References

/-- Among all that is recorded, nothing is declared or assigned. -/
def IsApart (p : Program) (scope : Nat) (bindings : List Binding) : Prop :=
  ∀ name sites, (name, sites) ∈ collect p scope bindings →
    ∀ a id, (a, id) ∈ found p scope bindings → id.site ∈ sites → ∀ role, ¬p.HasRole role a id

theorem exists_of_mem_found {p : Program} {scope : Nat} {bindings : List Binding} {a : Address}
    {id : Ident} (h : (a, id) ∈ found p scope bindings) :
    ∃ name sites, (name, sites) ∈ collect p scope bindings ∧ id.site ∈ sites := by
  obtain ⟨binding, hstanding⟩ := Option.isSome_iff_exists.1 (mem_found.1 h).2.2
  have huse : id ∈ p.uses := by
    rw [← p.map_snd_occurrences_tree]
    exact List.mem_map_of_mem (List.mem_filter.1 h).1
  rw [collect_eq]
  refine ⟨binding.importedName, _, List.mem_map.2
    ⟨binding.importedName, importedName_mem_liveNames hstanding, rfl⟩, ?_⟩
  refine List.mem_map_of_mem (List.mem_filter.2 ⟨huse, ?_⟩)
  simp [hstanding]

/-- What is recorded is apart from what is declared or assigned just if no own name of a
declaration, and nothing assigned as an expression, stands for a live binding. -/
theorem collect_apart_iff (p : Program) (scope : Nat) (bindings : List Binding) :
    IsApart p scope bindings ↔
      ∀ a id role, role.isPlain = true → p.HasRole role a id → p.tree.IsOpen a →
        standing? p scope bindings id.toVariable = none := by
  constructor
  · intro h a id role _ hrole hopen
    by_contra hstanding
    have hfound : (a, id) ∈ found p scope bindings :=
      mem_found.2 ⟨hrole.at?, hopen, Option.isSome_iff_ne_none.2 hstanding⟩
    obtain ⟨name, sites, hname, hsite⟩ := exists_of_mem_found hfound
    exact h name sites hname a id hfound hsite role hrole
  · intro h name sites _ a id hfound _ role hrole
    obtain ⟨-, hopen, hstanding⟩ := mem_found.1 hfound
    rw [h a id role (hrole.isPlain_of_isOpen hopen) hrole hopen] at hstanding
    cases hstanding

/-- As in `var f = require("x.macro"); function f() {} f;`. -/
def redeclaring : Program := ⟨false, Span.none, .null, [
  .node .variableDeclaration ⟨1, 28⟩ [("kind", .string "var")] [.seq [
    .requireOf ⟨⟨5, 27⟩, "x.macro"⟩ (.binder ⟨"f", 2, ⟨5, 6⟩, false⟩ .absent)]],
  .node .functionDeclaration ⟨29, 44⟩ [] [.use ⟨"f", 2, ⟨38, 39⟩, false⟩, .seq [],
    .node .block ⟨42, 44⟩ [] [.seq []]],
  .useOf ⟨"f", 2, ⟨45, 46⟩, false⟩]⟩

theorem not_collect_apart :
    collect redeclaring 2 [.default "f"] =
        [("default", [⟨"f", 2, ⟨38, 39⟩⟩, ⟨"f", 2, ⟨45, 46⟩⟩])] ∧
      ¬∀ (p : Program) (scope : Nat) (bindings : List Binding), IsApart p scope bindings := by
  have hcollect : collect redeclaring 2 [.default "f"] =
      [("default", [⟨"f", 2, ⟨38, 39⟩⟩, ⟨"f", 2, ⟨45, 46⟩⟩])] := by decide
  refine ⟨hcollect, ?_⟩
  intro h
  have hfound : ([1, 0], ⟨"f", 2, ⟨38, 39⟩, false⟩) ∈ found redeclaring 2 [.default "f"] := by
    decide
  have hrole : redeclaring.HasRole .ownName [1, 0] ⟨"f", 2, ⟨38, 39⟩, false⟩ :=
    ⟨[1], _, [0], rfl, rfl, .functionName⟩
  have hname : ("default", [⟨"f", 2, ⟨38, 39⟩⟩, ⟨"f", 2, ⟨45, 46⟩⟩]) ∈
      collect redeclaring 2 [.default "f"] := by
    rw [hcollect]
    exact List.mem_singleton_self _
  exact h redeclaring 2 [.default "f"] _ _ hname _ _ hfound (by decide) .ownName hrole

end References
end ImportMacros
