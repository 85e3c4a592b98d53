import ImportMacros.Proofs.Lookup
import ImportMacros.Proofs.Loop
import ImportMacros.Proofs.Reach
import ImportMacros.Proofs.Usage

/-!
# ImportMacros.Proofs.Locals

Whether what is collected for a statement covers every use of the variables that the statement
declares. A statement declares variables of possibly different scopes, and keeps one scope for all
of them, that of the last. So it covers just those of its variables that are of that scope, as far
as they are used at all (`covers_iff`). A `var` in a catch clause that takes up the name of what is
caught is of another scope than its siblings, and then a require is removed although it is in use
(`not_covers`).
-/

namespace ImportMacros

/-! ## The variables of a statement -/

/-- The variable that an import specifier or a property of an object pattern declares. -/
def Tree.local? : Tree → Option Variable
  | .node .importDefaultSpecifier _ _ [.use own] => some own.toVariable
  | .node .importSpecifier _ _ (.use own :: _) => some own.toVariable
  | .node .assignmentPatternProperty _ _ (.binder own _ :: _) => some own.toVariable
  | .node .keyValuePatternProperty _ _ [_, .binder own _] => some own.toVariable
  | _ => none

/-- The variables that a statement declares, where its bindings are supported. -/
def Statement.locals : Statement → List Variable
  | .importing _ specifiers => specifiers.filterMap Tree.local?
  | .requiring _ (.binder own _) => [own.toVariable]
  | .requiring _ (.node .objectPattern _ _ [.seq properties]) => properties.filterMap Tree.local?
  | .requiring _ _ => []

namespace Binding

variable {t : Tree} {binding : Binding} {scope : Nat}

theorem local?_of_ofSpecifier (h : ofSpecifier t = .ok (binding, scope)) :
    t.local? = some ⟨binding.localName, scope⟩ := by
  unfold ofSpecifier at h
  split at h <;> cases h <;> rfl

theorem mem_declared_of_ofSpecifier (h : ofSpecifier t = .ok (binding, scope))
    (declaring : Bool) : ⟨binding.localName, scope⟩ ∈ t.declared declaring := by
  unfold ofSpecifier at h
  split at h <;> cases h <;>
    simp [Tree.declared, Tree.named, Tree.ownVariable, Ident.toVariable, default]

theorem exists_of_ofProperty (h : ofProperty t = .ok (binding, scope)) :
    ∃ span data own ascription, own.toVariable = ⟨binding.localName, scope⟩ ∧
      (t = .node .assignmentPatternProperty span data [.binder own ascription, .absent] ∨
        ∃ key, t = .node .keyValuePatternProperty span data [key, .binder own ascription]) := by
  fun_cases ofProperty t with
  | case1 span data own ascription =>
    cases h
    exact ⟨span, data, own, ascription, rfl, .inl rfl⟩
  | case3 span data keySpan keyData parts own ascription name hname =>
    simp only [ofProperty, hname] at h
    cases h
    exact ⟨span, data, own, ascription, rfl, .inr ⟨_, rfl⟩⟩
  | _ => simp_all [ofProperty]

theorem local?_of_ofProperty (h : ofProperty t = .ok (binding, scope)) :
    t.local? = some ⟨binding.localName, scope⟩ := by
  obtain ⟨span, data, own, ascription, hown, rfl | ⟨key, rfl⟩⟩ := exists_of_ofProperty h
  · rw [← hown]
    rfl
  · rw [← hown]
    rfl

theorem mem_declared_of_ofProperty (h : ofProperty t = .ok (binding, scope)) :
    ⟨binding.localName, scope⟩ ∈ t.declared true := by
  obtain ⟨span, data, own, ascription, hown, rfl | ⟨key, rfl⟩⟩ := exists_of_ofProperty h
  · simp [Tree.declared, Tree.declaredAll, Kind.isExpression, hown]
  · simp [Tree.declared, Tree.declaredAll, Kind.isExpression, hown]

end Binding

namespace Bindings

variable {read : Tree → Except UnsupportedBinding (Binding × Nat)} {scope : Nat} {ts : List Tree}
  {bindings : Bindings}

theorem collect_cons {t : Tree} (h : collect read scope (t :: ts) = .ok bindings) :
    ∃ binding own rest, read t = .ok (binding, own) ∧ collect read own ts = .ok rest ∧
      bindings = { rest with items := binding :: rest.items } := by
  rw [collect] at h
  split at h
  · cases h
  · rename_i binding own hread
    split at h
    · cases h
    · rename_i rest hrest
      cases h
      exact ⟨binding, own, rest, hread, hrest, rfl⟩

theorem exists_read_of_collect (h : collect read scope ts = .ok bindings) {t : Tree}
    (ht : t ∈ ts) : ∃ binding own, read t = .ok (binding, own) := by
  induction ts generalizing scope bindings with
  | nil => cases ht
  | cons head rest ih =>
    obtain ⟨binding, own, below, hread, hbelow, -⟩ := collect_cons h
    rcases List.mem_cons.1 ht with rfl | ht
    · exact ⟨binding, own, hread⟩
    · exact ih hbelow ht

theorem localNames_of_collect
    (hread : ∀ t binding own, read t = .ok (binding, own) →
      t.local? = some ⟨binding.localName, own⟩)
    (h : collect read scope ts = .ok bindings) :
    bindings.items.map Binding.localName = (ts.filterMap Tree.local?).map Variable.name := by
  induction ts generalizing scope bindings with
  | nil =>
    cases h
    rfl
  | cons t rest ih =>
    obtain ⟨binding, own, below, ht, hbelow, rfl⟩ := collect_cons h
    rw [List.filterMap_cons_some (hread _ _ _ ht), List.map_cons, List.map_cons, ih hbelow]

end Bindings

namespace Statement

variable {s : Statement} {bindings : Bindings} {v : Variable}

theorem localNames_of_bindings (h : s.bindings = .ok bindings) :
    bindings.items.map Binding.localName = s.locals.map Variable.name := by
  unfold Statement.bindings at h
  split at h
  · exact Bindings.localNames_of_collect (fun _ _ _ => Binding.local?_of_ofSpecifier) h
  · cases h
    rfl
  · exact Bindings.localNames_of_collect (fun _ _ _ => Binding.local?_of_ofProperty) h
  · cases h

theorem exists_binding_of_mem_locals (h : s.bindings = .ok bindings) (hv : v ∈ s.locals) :
    ∃ binding ∈ bindings.items, binding.localName = v.name := by
  have hname : v.name ∈ s.locals.map Variable.name := List.mem_map_of_mem hv
  rw [← localNames_of_bindings h] at hname
  exact List.mem_map.1 hname

end Statement

/-! ## Where the variables of a statement are declared -/

namespace Tree

variable {s : Statement} {bindings : Bindings} {v : Variable}

/-- No place on the way to an address is a binding identifier, whose type ascription declares
nothing. -/
def IsUnascribed (t : Tree) (a : Address) : Prop :=
  ∀ front, front <+: a → ∀ id ascription, t.at? front ≠ some (.binder id ascription)

theorem isUnascribed_child {t child : Tree} {i : Nat} {a : Address}
    (h : t.IsUnascribed (i :: a)) (hchild : t.children[i]? = some child) :
    child.IsUnascribed a := by
  intro front hfront id ascription hat
  exact h (i :: front) (List.cons_prefix_cons.2 ⟨rfl, hfront⟩) id ascription
    ((at?_cons hchild front).trans hat)

/-- What a subtree declares whether or not its binders do, the tree declares. -/
theorem mem_declared_of_child {t child : Tree} {i : Nat} {a : Address}
    (ht : t.IsUnascribed a) (hchild : t.children[i]? = some child)
    (h : ∀ declaring, v ∈ child.declared declaring) (declaring : Bool) :
    v ∈ t.declared declaring := by
  have hmem := List.mem_of_getElem? hchild
  cases t with
  | absent => cases hmem
  | use id => cases hmem
  | binder id ascription => exact absurd rfl (ht [] List.nil_prefix id ascription)
  | seq items =>
    rw [declared, declaredAll_eq]
    exact List.mem_flatMap.2 ⟨child, hmem, h declaring⟩
  | node kind span data parts =>
    by_cases hpair : (kind = .variableDeclarator ∨ kind = .arrow) ∧ parts.length = 2
    · obtain ⟨hkind, hlength⟩ := hpair
      obtain ⟨first, second, rfl⟩ := List.length_eq_two.1 hlength
      have hboth : child = first ∨ child = second := by simpa [children] using hmem
      have hsplit : ∀ d d', v ∈ declared d first ++ declared d' second := by
        intro d d'
        rcases hboth with rfl | rfl
        · exact List.mem_append_left _ (h d)
        · exact List.mem_append_right _ (h d')
      rcases hkind with rfl | rfl
      · rw [declared_declarator]
        exact hsplit _ _
      · rw [declared_arrow]
        exact hsplit _ _
    · rw [declared_node declaring (not_and.1 hpair)]
      exact List.mem_append_right _ (List.mem_flatMap.2 ⟨child, hmem, h _⟩)

theorem mem_declared_of_target {key : Key} {target : Tree}
    (hbindings : (Statement.requiring key target).bindings = .ok bindings)
    (hv : v ∈ (Statement.requiring key target).locals) : v ∈ target.declared true := by
  unfold Statement.locals at hv
  split at hv
  · rename_i heq
    cases heq
  · rename_i heq
    cases heq
    exact hv
  · rename_i heq
    cases heq
    obtain ⟨property, hproperty, hlocal⟩ := List.mem_filterMap.1 hv
    obtain ⟨binding, own, hread⟩ := Bindings.exists_read_of_collect hbindings hproperty
    obtain rfl : v = ⟨binding.localName, own⟩ :=
      Option.some.inj (hlocal.symm.trans (Binding.local?_of_ofProperty hread))
    rw [declared_node true (by simp), List.flatMap_singleton, declared, declaredAll_eq]
    exact List.mem_append_right _ (List.mem_flatMap.2
      ⟨property, hproperty, Binding.mem_declared_of_ofProperty hread⟩)
  · cases hv

theorem mem_declared_of_statement? {t : Tree} (h : t.statement? = some s)
    (hbindings : s.bindings = .ok bindings) (hv : v ∈ s.locals) (declaring : Bool) :
    v ∈ t.declared declaring := by
  cases s with
  | importing key specifiers =>
    have hkey := importKey?_of_statement? h
    rw [statement?_of_importKey? hkey] at h
    cases h
    obtain ⟨data, parts, rfl⟩ := exists_of_importKey? hkey
    obtain ⟨specifier, hspecifier, hlocal⟩ := List.mem_filterMap.1 hv
    obtain ⟨binding, own, hread⟩ := Bindings.exists_read_of_collect hbindings hspecifier
    obtain rfl : v = ⟨binding.localName, own⟩ :=
      Option.some.inj (hlocal.symm.trans (Binding.local?_of_ofSpecifier hread))
    have hdeclared := Binding.mem_declared_of_ofSpecifier hread
    obtain ⟨specifiers, rest, rfl, hmem⟩ : ∃ specifiers rest, parts = .seq specifiers :: rest ∧
        specifier ∈ specifiers := by
      rcases parts with _ | ⟨_ | specifiers | _ | _ | _, rest⟩ <;>
        first | cases hspecifier; done | exact ⟨_, _, rfl, hspecifier⟩
    rw [declared_node declaring (by simp), List.flatMap_cons, declared, declaredAll_eq]
    exact List.mem_append_right _ (List.mem_append_left _
      (List.mem_flatMap.2 ⟨specifier, hmem, hdeclared _⟩))
  | requiring key target =>
    obtain ⟨data, first, value, rfl, -⟩ := exists_of_requireKey? (requireKey?_of_statement? h)
    rw [statement?_of_requireKey? (requireKey?_of_statement? h)] at h
    cases h
    rw [declared_declarator]
    exact List.mem_append_left _ (mem_declared_of_target hbindings hv)

/-- Where a statement stands, its variables are declared, except inside of type ascriptions. -/
theorem mem_declared_of_standsAt {t : Tree} {a : Address} (hstands : StandsAt s t a)
    (ha : t.IsUnascribed a) (hbindings : s.bindings = .ok bindings) (hv : v ∈ s.locals)
    (declaring : Bool) : v ∈ t.declared declaring := by
  induction hstands generalizing declaring with
  | here h => exact mem_declared_of_statement? h hbindings hv declaring
  | inside _ hchild _ ih =>
    exact mem_declared_of_child ha hchild (ih (isUnascribed_child ha hchild)) declaring

end Tree

/-! ## Covered variables -/

namespace References

/-- An identifier that is used is at one of the collected places just if it stands for a live
binding. -/
theorem contains_collect {p : Program} {scope : Nat} {bindings : List Binding} {id : Ident}
    (hid : id ∈ p.uses) :
    (collect p scope bindings).contains id = true ↔
      (standing? p scope bindings id.toVariable).isSome = true := by
  rw [contains_iff]
  constructor
  · rintro ⟨name, hholds⟩
    obtain ⟨binding, hstanding, -⟩ := Option.map_eq_some_iff.1 (holds_collect_iff.1 hholds).2
    exact Option.isSome_of_eq_some hstanding
  · intro hsome
    obtain ⟨binding, hstanding⟩ := Option.isSome_iff_exists.1 hsome
    refine ⟨binding.importedName, holds_collect_iff.2 ⟨⟨id, hid, rfl⟩, ?_⟩⟩
    rw [hstanding, Option.map_some]

end References

namespace Statement

variable {s : Statement} {bindings : Bindings} {v : Variable} {p : Program}

/-- What is collected for a statement has every place where a variable is used as an
expression. -/
def Covers (s : Statement) (p : Program) (v : Variable) : Prop :=
  ∀ a id, p.tree.at? a = some (.use id) → p.tree.IsOpen a → id.toVariable = v →
    (Expansion.references s p).contains id = true

theorem covers_iff_uses (s : Statement) (p : Program) (v : Variable) :
    s.Covers p v ↔
      ∀ id ∈ p.uses, id.toVariable = v → (Expansion.references s p).contains id = true := by
  rw [← p.map_snd_occurrences_tree]
  constructor
  · intro h id hid hv
    obtain ⟨⟨a, id⟩, hmem, rfl⟩ := List.mem_map.1 hid
    obtain ⟨hat, hopen⟩ := (Tree.mem_occurrences p.tree a id).1 hmem
    exact h a id hat hopen hv
  · intro h a id hat hopen hv
    exact h id (List.mem_map_of_mem ((Tree.mem_occurrences p.tree a id).2 ⟨hat, hopen⟩)) hv

/-- A statement covers a variable that it declares just if the variable is declared in the scope
that the statement keeps, or is not used. It is declared unless the statement stands in a type
ascription. -/
theorem covers_iff {wanted : String → Bool} (hs : s ∈ p.statements wanted)
    (hbindings : s.bindings = .ok bindings) (hv : v ∈ s.locals) :
    (s.Covers p v ↔ (v.scope = bindings.scope ∧ v ∈ p.declared) ∨
      ∀ id ∈ p.uses, id.toVariable ≠ v) ∧
    ∃ a, Tree.StandsAt s p.tree a ∧ (p.tree.IsUnascribed a → v ∈ p.declared) := by
  constructor
  · rw [covers_iff_uses, Expansion.references, hbindings]
    constructor
    · intro h
      by_contra hnot
      rw [not_or] at hnot
      obtain ⟨hscope, hused⟩ := hnot
      obtain ⟨id, hid, rfl⟩ : ∃ id ∈ p.uses, id.toVariable = v := by
        simpa using hused
      obtain ⟨binding, -, hlive, hvariable⟩ := References.isSome_standing?.1
        ((References.contains_collect hid).1 (h id hid rfl))
      refine hscope ⟨congrArg Variable.scope hvariable, ?_⟩
      rw [hvariable]
      exact List.contains_iff_mem.1 hlive
    · rintro (⟨hscope, hdeclared⟩ | hunused) id hid hvariable
      · obtain ⟨binding, hbinding, hname⟩ := exists_binding_of_mem_locals hbindings hv
        have heq : v = ⟨binding.localName, bindings.scope⟩ := by
          rw [hname, ← hscope]
        refine (References.contains_collect hid).2 (References.isSome_standing?.2
          ⟨binding, hbinding, ?_, hvariable.trans heq⟩)
        exact List.contains_iff_mem.2 (heq ▸ hdeclared)
      · exact absurd hvariable (hunused id hid)
  · obtain ⟨-, a, hstands⟩ := (Tree.mem_statements_iff p.tree).1 hs
    exact ⟨a, hstands, fun ha => Tree.mem_declared_of_standsAt hstands ha hbindings hv false⟩

/-- A property `name` of an object pattern, in its short form. -/
def propertyOf (own : Ident) : Tree :=
  .node .assignmentPatternProperty own.span [] [.binder own .absent, .absent]

/-- `try { } catch (e) { var { f, e } = require("x.macro"); f; }`. The `e` of the pattern is of the
scope of what is caught, the `f` of that of the script. -/
def catching : Program :=
  let required : Tree := .requireOf ⟨⟨25, 53⟩, "x.macro"⟩ (.node .objectPattern ⟨25, 33⟩ [] [
    .seq [propertyOf ⟨"f", 2, ⟨27, 28⟩, false⟩, propertyOf ⟨"e", 3, ⟨30, 31⟩, false⟩]])
  ⟨false, Span.none, .null, [.node .tryStatement ⟨1, 59⟩ [] [
    .node .block ⟨5, 8⟩ [] [.seq []],
    .node .catchClause ⟨9, 59⟩ [] [
      .binder ⟨"e", 3, ⟨16, 17⟩, false⟩ .absent,
      .node .block ⟨19, 59⟩ [] [.seq [
        .node .variableDeclaration ⟨21, 54⟩ [("kind", .string "var")] [.seq [required]],
        .useOf ⟨"f", 2, ⟨55, 56⟩, false⟩]]],
    .absent]]⟩

theorem covers_catching : ∃ s bindings,
    s ∈ catching.statements isMacroName ∧ s.bindings = .ok bindings ∧
      s.locals = [⟨"f", 2⟩, ⟨"e", 3⟩] ∧ bindings.scope = 3 ∧
      s.Covers catching ⟨"e", 3⟩ ∧ ¬s.Covers catching ⟨"f", 2⟩ := by
  obtain ⟨s, hs⟩ : ∃ s, catching.statements isMacroName = [s] := ⟨_, rfl⟩
  have hmem : s ∈ catching.statements isMacroName := hs ▸ List.mem_singleton_self s
  cases hs
  have hcovers := covers_iff (v := ⟨"e", 3⟩) hmem rfl (by decide)
  have hmissed := covers_iff (v := ⟨"f", 2⟩) hmem rfl (by decide)
  refine ⟨_, _, hmem, rfl, rfl, rfl, hcovers.1.2 (.inl (by decide)), fun h => ?_⟩
  exact absurd (hmissed.1.1 h) (by decide)

def CoversLocals (p : Program) : Prop :=
  ∀ wanted, ∀ s ∈ p.statements wanted, ∀ bindings, s.bindings = .ok bindings →
    ∀ v ∈ s.locals, s.Covers p v

/-- The require is removed without a call, and `f` is used still. -/
theorem not_covers : ¬CoversLocals catching ∧
    ∀ setting : Expansion.Setting, setting.isWanted = isMacroName →
      ∃ st, Expansion.step setting none { program := catching } = .next st ∧ st.calls = [] ∧
        st.program.statements isMacroName = [] ∧ ⟨"f", 2, ⟨55, 56⟩, false⟩ ∈ st.program.uses := by
  constructor
  · intro h
    have hcovers := h isMacroName _ List.mem_cons_self _ rfl ⟨"f", 2⟩ (by decide)
    rw [covers_iff_uses] at hcovers
    exact absurd (hcovers ⟨"f", 2, ⟨55, 56⟩, false⟩ (by decide) rfl) (by decide)
  · intro setting hwanted
    obtain ⟨st, hstep⟩ : ∃ st, Expansion.step setting none { program := catching } = .next st := by
      rw [Expansion.step, hwanted]
      exact ⟨_, rfl⟩
    have hst := hstep
    rw [Expansion.step, hwanted] at hst
    cases hst
    exact ⟨_, hstep, rfl, rfl, by decide⟩

end Statement
end ImportMacros
