import ImportMacros.Proofs.Edit
import ImportMacros.Proofs.Twins

/-!
# ImportMacros.Proofs.Reach

Which statements a removal can reach. The search for statements looks into everything but import
declarations (`Tree.StandsAt`, `Tree.mem_statements_iff`). A removal looks at fewer places
(`Program.Reaches`): at the items of a module for imports, and at the declarators of declarations
of variables for requires. So what was found can be removed just if one of its twins stands at
such a place (`remove_found_iff`). The declarators of resources are found and not removed, and so
are the imports of a module that is declared inside of a program (`not_removesFound`).
-/

namespace ImportMacros
namespace Tree

/-- The search for statements comes to a statement at an address. -/
inductive StandsAt (s : Statement) : Tree → Address → Prop where
  | here {t : Tree} : t.statement? = some s → StandsAt s t []
  | inside {t child : Tree} {i : Nat} {a : Address} :
      t.isKind .importDeclaration = false → t.children[i]? = some child → StandsAt s child a →
      StandsAt s t (i :: a)

variable {wanted : String → Bool} {s : Statement} {key : Key}

theorem statements_eq_children (wanted : String → Bool) (t : Tree) :
    statements wanted t = (ownStatement? wanted t).toList ++
      if t.isKind .importDeclaration then [] else t.children.flatMap (statements wanted) := by
  cases t with
  | absent => rfl
  | use id => rfl
  | binder id ascription => exact (List.append_nil _).symm
  | seq items => exact statementsAll_eq wanted items
  | node kind span data parts => simp [statements, statementsAll_eq, children, isKind]

theorem mem_statements_iff (t : Tree) :
    s ∈ statements wanted t ↔ wanted s.source = true ∧ ∃ a, StandsAt s t a := by
  induction t using children_induct with
  | step t ih =>
    rw [statements_eq_children, List.mem_append, mem_ownStatement?]
    constructor
    · rintro (⟨hs, hwanted⟩ | hs)
      · exact ⟨hwanted, [], .here hs⟩
      · split at hs
        · cases hs
        · rename_i himport
          obtain ⟨child, hchild, hs⟩ := List.mem_flatMap.1 hs
          obtain ⟨hwanted, a, ha⟩ := (ih child hchild).1 hs
          obtain ⟨i, hi⟩ := List.getElem?_of_mem hchild
          exact ⟨hwanted, i :: a, .inside (by simpa using himport) hi ha⟩
    · rintro ⟨hwanted, a, ha⟩
      cases ha with
      | here hs => exact .inl ⟨hs, hwanted⟩
      | inside himport hchild hbelow =>
        have hmem := List.mem_of_getElem? hchild
        rw [himport]
        exact .inr (List.mem_flatMap.2 ⟨_, hmem, (ih _ hmem).2 ⟨hwanted, _, hbelow⟩⟩)

theorem mem_places_iff {t : Tree} {a : Address} :
    a ∈ places key t ↔ ∃ target, StandsAt (.requiring key target) t a := by
  induction a generalizing t with
  | nil =>
    rw [nil_mem_places]
    constructor
    · intro h
      exact ⟨t.part 0, .here (statement?_of_requireKey? h)⟩
    · rintro ⟨target, hstands⟩
      cases hstands with
      | here h => exact requireKey?_of_statement? h
  | cons i rest ih =>
    rw [cons_mem_places]
    constructor
    · rintro ⟨himport, child, hchild, hrest⟩
      obtain ⟨target, hstands⟩ := ih.1 hrest
      exact ⟨target, .inside himport hchild hstands⟩
    · rintro ⟨target, hstands⟩
      cases hstands with
      | inside himport hchild hstands => exact ⟨himport, _, hchild, ih.2 ⟨target, hstands⟩⟩

/-- At the items of a list the imports of a key stand. -/
theorem exists_standsAt_item_iff {items : List Tree} :
    (∃ specifiers i, StandsAt (.importing key specifiers) (.seq items) [i]) ↔
      ∃ item ∈ items, item.importKey? = some key := by
  constructor
  · rintro ⟨specifiers, i, hstands⟩
    cases hstands with
    | inside _ hchild hstands =>
      cases hstands with
      | here h => exact ⟨_, List.mem_of_getElem? hchild, importKey?_of_statement? h⟩
  · rintro ⟨item, hitem, hkey⟩
    obtain ⟨i, hi⟩ := List.getElem?_of_mem hitem
    exact ⟨_, i, .inside rfl hi (.here (statement?_of_importKey? hkey))⟩

end Tree

namespace Program

open ImportMacros.Tree (StandsAt)

variable {wanted : String → Bool} {handled : List Key} {p : Program} {s : Statement} {key : Key}

/-- The removal of a statement looks at an address: an import is looked for among the items of a
module, a require in the lists of declarations of variables. -/
def Reaches (p : Program) : Statement → Address → Prop
  | .importing _ _, a => p.isModule = true ∧ ∃ i, a = [i]
  | .requiring _ _, a => ∃ b k span data declarators, a = b ++ [0, k] ∧
      p.tree.at? b = some (.node .variableDeclaration span data [.seq declarators])

theorem remove_import_iff (specifiers : List Tree) :
    (p.remove (.importing key specifiers)).2 = true ↔
      p.isModule = true ∧ ∃ item ∈ p.body, item.importKey? = some key := by
  rw [remove]
  split
  · rename_i hmodule
    simp [dropImports, hmodule]
  · rename_i hmodule
    simp [hmodule]

theorem remove_require_iff (target : Tree) :
    (p.remove (.requiring key target)).2 = true ↔
      ∃ b k span data declarators, b ++ [0, k] ∈ Tree.places key p.tree ∧
        p.tree.at? b = some (.node .variableDeclaration span data [.seq declarators]) := by
  rw [remove]
  constructor
  · intro h
    cases hdrop : p.dropRequire? key with
    | none =>
      rw [hdrop] at h
      cases h
    | some q =>
      obtain ⟨b, k, span, data, declarators, hat, hplace, -⟩ :=
        (drops_seq_of_dropRequire? hdrop).exists_place
      exact ⟨b, k, span, data, declarators, hplace, hat⟩
  · rintro ⟨b, k, span, data, declarators, hplace, hat⟩
    obtain ⟨u, hu⟩ := Tree.exists_dropRequire?_of_place hat hplace
    obtain ⟨body, hbody, -⟩ := Option.map_eq_some_iff.1 hu
    have hdrop : p.dropRequire? key = some { p with body := body } :=
      Option.map_eq_some_iff.2 ⟨body, hbody, rfl⟩
    rw [hdrop]

/-- A removal succeeds just if a twin of the statement stands where the removal looks. -/
theorem remove_iff (p : Program) (s : Statement) :
    (p.remove s).2 = true ↔
      ∃ t a, s.isTwin t = true ∧ StandsAt t p.tree a ∧ p.Reaches s a := by
  cases s with
  | importing key specifiers =>
    rw [remove_import_iff, ← Tree.exists_standsAt_item_iff]
    constructor
    · rintro ⟨hmodule, own, i, hstands⟩
      exact ⟨.importing key own, [i], beq_self_eq_true key, hstands, hmodule, i, rfl⟩
    · rintro ⟨t, a, htwin, hstands, hmodule, i, rfl⟩
      cases t with
      | importing key' own =>
        obtain rfl : key' = key := eq_of_beq htwin
        exact ⟨hmodule, own, i, hstands⟩
      | requiring key' target => cases htwin
  | requiring key target =>
    rw [remove_require_iff]
    constructor
    · rintro ⟨b, k, span, data, declarators, hplace, hat⟩
      obtain ⟨own, hstands⟩ := Tree.mem_places_iff.1 hplace
      exact ⟨.requiring key own, b ++ [0, k], beq_self_eq_true key, hstands, b, k, span, data,
        declarators, rfl, hat⟩
    · rintro ⟨t, a, htwin, hstands, b, k, span, data, declarators, rfl, hat⟩
      cases t with
      | importing key' specifiers => cases htwin
      | requiring key' own =>
        obtain rfl : key' = key := eq_of_beq htwin
        exact ⟨b, k, span, data, declarators, Tree.mem_places_iff.2 ⟨own, hstands⟩, hat⟩

/-- What was found stands in the program, and its removal succeeds just if one of its twins stands
where the removal looks. -/
theorem remove_found_iff (h : p.firstStatement? wanted handled = some s) :
    (∃ a, StandsAt s p.tree a) ∧
      ((p.remove s).2 = true ↔
        ∃ t a, s.isTwin t = true ∧ StandsAt t p.tree a ∧ p.Reaches s a) := by
  have hs : s ∈ p.tree.statements wanted := (mem_of_firstStatement? h).1
  exact ⟨((Tree.mem_statements_iff p.tree).1 hs).2, remove_iff p s⟩

theorem remove_found_mixedProgram : ∃ s,
    Expansion.mixedProgram.firstStatement? isMacroName [⟨⟨1, 9⟩, "a.macro"⟩] = some s ∧
    StandsAt s Expansion.mixedProgram.tree [1, 0, 0] ∧
      (Expansion.mixedProgram.remove s).2 = true := by
  obtain ⟨s, hfound⟩ : ∃ s,
      Expansion.mixedProgram.firstStatement? isMacroName [⟨⟨1, 9⟩, "a.macro"⟩] = some s :=
    ⟨_, rfl⟩
  have hiff := (remove_found_iff hfound).2
  cases hfound
  have hstands : StandsAt (.requiring ⟨⟨10, 19⟩, "b.macro"⟩
      (.binder ⟨"b", 2, ⟨11, 12⟩, false⟩ .absent)) Expansion.mixedProgram.tree [1, 0, 0] :=
    .inside rfl rfl (.inside rfl rfl (.inside rfl rfl (.here rfl)))
  exact ⟨_, rfl, hstands, hiff.2 ⟨_, _, rfl, hstands, [1], 0, _, _, _, rfl, rfl⟩⟩

/-- `using x = require("x.macro");`, in a script. -/
def disposingProgram : Program := ⟨false, Span.none, .null, [
  .node .usingDeclaration ⟨1, 30⟩ [] [.seq [
    .requireOf ⟨⟨7, 29⟩, "x.macro"⟩ (.binder ⟨"x", 2, ⟨7, 8⟩, false⟩ .absent)]]]⟩

/-- `declare module "m" { import x from "x.macro"; }`, in a script. -/
def enclosingProgram : Program := ⟨false, Span.none, .null, [
  .node .moduleDeclaration ⟨1, 50⟩ [] [.literal "m", .node .moduleBlock ⟨20, 50⟩ [] [.seq [
    .importOf ⟨⟨22, 48⟩, "x.macro"⟩ ⟨"x", 2, ⟨29, 30⟩, false⟩]]]]⟩

def RemovesFound (p : Program) : Prop :=
  ∀ wanted handled s, p.firstStatement? wanted handled = some s → (p.remove s).2 = true

theorem not_removesFound : ¬RemovesFound disposingProgram ∧ ¬RemovesFound enclosingProgram := by
  constructor
  · intro h
    have hremoved := h isMacroName [] _ rfl
    cases hremoved
  · intro h
    have hremoved := h isMacroName [] _ rfl
    cases hremoved

end Program
end ImportMacros
