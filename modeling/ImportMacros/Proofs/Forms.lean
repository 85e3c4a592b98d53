import ImportMacros.Proofs.Loop
import ImportMacros.Proofs.Usage

/-!
# ImportMacros.Proofs.Forms

Named exports can be brought in by an import declaration, as in `import { i as l } from "s"`, and
by a declaration of variables, as in `const { i: l } = require("s")`. The two are read by different
functions, declare their variables in different ways, and are removed by different functions, but
in front of the same items an expansion sees no difference between them (`forms_agree`).

`IsImport` and `IsRequire` are the two forms of one list of pairings. Either may write a pairing in
its short form where the names are the same.
-/

namespace ImportMacros

structure Pairing where
  imported : String
  own : Variable
deriving DecidableEq, Repr

namespace Pairing

def binding (pairing : Pairing) : Binding := ⟨pairing.own.name, pairing.imported⟩

/-- The specifiers of a pairing: `i as l`, or `l` for short. -/
inductive IsSpecifier (pairing : Pairing) : Tree → Prop where
  | named {span : Span} {data : Fields} {own imported : Ident} :
      own.toVariable = pairing.own → imported.name = pairing.imported →
      IsSpecifier pairing (.node .importSpecifier span data [.use own, .use imported])
  | short {span : Span} {data : Fields} {own : Ident} :
      own.toVariable = pairing.own → pairing.own.name = pairing.imported →
      IsSpecifier pairing (.node .importSpecifier span data [.use own, .absent])

/-- The properties of a pairing: `i: l`, or `l` for short. -/
inductive IsProperty (pairing : Pairing) : Tree → Prop where
  | keyed {span keySpan : Span} {data keyData : Fields} {own : Ident} {ascription : Tree} :
      own.toVariable = pairing.own →
      keyData.get? "value" = some (.string pairing.imported) →
      IsProperty pairing (.node .keyValuePatternProperty span data
        [.node .name keySpan keyData [], .binder own ascription])
  | short {span : Span} {data : Fields} {own : Ident} {ascription : Tree} :
      own.toVariable = pairing.own → pairing.own.name = pairing.imported →
      IsProperty pairing (.node .assignmentPatternProperty span data
        [.binder own ascription, .absent])

end Pairing

inductive IsImport (key : Key) (pairings : List Pairing) : Tree → Prop where
  | intro {span : Span} {data sourceData : Fields} {specifiers : List Tree} :
      List.Forall₂ Pairing.IsSpecifier pairings specifiers →
      sourceData.get? "value" = some (.string key.source) →
      IsImport key pairings (.node .importDeclaration key.span data
        [.seq specifiers, .node .string span sourceData []])

/-- A declaration of pairings with the value of a `require` call, and of nothing else. -/
inductive IsRequire (key : Key) (pairings : List Pairing) : Tree → Prop where
  | intro {span patternSpan : Span} {data declaratorData patternData : Fields}
      {properties : List Tree} {value : Tree} :
      List.Forall₂ Pairing.IsProperty pairings properties →
      value.requiredSource? = some key.source →
      IsRequire key pairings (.node .variableDeclaration span data [.seq [
        .node .variableDeclarator key.span declaratorData [
          .node .objectPattern patternSpan patternData [.seq properties], value]]])

variable {wanted : String → Bool} {key : Key} {pairings : List Pairing} {pairing : Pairing}

/-! ## Bindings -/

def lastScope (scope : Nat) : List Pairing → Nat
  | [] => scope
  | pairing :: rest => lastScope pairing.own.scope rest

def Bindings.ofPairings (scope : Nat) (pairings : List Pairing) : Bindings :=
  ⟨pairings.map Pairing.binding, lastScope scope pairings⟩

theorem Pairing.IsSpecifier.read {t : Tree} (h : pairing.IsSpecifier t) :
    Binding.ofSpecifier t = .ok (pairing.binding, pairing.own.scope) := by
  cases h with
  | named hown himported =>
    simp [Binding.ofSpecifier, binding, ← hown, ← himported, Ident.toVariable]
  | short hown hname => simp [Binding.ofSpecifier, binding, ← hname, ← hown, Ident.toVariable]

theorem Pairing.IsProperty.read {t : Tree} (h : pairing.IsProperty t) :
    Binding.ofProperty t = .ok (pairing.binding, pairing.own.scope) := by
  cases h with
  | keyed hown hkey => simp [Binding.ofProperty, binding, hkey, ← hown, Ident.toVariable]
  | short hown hname => simp [Binding.ofProperty, binding, ← hname, ← hown, Ident.toVariable]

theorem Bindings.collect_of_forall₂ {read : Tree → Except UnsupportedBinding (Binding × Nat)}
    {form : Pairing → Tree → Prop} {ts : List Tree} (h : List.Forall₂ form pairings ts)
    (hread : ∀ pairing t, form pairing t → read t = .ok (pairing.binding, pairing.own.scope))
    (scope : Nat) : collect read scope ts = .ok (ofPairings scope pairings) := by
  induction h generalizing scope with
  | nil => rfl
  | cons hform _ ih =>
    simp only [collect, hread _ _ hform, ih]
    rfl

/-! ## Declared and used variables -/

namespace Tree

theorem declaredAll_of_forall₂ {form : Pairing → Tree → Prop} {declaring : Bool}
    {ts : List Tree} (h : List.Forall₂ form pairings ts)
    (hdeclared : ∀ pairing t, form pairing t → declared declaring t = [pairing.own]) :
    declaredAll declaring ts = pairings.map Pairing.own := by
  induction h with
  | nil => rfl
  | cons hform _ ih => rw [declaredAll, hdeclared _ _ hform, ih]; rfl

theorem declared_of_isSpecifier (declaring : Bool) {t : Tree} (h : pairing.IsSpecifier t) :
    declared declaring t = [pairing.own] := by
  cases h with
  | named hown _ => simp [declared, declaredAll, named, ownVariable, hown]
  | short hown _ => simp [declared, declaredAll, named, ownVariable, hown]

theorem declared_of_isProperty {t : Tree} (h : pairing.IsProperty t) :
    declared true t = [pairing.own] := by
  cases h with
  | keyed hown _ => simp [declared, declaredAll, named, Kind.isExpression, hown]
  | short hown _ => simp [declared, declaredAll, named, Kind.isExpression, hown]

theorem usesAll_of_isProperty {ts : List Tree}
    (h : List.Forall₂ Pairing.IsProperty pairings ts) : usesAll ts = [] := by
  induction h with
  | nil => rfl
  | cons hform _ ih =>
    rw [usesAll, ih, List.append_nil]
    cases hform with
    | keyed _ _ => simp [uses, usesAll, Kind.hidesUses]
    | short _ _ => simp [uses, usesAll, Kind.hidesUses]

/-- A `require` call declares nothing, and uses nothing but what it calls. -/
theorem exists_callee {t : Tree} {source : String} (h : t.requiredSource? = some source) :
    declared false t = [] ∧ ∃ callee, uses t = [callee] ∧ callee.name = "require" := by
  unfold requiredSource? at h
  split at h
  · rename_i callee _ _ _ _
    split at h
    · rename_i hname
      simp only [Bool.and_eq_true, decide_eq_true_eq] at hname
      refine ⟨by simp [declared, declaredAll, named], callee, ?_, hname.1⟩
      simp [uses, usesAll, Kind.hidesUses]
    · cases h
  · cases h

end Tree

namespace References

/-- An identifier of another name makes no difference. -/
theorem collect_of_uses_eq_cons {p q : Program} {scope : Nat} {bindings : List Binding} {id : Ident}
    (hdeclared : q.declared = p.declared) (huses : q.uses = id :: p.uses)
    (hid : ∀ binding ∈ bindings, binding.localName ≠ id.name) :
    collect q scope bindings = collect p scope bindings := by
  have hstanding : standing? p scope bindings id.toVariable = none := by
    by_contra hne
    obtain ⟨binding, hsome⟩ := Option.ne_none_iff_exists'.1 hne
    obtain ⟨hbinding, -, hvariable⟩ := exists_of_standing? hsome
    exact hid binding hbinding (congrArg Variable.name hvariable).symm
  have hsame : ∀ v, standing? q scope bindings v = standing? p scope bindings v := by
    intro v
    rw [standing?, standing?, hdeclared]
  have hnames : liveNames q scope bindings = liveNames p scope bindings := by
    rw [liveNames, liveNames, hdeclared]
  rw [collect_eq, collect_eq, hnames]
  simp [hsame, huses, hstanding]

end References

/-! ## The two forms -/

namespace IsImport

variable {item : Tree}

theorem importKey? (h : IsImport key pairings item) : item.importKey? = some key := by
  cases h with
  | intro _ hsource => simp [Tree.importKey?, Tree.text?, hsource]

theorem declared (h : IsImport key pairings item) :
    item.declared false = pairings.map Pairing.own := by
  cases h with
  | intro hspecifiers _ =>
    have hdeclared := Tree.declaredAll_of_forall₂ hspecifiers
      fun _ _ => Tree.declared_of_isSpecifier false
    simp [Tree.declared, Tree.declaredAll, Tree.named, hdeclared]

theorem uses (h : IsImport key pairings item) : item.uses = [] := by
  cases h with
  | intro _ _ => simp [Tree.uses, Tree.Kind.hidesUses]

theorem exists_statements (h : IsImport key pairings item) (hwanted : wanted key.source = true) :
    ∃ specifiers, item.statements wanted = [.importing key specifiers] ∧
      (Statement.importing key specifiers).bindings = .ok (Bindings.ofPairings 0 pairings) := by
  refine ⟨_, by rw [Tree.statements_of_importKey? h.importKey?, if_pos hwanted], ?_⟩
  cases h with
  | intro hspecifiers _ =>
    exact Bindings.collect_of_forall₂ hspecifiers (fun _ _ h => h.read) 0

end IsImport

namespace IsRequire

variable {item : Tree}

theorem declared (h : IsRequire key pairings item) :
    item.declared false = pairings.map Pairing.own := by
  cases h with
  | intro hproperties hvalue =>
    have hdeclared := Tree.declaredAll_of_forall₂ hproperties
      fun _ _ => Tree.declared_of_isProperty
    obtain ⟨hnone, -⟩ := Tree.exists_callee hvalue
    simp [Tree.declared, Tree.declaredAll, Tree.named, Kind.isExpression, hdeclared, hnone]

theorem uses (h : IsRequire key pairings item) :
    ∃ callee, item.uses = [callee] ∧ callee.name = "require" := by
  cases h with
  | intro hproperties hvalue =>
    obtain ⟨-, callee, huses, hname⟩ := Tree.exists_callee hvalue
    refine ⟨callee, ?_, hname⟩
    simp [Tree.uses, Tree.usesAll, Tree.Kind.hidesUses, Tree.usesAll_of_isProperty hproperties,
      huses]

theorem exists_statements (h : IsRequire key pairings item) (hwanted : wanted key.source = true) :
    ∃ target inside, item.statements wanted = .requiring key target :: inside ∧
      (Statement.requiring key target).bindings = .ok (Bindings.ofPairings 0 pairings) := by
  cases h with
  | @intro span patternSpan data declaratorData patternData properties value hproperties hvalue =>
    let target := Tree.node .objectPattern patternSpan patternData [.seq properties]
    let d := Tree.node .variableDeclarator key.span declaratorData [target, value]
    have hkey : d.requireKey? = some key := by simp [d, Tree.requireKey?, hvalue]
    have hown : d.ownStatement? wanted = some (.requiring key target) := by
      rw [Tree.ownStatement?_of_requireKey? hkey, if_pos hwanted]
      rfl
    have hd : d.statements wanted =
        .requiring key target :: [target, value].flatMap (Tree.statements wanted) := by
      rw [Tree.statements_node_of_ne wanted (by decide), hown]
      rfl
    have hstatements : (Tree.node .variableDeclaration span data [.seq [d]]).statements wanted =
        .requiring key target :: [target, value].flatMap (Tree.statements wanted) := by
      rw [Tree.statements_node_of_ne wanted (by decide),
        Tree.ownStatement?_of_ne wanted (by decide) (by decide), List.flatMap_singleton,
        (Tree.reading_statements wanted).seq, List.flatMap_singleton, hd]
      rfl
    refine ⟨target, _, hstatements, ?_⟩
    exact Bindings.collect_of_forall₂ hproperties (fun _ _ h => h.read) 0

/-- Without its declarator the declaration declares nothing. -/
theorem exists_dropRequire? (h : IsRequire key pairings item) :
    ∃ emptied, item.dropRequire? key = some emptied ∧ emptied.isEmptied = true := by
  cases h with
  | @intro span _ data _ _ _ _ _ hvalue =>
    refine ⟨.node .variableDeclaration span data [.seq []], ?_, rfl⟩
    simp [Tree.dropRequire?, Tree.dropDeclarator?, Tree.eraseFirst?, Tree.requires,
      Tree.requireKey?, hvalue]

end IsRequire

namespace Program

variable {p : Program} {item : Tree} {s : Statement} {inside : List Statement}

def after (item : Tree) (p : Program) : Program := { p with body := item :: p.body }

theorem firstStatement?_after (h : item.statements wanted = s :: inside) {handled : List Key}
    (hs : s.key ∉ handled) : (p.after item).firstStatement? wanted handled = some s := by
  rw [firstStatement?_eq_find?, statements_eq, after, List.flatMap_cons, h, List.cons_append,
    List.find?_cons_of_pos]
  simpa using hs

theorem declared_after (item : Tree) (p : Program) :
    (p.after item).declared = item.declared false ++ p.declared := rfl

theorem uses_after (item : Tree) (p : Program) :
    (p.after item).uses = item.uses ++ p.uses := rfl

theorem importKey?_ne_of_statements (hwanted : wanted key.source = true)
    (h : ∀ u ∈ p.statements wanted, u.key ≠ key) {t : Tree} (ht : t ∈ p.body) :
    t.importKey? ≠ some key := by
  intro hkey
  have hstatements : t.statements wanted = [.importing key (t.part 0).items] := by
    rw [Tree.statements_of_importKey? hkey, if_pos hwanted]
  have hmem : .importing key (t.part 0).items ∈ p.statements wanted := by
    rw [statements_eq, List.mem_flatMap]
    exact ⟨t, ht, by simp [hstatements]⟩
  exact h _ hmem rfl

theorem remove_import (hmodule : p.isModule = true) (hitem : IsImport key pairings item)
    (hwanted : wanted key.source = true) (h : ∀ u ∈ p.statements wanted, u.key ≠ key)
    (specifiers : List Tree) :
    (p.after item).remove (.importing key specifiers) = (p, true) := by
  have hbody : p.body.filter (fun t => t.importKey? != some key) = p.body := by
    rw [List.filter_eq_self]
    intro t ht
    simpa using importKey?_ne_of_statements hwanted h ht
  have hdrop : (p.after item).dropImports key = p := by
    simp [dropImports, after, hitem.importKey?, hbody]
  have hmodule' : (p.after item).isModule = true := hmodule
  have hlength : (p.after item).body.length = p.body.length + 1 := rfl
  simp only [remove, hmodule', hdrop, hlength]
  simp

theorem remove_require (hitem : IsRequire key pairings item)
    (h : ∀ t ∈ p.body, t.hasEmptied = false) (target : Tree) :
    (p.after item).remove (.requiring key target) = (p, true) := by
  obtain ⟨emptied, hdrop, hemptied⟩ := hitem.exists_dropRequire?
  obtain ⟨span, data, rfl⟩ := Tree.eq_of_isEmptied hemptied
  have hrequire : (p.after item).dropRequire? key =
      some (p.after (.node .variableDeclaration span data [.seq []])) := by
    simp [dropRequire?, after, Tree.dropRequireIn?, hdrop]
  -- Only the declaration itself has become empty, so tidying takes it away and nothing else.
  have htidy : (p.after (.node .variableDeclaration span data [.seq []])).tidy = p := by
    have hbody : Tree.tidyAll p.body = p.body :=
      Tree.tidyAll_eq_self fun t ht => Tree.tidy_eq_self (h t ht)
    have hemptied : (Tree.tidy (.node .variableDeclaration span data [.seq []])).isEmptiedItem =
        true := by
      rw [Tree.tidy_node_of_ne (by decide)]
      rfl
    have hrest := Tree.dropEmptied_eq_self h
    rw [Tree.dropEmptied] at hrest
    simp [tidy, after, Tree.tidyAll, Tree.dropEmptied, hbody, hemptied, hrest]
  simp only [remove, hrequire, htidy]

end Program

/-- What two items come to in front of the same program: `s` is found if `item` is there, and `s'`
if `item'` is. -/
structure FormsAgree (wanted : String → Bool) (p : Program) (item item' : Tree) (s s' : Statement)
    (bindings : Bindings) : Prop where
  first : ∀ handled, s.key ∉ handled →
    (p.after item).firstStatement? wanted handled = some s
  first' : ∀ handled, s'.key ∉ handled →
    (p.after item').firstStatement? wanted handled = some s'
  source : s.source = s'.source
  binds : s.bindings = .ok bindings
  binds' : s'.bindings = .ok bindings
  references : References.collect (p.after item) bindings.scope bindings.items =
    References.collect (p.after item') bindings.scope bindings.items
  remove : (∀ u ∈ p.statements wanted, u.key ≠ s.key) → (p.after item).remove s = (p, true)
  remove' : (∀ t ∈ p.body, t.hasEmptied = false) → (p.after item').remove s' = (p, true)

/-- An import declaration and a `require` call that bind the same names from the same source are
found, used and removed alike. -/
theorem forms_agree {p : Program} {key' : Key} {item item' : Tree}
    (hitem : IsImport key pairings item) (hitem' : IsRequire key' pairings item')
    (hsource : key.source = key'.source) (hwanted : wanted key.source = true)
    (hmodule : p.isModule = true) (hnames : ∀ pairing ∈ pairings, pairing.own.name ≠ "require") :
    ∃ s s', s.key = key ∧ s'.key = key' ∧
      FormsAgree wanted p item item' s s' (.ofPairings 0 pairings) := by
  have hwanted' : wanted key'.source = true := hsource ▸ hwanted
  obtain ⟨specifiers, hstatements, hbindings⟩ := hitem.exists_statements hwanted
  obtain ⟨target, inside, hstatements', hbindings'⟩ := hitem'.exists_statements hwanted'
  obtain ⟨callee, huses', hcallee⟩ := hitem'.uses
  refine ⟨.importing key specifiers, .requiring key' target, rfl, rfl, ?_⟩
  have hdeclared : (p.after item').declared = (p.after item).declared := by
    rw [Program.declared_after, Program.declared_after, hitem.declared, hitem'.declared]
  have huses : (p.after item').uses = callee :: (p.after item).uses := by
    rw [Program.uses_after, Program.uses_after, hitem.uses, huses']
    rfl
  have hlocal : ∀ binding ∈ (Bindings.ofPairings 0 pairings).items,
      binding.localName ≠ callee.name := by
    intro binding hbinding
    obtain ⟨pairing, hpairing, rfl⟩ := List.mem_map.1 hbinding
    rw [hcallee]
    exact hnames pairing hpairing
  exact {
    first := fun handled hkey => Program.firstStatement?_after hstatements hkey
    first' := fun handled hkey => Program.firstStatement?_after hstatements' hkey
    source := hsource
    binds := hbindings
    binds' := hbindings'
    references := (References.collect_of_uses_eq_cons hdeclared huses hlocal).symm
    remove := fun hkeys => Program.remove_import hmodule hitem hwanted hkeys specifiers
    remove' := fun hfilled => Program.remove_require hitem' hfilled target }

/-- As in `import { a as X, b } from "s.macro"`. -/
def namedImport : Tree :=
  .node .importDeclaration ⟨1, 9⟩ [] [
    .seq [
      .node .importSpecifier ⟨2, 4⟩ [] [.use ⟨"X", 2, ⟨3, 4⟩, false⟩, .use ⟨"a", 0, ⟨2, 3⟩, false⟩],
      .node .importSpecifier ⟨5, 6⟩ [] [.use ⟨"b", 2, ⟨5, 6⟩, false⟩, .absent]],
    .stringOf ⟨7, 8⟩ "s.macro"]

/-- As in `const { a: X, b } = require("s.macro")`. -/
def destructuredRequire : Tree :=
  .constOf [.requireOf ⟨⟨1, 9⟩, "s.macro"⟩ (.node .objectPattern ⟨2, 6⟩ [] [.seq [
    .node .keyValuePatternProperty Span.none [] [
      .node .name ⟨2, 3⟩ [("value", .string "a")] [], .binder ⟨"X", 2, ⟨3, 4⟩, false⟩ .absent],
    .node .assignmentPatternProperty ⟨5, 6⟩ [] [
      .binder ⟨"b", 2, ⟨5, 6⟩, false⟩ .absent, .absent]]])]

/-- As in `b; X; X`. -/
def usingProgram : Program := ⟨true, Span.none, .null, [
  .useOf ⟨"b", 2, ⟨10, 11⟩, false⟩, .useOf ⟨"X", 2, ⟨12, 13⟩, false⟩,
  .useOf ⟨"X", 2, ⟨14, 15⟩, false⟩]⟩

theorem forms_agree_usingProgram :
    References.collect (usingProgram.after namedImport) 2 [⟨"X", "a"⟩, ⟨"b", "b"⟩] =
        [("a", [⟨"X", 2, ⟨12, 13⟩⟩, ⟨"X", 2, ⟨14, 15⟩⟩]), ("b", [⟨"b", 2, ⟨10, 11⟩⟩])] ∧
      ∃ s s', FormsAgree isMacroName usingProgram namedImport destructuredRequire s s'
          ⟨[⟨"X", "a"⟩, ⟨"b", "b"⟩], 2⟩ ∧
        (usingProgram.after namedImport).remove s = (usingProgram, true) ∧
        (usingProgram.after destructuredRequire).remove s' = (usingProgram, true) := by
  have himport : IsImport ⟨⟨1, 9⟩, "s.macro"⟩ [⟨"a", ⟨"X", 2⟩⟩, ⟨"b", ⟨"b", 2⟩⟩] namedImport :=
    .intro (.cons (.named rfl rfl) (.cons (.short rfl rfl) .nil)) rfl
  have hrequire : IsRequire ⟨⟨1, 9⟩, "s.macro"⟩ [⟨"a", ⟨"X", 2⟩⟩, ⟨"b", ⟨"b", 2⟩⟩]
      destructuredRequire :=
    .intro (.cons (.keyed rfl rfl) (.cons (.short rfl rfl) .nil)) (by decide)
  have hforms : ∃ s s', s.key = ⟨⟨1, 9⟩, "s.macro"⟩ ∧ s'.key = ⟨⟨1, 9⟩, "s.macro"⟩ ∧
      FormsAgree isMacroName usingProgram namedImport destructuredRequire s s'
        ⟨[⟨"X", "a"⟩, ⟨"b", "b"⟩], 2⟩ :=
    forms_agree himport hrequire rfl (by decide) rfl (by decide)
  obtain ⟨s, s', -, -, hagree⟩ := hforms
  have hstatements : usingProgram.statements isMacroName = [] := rfl
  refine ⟨by decide, s, s', hagree, hagree.remove ?_, hagree.remove' (by decide)⟩
  rw [hstatements]
  exact nofun

end ImportMacros
