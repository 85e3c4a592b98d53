import Mathlib.Data.List.Induction
import ImportMacros.Proofs.Occurrence
import ImportMacros.References

/-!
# ImportMacros.Proofs.Collection

What is collected for some bindings, in closed form. The names are those of the live bindings, the
ones that the program declares, each where it comes first. A use goes to the name of its `standing?`
binding, the last live one for its variable, and the uses of a name keep their order
(`collect_eq`). Told by addresses in the program (`Exact`, `exact_collect`), that leaves nothing
out and adds nothing.
-/

namespace ImportMacros
namespace References

/-- Some names, each with its places. -/
def spread (names : List String) (sites : String → List Site) : References :=
  names.map fun name => (name, sites name)

def isLive (declared : List Variable) (scope : Nat) (binding : Binding) : Bool :=
  declared.contains ⟨binding.localName, scope⟩

/-- The last live binding of a variable. -/
def standing? (p : Program) (scope : Nat) (bindings : List Binding) (v : Variable) :
    Option Binding :=
  (bindings.filter fun binding =>
    isLive p.declared scope binding && (⟨binding.localName, scope⟩ : Variable) == v).getLast?

/-- The imported names of live bindings, each where it comes first. -/
def liveNames (p : Program) (scope : Nat) (bindings : List Binding) : List String :=
  ((bindings.filter (isLive p.declared scope)).map Binding.importedName).eraseDups

/-! ## Names without repetition -/

theorem eraseDups_concat (names : List String) (name : String) :
    (names ++ [name]).eraseDups =
      if name ∈ names then names.eraseDups else names.eraseDups ++ [name] := by
  rw [List.eraseDups_append]
  by_cases h : name ∈ names
  · have hnone : [name].removeAll names = [] := by simp [List.removeAll, h]
    rw [if_pos h, hnone]
    exact List.append_nil _
  · have hone : [name].removeAll names = [name] := by simp [List.removeAll, h]
    rw [if_neg h, hone]
    rfl

theorem nodup_eraseDups (names : List String) : names.eraseDups.Nodup := by
  induction names using List.reverseRecOn with
  | nil => exact .nil
  | append_singleton front name ih =>
    rw [eraseDups_concat]
    split
    · exact ih
    · rename_i h
      rw [List.nodup_append]
      refine ⟨ih, List.pairwise_singleton _ _, ?_⟩
      intro n hn m hm heq
      rw [List.mem_singleton.1 hm] at heq
      exact h (heq ▸ List.mem_eraseDups.1 hn)

theorem touch_spread (names : List String) (name : String) :
    (spread names fun _ => []).touch name =
      if name ∈ names then spread names fun _ => [] else spread (names ++ [name]) fun _ => [] := by
  induction names with
  | nil => rfl
  | cons n rest ih =>
    rw [spread, List.map_cons, touch]
    by_cases hn : n = name
    · simp [hn]
    · have hne : name ≠ n := Ne.symm hn
      simp only [spread] at ih
      rw [if_neg hn, ih]
      by_cases hrest : name ∈ rest
      · simp [hrest]
      · simp [hrest, hne, spread]

theorem touch_spread_eraseDups (names : List String) (name : String) :
    (spread names.eraseDups fun _ => []).touch name =
      spread (names ++ [name]).eraseDups fun _ => [] := by
  rw [touch_spread, eraseDups_concat]
  by_cases h : name ∈ names
  · rw [if_pos (List.mem_eraseDups.2 h), if_pos h]
  · rw [if_neg (fun hmem => h (List.mem_eraseDups.1 hmem)), if_neg h]

/-! ## Which variable stands for which name -/

/-- What the live bindings enter, in the order in which it is looked up. -/
theorem enter_eq (declared : List Variable) (scope : Nat) (names : List String) (known : Scope)
    (bindings : List Binding) :
    let live := bindings.filter (isLive declared scope)
    enter declared scope (spread names.eraseDups fun _ => []) known bindings =
      (spread (names ++ live.map Binding.importedName).eraseDups fun _ => [],
        (live.map fun binding => (⟨binding.localName, scope⟩, binding.importedName)).reverse ++
          known) := by
  induction bindings generalizing names known with
  | nil => simp [enter]
  | cons binding rest ih =>
    rw [enter]
    cases hlive : isLive declared scope binding with
    | true =>
      have hcontains : declared.contains ⟨binding.localName, scope⟩ = true := hlive
      rw [if_pos hcontains, touch_spread_eraseDups, ih]
      simp [hlive]
    | false =>
      have hcontains : declared.contains ⟨binding.localName, scope⟩ = false := hlive
      rw [hcontains, if_neg Bool.false_ne_true, ih]
      simp [hlive]

theorem lookup_reverse (known : Scope) (v : Variable) :
    List.lookup v known.reverse =
      ((known.filter fun entry => entry.1 == v).getLast?).map Prod.snd := by
  induction known with
  | nil => rfl
  | cons entry rest ih =>
    obtain ⟨w, name⟩ := entry
    have hlast : List.lookup v [(w, name)] = if w = v then some name else none := by
      rw [List.lookup_cons]
      by_cases hw : w = v
      · simp [hw]
      · simp [hw, beq_eq_false_iff_ne.2 (Ne.symm hw)]
    rw [List.reverse_cons, List.lookup_append, ih, hlast, List.filter_cons]
    by_cases hw : w = v
    · rw [if_pos hw, if_pos (beq_iff_eq.2 hw), List.getLast?_cons]
      cases (rest.filter fun entry => entry.1 == v).getLast? <;> rfl
    · rw [if_neg hw, if_neg (fun h => hw (eq_of_beq h)), Option.or_none]

theorem lookup_enter (p : Program) (scope : Nat) (bindings : List Binding) (v : Variable) :
    List.lookup v (enter p.declared scope [] [] bindings).2 =
      (standing? p scope bindings v).map Binding.importedName := by
  have henter := enter_eq p.declared scope [] [] bindings
  simp only [List.eraseDups_nil, spread, List.map_nil, List.nil_append] at henter
  have hboth : (bindings.filter (isLive p.declared scope)).filter (fun binding =>
      (⟨binding.localName, scope⟩ : Variable) == v) = bindings.filter fun binding =>
        isLive p.declared scope binding && (⟨binding.localName, scope⟩ : Variable) == v := by
    rw [List.filter_filter]
    refine List.filter_congr ?_
    intro binding _
    exact Bool.and_comm _ _
  rw [henter, List.append_nil, lookup_reverse, List.filter_map, List.getLast?_map, Option.map_map,
    standing?, ← hboth]
  rfl

theorem exists_of_standing? {p : Program} {scope : Nat} {bindings : List Binding} {v : Variable}
    {binding : Binding} (h : standing? p scope bindings v = some binding) :
    binding ∈ bindings ∧ isLive p.declared scope binding = true ∧
      v = ⟨binding.localName, scope⟩ := by
  have hmem := List.mem_of_getLast? h
  obtain ⟨hbinding, htest⟩ := List.mem_filter.1 hmem
  rw [Bool.and_eq_true] at htest
  exact ⟨hbinding, htest.1, (eq_of_beq htest.2).symm⟩

theorem importedName_mem_liveNames {p : Program} {scope : Nat} {bindings : List Binding}
    {v : Variable} {binding : Binding} (h : standing? p scope bindings v = some binding) :
    binding.importedName ∈ liveNames p scope bindings := by
  obtain ⟨hbinding, hlive, -⟩ := exists_of_standing? h
  rw [liveNames, List.mem_eraseDups]
  exact List.mem_map_of_mem (List.mem_filter.2 ⟨hbinding, hlive⟩)

/-! ## Uses by name -/

theorem add_spread {names : List String} (hnodup : names.Nodup) {name : String}
    (hname : name ∈ names) (sites : String → List Site) (site : Site) :
    (spread names sites).add name site =
      spread names fun n => if n = name then sites n ++ [site] else sites n := by
  induction names with
  | nil => cases hname
  | cons n rest ih =>
    obtain ⟨hn, hrest⟩ := List.nodup_cons.1 hnodup
    rw [spread, List.map_cons, add]
    by_cases heq : n = name
    · subst heq
      have hsame : rest.map (fun m => (m, if m = n then sites m ++ [site] else sites m)) =
          rest.map fun m => (m, sites m) := by
        refine List.map_congr_left ?_
        intro m hm
        have hne : m ≠ n := fun h => hn (h ▸ hm)
        rw [if_neg hne]
      simp [spread, hsame]
    · have hmem : name ∈ rest := (List.mem_cons.1 hname).resolve_left (Ne.symm heq)
      have hih := ih hrest hmem
      simp only [spread] at hih
      rw [if_neg heq, hih]
      simp [spread, heq]

/-- Recording appends to each name the places of the identifiers that stand for it. -/
theorem record_spread {names : List String} (hnodup : names.Nodup) {known : Scope}
    (hknown : ∀ v name, List.lookup v known = some name → name ∈ names)
    (sites : String → List Site) (ids : List Ident) :
    record known (spread names sites) ids =
      spread names fun name => sites name ++
        (ids.filter fun id => List.lookup id.toVariable known == some name).map Ident.site := by
  induction ids generalizing sites with
  | nil => simp [record]
  | cons id rest ih =>
    rw [record]
    cases hlookup : List.lookup id.toVariable known with
    | none =>
      rw [ih]
      simp [hlookup]
    | some name =>
      simp only [add_spread hnodup (hknown _ _ hlookup), ih]
      congr 1
      funext n
      by_cases hn : n = name
      · subst hn
        simp [hlookup]
      · simp [hlookup, hn, Ne.symm hn]

/-- What is collected: the live names, and for each of them the uses of the variables whose last
live binding has that name. -/
theorem collect_eq (p : Program) (scope : Nat) (bindings : List Binding) :
    collect p scope bindings =
      spread (liveNames p scope bindings) fun name =>
        (p.uses.filter fun id =>
          (standing? p scope bindings id.toVariable).map Binding.importedName == some name).map
          Ident.site := by
  have henter := enter_eq p.declared scope [] [] bindings
  have hnames : (enter p.declared scope [] [] bindings).1 =
      spread (liveNames p scope bindings) fun _ => [] := by
    simp only [List.eraseDups_nil, spread, List.map_nil, List.nil_append] at henter
    rw [henter]
    rfl
  have hknown : ∀ v name, List.lookup v (enter p.declared scope [] [] bindings).2 = some name →
      name ∈ liveNames p scope bindings := by
    intro v name hlookup
    rw [lookup_enter, Option.map_eq_some_iff] at hlookup
    obtain ⟨binding, hstanding, rfl⟩ := hlookup
    exact importedName_mem_liveNames hstanding
  have hnodup : (liveNames p scope bindings).Nodup := nodup_eraseDups _
  have hrecord := record_spread hnodup hknown (fun _ => []) p.uses
  rw [collect]
  simp only [hnames]
  rw [hrecord]
  simp only [lookup_enter, List.nil_append]

/-! ## By address -/

/-- The uses of a program that stand for a live binding, with their addresses. -/
def found (p : Program) (scope : Nat) (bindings : List Binding) : List (Address × Ident) :=
  p.tree.occurrences.filter fun o => (standing? p scope bindings o.2.toVariable).isSome

/-- `places` are the uses of some bindings in a program, and `refs` is what they come to. -/
structure Exact (p : Program) (scope : Nat) (bindings : List Binding) (refs : References)
    (places : List (Address × Ident)) : Prop where
  names : refs.map Prod.fst = liveNames p scope bindings
  distinct : (refs.map Prod.fst).Nodup
  inOrder : places.Pairwise fun o o' => o.1 < o'.1
  /-- The uses are the identifiers with a live binding that are inside no binding identifier, no
  declaration of imports and no closing tag. -/
  mem : ∀ a id, (a, id) ∈ places ↔
    p.tree.at? a = some (.use id) ∧ p.tree.IsOpen a ∧
      ∃ binding ∈ bindings, isLive p.declared scope binding = true ∧
        id.toVariable = ⟨binding.localName, scope⟩
  standing : ∀ a id, (a, id) ∈ places → ∃ binding,
    standing? p scope bindings id.toVariable = some binding ∧
      binding.importedName ∈ refs.map Prod.fst
  /-- A name has its uses in that order, and nothing else. -/
  sites : ∀ name sites, (name, sites) ∈ refs → sites =
    (places.filter fun o =>
      (standing? p scope bindings o.2.toVariable).map Binding.importedName == some name).map
      fun o => o.2.site

theorem isSome_standing? {p : Program} {scope : Nat} {bindings : List Binding} {v : Variable} :
    (standing? p scope bindings v).isSome = true ↔
      ∃ binding ∈ bindings, isLive p.declared scope binding = true ∧
        v = ⟨binding.localName, scope⟩ := by
  constructor
  · intro h
    obtain ⟨binding, hstanding⟩ := Option.isSome_iff_exists.1 h
    exact ⟨binding, exists_of_standing? hstanding⟩
  · rintro ⟨binding, hbinding, hlive, rfl⟩
    rw [standing?, List.getLast?_isSome]
    refine List.ne_nil_of_mem (a := binding) (List.mem_filter.2 ⟨hbinding, ?_⟩)
    simp [hlive]

theorem mem_found {p : Program} {scope : Nat} {bindings : List Binding} {a : Address}
    {id : Ident} :
    (a, id) ∈ found p scope bindings ↔ p.tree.at? a = some (.use id) ∧ p.tree.IsOpen a ∧
      (standing? p scope bindings id.toVariable).isSome = true := by
  rw [found, List.mem_filter, Tree.mem_occurrences, and_assoc]

theorem map_fst_spread (names : List String) (sites : String → List Site) :
    (spread names sites).map Prod.fst = names := by
  rw [spread, List.map_map]
  exact List.map_id names

theorem exact_collect (p : Program) (scope : Nat) (bindings : List Binding) :
    Exact p scope bindings (collect p scope bindings) (found p scope bindings) := by
  have hnames : (collect p scope bindings).map Prod.fst = liveNames p scope bindings := by
    rw [collect_eq, map_fst_spread]
  refine {
    names := hnames
    distinct := hnames ▸ nodup_eraseDups _
    inOrder := (Tree.pairwise_occurrences p.tree).filter _
    mem := ?_
    standing := ?_
    sites := ?_ }
  · intro a id
    rw [mem_found, isSome_standing?]
  · intro a id hmem
    obtain ⟨binding, hstanding⟩ := Option.isSome_iff_exists.1 (mem_found.1 hmem).2.2
    exact ⟨binding, hstanding, hnames ▸ importedName_mem_liveNames hstanding⟩
  · intro name sites hmem
    rw [collect_eq] at hmem
    obtain ⟨n, -, heq⟩ := List.mem_map.1 hmem
    cases heq
    -- A use that stands for the name stands for something, so it is among those found.
    have hfilter : (p.tree.occurrences.filter fun o =>
        (standing? p scope bindings o.2.toVariable).map Binding.importedName == some name) =
        (found p scope bindings).filter fun o =>
          (standing? p scope bindings o.2.toVariable).map Binding.importedName == some name := by
      rw [found, List.filter_filter]
      refine List.filter_congr ?_
      intro o _
      cases standing? p scope bindings o.2.toVariable <;> simp
    have huses := p.map_snd_occurrences_tree
    simp only [← huses, ← hfilter, List.filter_map, List.map_map]
    rfl

/-- `a` and `b` are bound to one export and `a` is bound again, `c` is not declared. -/
example :
    let a : Ident := ⟨"a", 2, ⟨7, 8⟩, false⟩
    let b : Ident := ⟨"b", 2, ⟨9, 10⟩, false⟩
    collect ⟨true, Span.none, .null, [.importOf ⟨⟨1, 2⟩, "m"⟩ a, .importOf ⟨⟨3, 4⟩, "m"⟩ b,
        .useOf b, .useOf a, .useOf b]⟩ 2 [⟨"a", "x"⟩, ⟨"b", "x"⟩, ⟨"c", "z"⟩, ⟨"a", "y"⟩] =
      [("x", [b.site, b.site]), ("y", [a.site])] := by
  decide

end References
end ImportMacros
