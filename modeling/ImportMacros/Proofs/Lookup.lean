import ImportMacros.Proofs.Collection

/-!
# ImportMacros.Proofs.Lookup

From an identifier back to the imported name. What is collected has an identifier under a name just
if the identifier is at the place of a use and stands for that name (`holds_collect_iff`). So no
other name has it, and to look for the first name that has it inverts the collection, whatever the
order of the names (`inverts_collect`).
-/

namespace ImportMacros
namespace References

/-- A name has a place with the name, the scope and the span of an identifier. -/
def Holds (refs : References) (name : String) (id : Ident) : Prop :=
  ∃ sites, (name, sites) ∈ refs ∧
    ∃ site ∈ sites, site.name = id.name ∧ site.scope = id.scope ∧ site.span = id.span

section Any

variable {refs refs' : References} {name : String} {id : Ident}

theorem holds_iff : refs.Holds name id ↔ ∃ sites, (name, sites) ∈ refs ∧ id.site ∈ sites := by
  constructor
  · rintro ⟨sites, hmem, site, hsite, hname, hscope, hspan⟩
    have heq : site = id.site := by
      rw [Ident.site, ← hname, ← hscope, ← hspan]
    exact ⟨sites, hmem, heq ▸ hsite⟩
  · rintro ⟨sites, hmem, hsite⟩
    exact ⟨sites, hmem, id.site, hsite, rfl, rfl, rfl⟩

theorem holds_of_importedName? (h : refs.importedName? id = some name) : refs.Holds name id := by
  obtain ⟨⟨own, sites⟩, hfind, rfl⟩ := Option.map_eq_some_iff.1 h
  have hcontains := List.find?_some hfind
  exact holds_iff.2 ⟨sites, List.mem_of_find?_eq_some hfind, List.contains_iff_mem.1 hcontains⟩

theorem contains_iff : refs.contains id = true ↔ ∃ name, refs.Holds name id := by
  rw [contains]
  constructor
  · intro h
    obtain ⟨name, hname⟩ := Option.isSome_iff_exists.1 h
    exact ⟨name, holds_of_importedName? hname⟩
  · rintro ⟨name, hholds⟩
    obtain ⟨sites, hmem, hsite⟩ := holds_iff.1 hholds
    rw [importedName?, Option.isSome_map, List.find?_isSome]
    exact ⟨(name, sites), hmem, List.contains_iff_mem.2 hsite⟩

theorem isUsed_iff : refs.isUsed = true ↔ ∃ id, refs.contains id = true := by
  rw [isUsed, List.any_eq_true]
  constructor
  · rintro ⟨⟨name, sites⟩, hmem, hsites⟩
    obtain ⟨site, hsite⟩ := List.exists_mem_of_ne_nil sites (by simpa using hsites)
    exact ⟨⟨site.name, site.scope, site.span, false⟩,
      contains_iff.2 ⟨name, sites, hmem, site, hsite, rfl, rfl, rfl⟩⟩
  · rintro ⟨id, hcontains⟩
    obtain ⟨name, hholds⟩ := contains_iff.1 hcontains
    obtain ⟨sites, hmem, hsite⟩ := holds_iff.1 hholds
    refine ⟨(name, sites), hmem, ?_⟩
    simpa using List.ne_nil_of_mem hsite

/-- Where only one name has an identifier, the first one that is found is that one. -/
theorem importedName?_eq_some_iff
    (hunique : ∀ other, refs.Holds name id → refs.Holds other id → other = name) :
    refs.importedName? id = some name ↔ refs.Holds name id := by
  refine ⟨holds_of_importedName?, fun hholds => ?_⟩
  obtain ⟨other, hother⟩ := Option.isSome_iff_exists.1 (contains_iff.2 ⟨name, hholds⟩)
  rw [hother, hunique other hholds (holds_of_importedName? hother)]

theorem holds_congr (h : refs'.Perm refs) : refs'.Holds name id ↔ refs.Holds name id := by
  simp only [Holds, h.mem_iff]

end Any

/-! ## What is collected -/

theorem toVariable_of_site {id twin : Ident} (h : twin.site = id.site) :
    twin.toVariable = id.toVariable := by
  simp only [Ident.site, Site.mk.injEq] at h
  simp [Ident.toVariable, h]

variable {p : Program} {scope : Nat} {bindings : List Binding} {name : String} {id : Ident}

/-- An identifier is collected under the name that it stands for, if one is used at its place. -/
theorem holds_collect_iff : (collect p scope bindings).Holds name id ↔
    (∃ twin ∈ p.uses, twin.site = id.site) ∧
      (standing? p scope bindings id.toVariable).map Binding.importedName = some name := by
  rw [holds_iff, collect_eq]
  constructor
  · rintro ⟨sites, hmem, hsite⟩
    obtain ⟨own, -, heq⟩ := List.mem_map.1 hmem
    cases heq
    obtain ⟨twin, htwin, htwinSite⟩ := List.mem_map.1 hsite
    obtain ⟨huse, hstands⟩ := List.mem_filter.1 htwin
    rw [toVariable_of_site htwinSite, beq_iff_eq] at hstands
    exact ⟨⟨twin, huse, htwinSite⟩, hstands⟩
  · rintro ⟨⟨twin, huse, htwinSite⟩, hstands⟩
    obtain ⟨binding, hstanding, rfl⟩ := Option.map_eq_some_iff.1 hstands
    refine ⟨_, List.mem_map_of_mem (importedName_mem_liveNames hstanding), ?_⟩
    refine List.mem_map.2 ⟨twin, List.mem_filter.2 ⟨huse, ?_⟩, htwinSite⟩
    rw [toVariable_of_site htwinSite, hstanding]
    exact beq_self_eq_true _

/-- To look up identifiers in what is collected for some bindings is to invert it. -/
structure Inverts (p : Program) (scope : Nat) (bindings : List Binding) (refs : References) :
    Prop where
  told : ∀ id name, refs.importedName? id = some name ↔ refs.Holds name id
  unique : ∀ id name name', refs.Holds name id → refs.Holds name' id → name = name'
  /-- The name is that of the last declared binding to the name of the identifier. -/
  standing : ∀ id name, refs.Holds name id → id.scope = scope ∧
    ∃ binding, standing? p scope bindings ⟨id.name, scope⟩ = some binding ∧
      binding.importedName = name
  anyOrder : ∀ id (refs' : References), refs'.Perm refs →
    refs'.importedName? id = refs.importedName? id
  contains : ∀ id, refs.contains id = true ↔ ∃ name, refs.Holds name id
  isUsed : refs.isUsed = true ↔ ∃ id, refs.contains id = true

theorem eq_of_holds_collect {name' : String} (h : (collect p scope bindings).Holds name id)
    (h' : (collect p scope bindings).Holds name' id) : name = name' :=
  Option.some.inj ((holds_collect_iff.1 h).2.symm.trans (holds_collect_iff.1 h').2)

theorem standing_of_holds_collect (h : (collect p scope bindings).Holds name id) :
    id.scope = scope ∧ ∃ binding, standing? p scope bindings ⟨id.name, scope⟩ = some binding ∧
      binding.importedName = name := by
  obtain ⟨binding, hstanding, hname⟩ := Option.map_eq_some_iff.1 (holds_collect_iff.1 h).2
  obtain ⟨-, -, hvariable⟩ := exists_of_standing? hstanding
  have hscope : id.scope = scope := congrArg Variable.scope hvariable
  refine ⟨hscope, binding, ?_, hname⟩
  rw [← hstanding, ← hscope]
  rfl

theorem importedName?_perm {refs : References} (h : refs.Perm (collect p scope bindings)) :
    refs.importedName? id = (collect p scope bindings).importedName? id := by
  refine Option.ext fun name => ?_
  rw [importedName?_eq_some_iff, importedName?_eq_some_iff, holds_congr h]
  · exact fun other hname hother => eq_of_holds_collect hother hname
  · intro other hname hother
    exact eq_of_holds_collect ((holds_congr h).1 hother) ((holds_congr h).1 hname)

theorem inverts_collect (p : Program) (scope : Nat) (bindings : List Binding) :
    Inverts p scope bindings (collect p scope bindings) where
  told _ _ := importedName?_eq_some_iff fun _ hname hother => eq_of_holds_collect hother hname
  unique _ _ _ := eq_of_holds_collect
  standing _ _ := standing_of_holds_collect
  anyOrder _ _ := importedName?_perm
  contains _ := contains_iff
  isUsed := isUsed_iff

/-- `a` is bound twice, and is told by its later name alone; `b` shares the span of `a`. -/
example :
    let a : Ident := ⟨"a", 2, ⟨9, 10⟩, false⟩
    let b : Ident := ⟨"b", 2, ⟨9, 10⟩, false⟩
    let refs := collect ⟨true, Span.none, .null, [.importOf ⟨⟨1, 2⟩, "m"⟩ a,
      .importOf ⟨⟨3, 4⟩, "m"⟩ b, .useOf a, .useOf b]⟩ 2 [⟨"a", "x"⟩, ⟨"b", "x"⟩, ⟨"a", "y"⟩]
    refs.importedName? a = some "y" ∧ refs.importedName? b = some "x" ∧
      refs.contains { a with scope := 3 } = false := by
  decide

end References
end ImportMacros
