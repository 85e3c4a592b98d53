import ImportMacros.Proofs.Collection

/-!
# ImportMacros.Proofs.Usage

When the bindings of a statement are used: some identifier that is used stands for a binding that
is declared (`isUsed_collect`). The order of the bindings, repeated names among them and the
grouping of the places by name make no difference to that, and a program that uses and declares
less uses no binding that was unused before (`isUsed_collect_of_subset`).
-/

namespace ImportMacros
namespace References

theorem isUsed_spread (names : List String) (sites : String → List Site) :
    isUsed (spread names sites) = true ↔ ∃ name ∈ names, sites name ≠ [] := by
  simp [isUsed, spread, List.any_map]

/-- Bindings are used if some identifier stands for a declared one of them. -/
theorem isUsed_collect (p : Program) (scope : Nat) (bindings : List Binding) :
    isUsed (collect p scope bindings) = true ↔
      ∃ id ∈ p.uses, ∃ binding ∈ bindings,
        id.toVariable = ⟨binding.localName, scope⟩ ∧ id.toVariable ∈ p.declared := by
  rw [collect_eq, isUsed_spread]
  constructor
  · rintro ⟨name, -, hsites⟩
    obtain ⟨site, hsite⟩ := List.exists_mem_of_ne_nil _ hsites
    obtain ⟨id, hid, -⟩ := List.mem_map.1 hsite
    obtain ⟨huse, hname⟩ := List.mem_filter.1 hid
    obtain ⟨binding, hstanding, -⟩ := Option.map_eq_some_iff.1 (eq_of_beq hname)
    obtain ⟨hbinding, hlive, hvariable⟩ := exists_of_standing? hstanding
    have hdeclared : (⟨binding.localName, scope⟩ : Variable) ∈ p.declared :=
      List.contains_iff_mem.1 hlive
    exact ⟨id, huse, binding, hbinding, hvariable, hvariable ▸ hdeclared⟩
  · rintro ⟨id, huse, binding, hbinding, hvariable, hdeclared⟩
    have hlive : isLive p.declared scope binding = true :=
      List.contains_iff_mem.2 (hvariable ▸ hdeclared)
    have hsome : (standing? p scope bindings id.toVariable).isSome = true :=
      isSome_standing?.2 ⟨binding, hbinding, hlive, hvariable⟩
    obtain ⟨standing, hstanding⟩ := Option.isSome_iff_exists.1 hsome
    refine ⟨standing.importedName, importedName_mem_liveNames hstanding, ?_⟩
    have hmem : id ∈ p.uses.filter fun id =>
        (standing? p scope bindings id.toVariable).map Binding.importedName ==
          some standing.importedName :=
      List.mem_filter.2 ⟨huse, by simp [hstanding]⟩
    exact List.ne_nil_of_mem (List.mem_map_of_mem hmem)

/-- Bindings that are unused stay so in a program that uses and declares less. -/
theorem isUsed_collect_of_subset {p q : Program} (huses : q.uses ⊆ p.uses)
    (hdeclared : q.declared ⊆ p.declared) {scope : Nat} {bindings : List Binding}
    (h : isUsed (collect p scope bindings) = false) :
    isUsed (collect q scope bindings) = false := by
  rw [Bool.eq_false_iff, ne_eq, isUsed_collect] at h ⊢
  rintro ⟨id, hid, binding, hbinding, hvariable, hmem⟩
  exact h ⟨id, huses hid, binding, hbinding, hvariable, hdeclared hmem⟩

end References
end ImportMacros
