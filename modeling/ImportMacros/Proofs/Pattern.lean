import ImportMacros.Text.Pattern

/-!
# ImportMacros.Proofs.Pattern

The ways in which a pattern fits, and what is made of them. Trying the ways one after the other
comes to the first of all ways with an answer (`before?_eq`). A run takes all characters of its
class first (`head?_runs`), also if none need be there (`head?_maybe_run`).

In a replaced text, a part that is fitted gives way to the new one (`replaceAll_of_fits`), and where
nothing is fitted a character stays (`replaceAll_of_ne`).
-/

namespace ImportMacros
namespace Text
namespace Pattern

variable {test : Char → Bool} {a rest : List Char}

/-! ## Ways -/

theorem beforeRun?_eq {α : Type} (test : Char → Bool) (next : List Char → Option α)
    (cs : List Char) :
    beforeRun? test next cs = (runs test cs).findSome? fun cut => next cut.2 := by
  induction cs with
  | nil => rfl
  | cons c cs ih =>
    by_cases hc : test c = true
    · simp [beforeRun?, runs, hc, ih, List.findSome?_append, List.findSome?_map,
        Function.comp_def]
    · simp [beforeRun?, runs, hc]

/-- The ways are tried in order of preference. -/
theorem before?_eq {α : Type} (p : Pattern) (next : List Char → Option α) (cs : List Char) :
    p.before? next cs = (p.cuts cs).findSome? fun cut => next cut.2 := by
  induction p generalizing next cs with
  | one test =>
    cases cs with
    | nil => rfl
    | cons c cs => by_cases hc : test c = true <;> simp [before?, cuts, hc]
  | run test => exact beforeRun?_eq test next cs
  | maybe p ih => simp [before?, cuts, ih, List.findSome?_append]
  | seq p q ihp ihq =>
    rw [before?, ihp, cuts]
    induction p.cuts cs with
    | nil => rfl
    | cons cut more ih =>
      have hcut : ((q.cuts cut.2).map fun next => (cut.1 ++ next.1, next.2)).findSome?
          (fun cut => next cut.2) = q.before? next cut.2 := by
        rw [ihq, List.findSome?_map]
        rfl
      rw [List.flatMap_cons, List.findSome?_append, hcut, ← ih, List.findSome?_cons]
      cases q.before? next cut.2 <;> rfl

/-- With nothing to follow, the first way counts. -/
theorem before?_some (p : Pattern) (cs : List Char) :
    p.before? some cs = (p.cuts cs).head?.map Prod.snd := by
  rw [before?_eq]
  cases p.cuts cs <;> rfl

theorem runs_eq_nil (h : ∀ c, rest.head? = some c → test c = false) : runs test rest = [] := by
  cases rest with
  | nil => rfl
  | cons c cs => simp [runs, h c rfl]

theorem head?_runs (ha : ∀ c ∈ a, test c = true) (hne : a ≠ [])
    (hrest : ∀ c, rest.head? = some c → test c = false) :
    (runs test (a ++ rest)).head? = some (a, rest) := by
  induction a with
  | nil => exact absurd rfl hne
  | cons c cs ih =>
    have hc : test c = true := ha c (by simp)
    by_cases hcs : cs = []
    · subst hcs
      simp [runs, hc, runs_eq_nil hrest]
    · have hlongest := ih (fun d hd => ha d (by simp [hd])) hcs
      simp [runs, hc, hlongest]

/-- All characters of the class are taken, also if there are none. -/
theorem head?_maybe_run (ha : ∀ c ∈ a, test c = true)
    (hrest : ∀ c, rest.head? = some c → test c = false) :
    (cuts (.maybe (.run test)) (a ++ rest)).head? = some (a, rest) := by
  by_cases hne : a = []
  · subst hne
    simp [cuts, runs_eq_nil hrest]
  · simp [cuts, List.head?_append, head?_runs ha hne hrest]

theorem cuts_run_one {stop : Char} (ha : ∀ c ∈ a, test c = true) (hne : a ≠ [])
    (hstop : stop ∉ a) (hrest : ∀ c, rest.head? = some c → test c = false) :
    cuts (.seq (.run test) (.one (· == stop))) (a ++ rest) =
      if rest.head? = some stop then [(a ++ [stop], rest.tail)] else [] := by
  induction a with
  | nil => exact absurd rfl hne
  | cons c cs ih =>
    have hc : test c = true := ha c (by simp)
    have hcons : cuts (.seq (.run test) (.one (· == stop))) (c :: cs ++ rest) =
        (cuts (.seq (.run test) (.one (· == stop))) (cs ++ rest)).map
            (fun cut => (c :: cut.1, cut.2)) ++
          (cuts (.one (· == stop)) (cs ++ rest)).map fun next => (c :: next.1, next.2) := by
      simp [cuts, runs, hc, List.flatMap_map, List.map_flatMap, Function.comp_def]
    rw [hcons]
    cases cs with
    | nil =>
      have hnone : cuts (.seq (.run test) (.one (· == stop))) rest = [] := by
        simp [cuts, runs_eq_nil hrest]
      rw [List.nil_append, hnone]
      cases rest with
      | nil => rfl
      | cons d ds => by_cases hd : d = stop <;> simp [cuts, hd]
    | cons d ds =>
      have hd : d ≠ stop := by
        rintro rfl
        exact hstop (by simp)
      have hcs := ih (fun d hd => ha d (by simp [hd])) (by simp) (fun h => hstop (by simp [h]))
      rw [hcs]
      by_cases hhead : rest.head? = some stop <;> simp [hhead, cuts, hd]

theorem head?_seq_maybe (p q : Pattern) (cs : List Char) :
    (cuts (.seq (.maybe p) q) cs).head? = (cuts (.seq p q) cs).head?.or (cuts q cs).head? := by
  simp [cuts, List.head?_append, List.flatMap_append]

/-- A tail that fits all that is left leaves the group. -/
theorem keep_eq {group : Pattern} {text : List Char}
    (h : (group.cuts text).head? = some (a, rest)) (hrest : ∀ c ∈ rest, test c = true) :
    keep group (.maybe (.run test)) text = a := by
  obtain ⟨more, hcuts⟩ := List.head?_eq_some_iff.1 h
  have htail : (cuts (.maybe (.run test)) (rest ++ [])).head? = some (rest, []) :=
    head?_maybe_run hrest nofun
  rw [List.append_nil] at htail
  simp [keep, hcuts, htail]

/-! ## Replaced texts -/

section Replaced

variable {p : Pattern} {new : List Char}

/-- What is replaced already is skipped. -/
theorem replaceFrom_append (p : Pattern) (new a rest : List Char) :
    replaceFrom p new a.length (a ++ rest) = p.replaceAll new rest := by
  induction a with
  | nil => rfl
  | cons c cs ih => exact ih

theorem replaceAll_of_fits {c : Char} (h : p.before? some (c :: a ++ rest) = some rest) :
    p.replaceAll new (c :: a ++ rest) = new ++ p.replaceAll new rest := by
  rw [List.cons_append] at h
  have hlength : (a ++ rest).length - rest.length = a.length := by simp
  rw [replaceAll, List.cons_append, replaceFrom, h]
  simp only
  rw [if_pos (by simp), hlength, replaceFrom_append]

theorem replaceAll_of_ne {c : Char} {cs : List Char} (h : p.before? some (c :: cs) = none) :
    p.replaceAll new (c :: cs) = c :: p.replaceAll new cs := by
  rw [replaceAll, replaceFrom, h]
  rfl

end Replaced

end Pattern
end Text
end ImportMacros
