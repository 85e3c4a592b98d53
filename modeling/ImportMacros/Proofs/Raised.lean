import ImportMacros.Proofs.Pattern
import ImportMacros.Proofs.Phases

/-!
# ImportMacros.Proofs.Raised

What becomes of the error that a macro raises (`run_raised`). A message of the macro's author ends
the expansion as it is, however much context was added to it. Any other error is told by the source
and the outermost text, and unless the source is a relative path, by the package to read about.

The package comes out of a pattern that tries a scope first and does without it if nothing follows.
Told by the segments between the slashes of a source (`packageName_eq`), that is the first two of
them if the first is a scope and the second is not empty, and else the first alone.
-/

namespace ImportMacros

/-! ## Packages -/

namespace Failure

open Text (Pattern)

/-- The package of a source, told by the segments of the source. -/
def packageOf : List (List Char) → List Char
  | ('@' :: c :: scope) :: (d :: name) :: _ => '@' :: c :: scope ++ '/' :: d :: name
  | first :: _ => first
  | [] => []

/-- No segment goes on in this text: a slash comes first, or nothing. -/
def StartsNoSegment (rest : List Char) : Prop := ∀ c, rest.head? = some c → (c != '/') = false

variable {source a b rest : List Char}

theorem startsNoSegment_nil : StartsNoSegment [] := nofun

theorem startsNoSegment_slash (r : List Char) : StartsNoSegment ('/' :: r) := by
  rintro c ⟨⟩
  rfl

theorem exists_segment (source : List Char) : ∃ a rest, source = a ++ rest ∧ '/' ∉ a ∧
    (rest = [] ∧ source.splitOn '/' = [a] ∨
      ∃ r, rest = '/' :: r ∧ source.splitOn '/' = a :: r.splitOn '/') := by
  by_cases hslash : '/' ∈ source
  · obtain ⟨a, r, rfl, ha⟩ := List.eq_append_cons_of_mem hslash
    exact ⟨a, '/' :: r, rfl, ha, .inr ⟨r, rfl, List.splitOn_append_cons_self_of_not_mem ha r⟩⟩
  · exact ⟨source, [], (List.append_nil source).symm, hslash,
      .inl ⟨rfl, List.splitOn_eq_singleton hslash⟩⟩

theorem exists_first_segment (source : List Char) : ∃ a rest more, source = a ++ rest ∧ '/' ∉ a ∧
    StartsNoSegment rest ∧ source.splitOn '/' = a :: more := by
  obtain ⟨a, rest, hsource, ha, ⟨rfl, hsplit⟩ | ⟨r, rfl, hsplit⟩⟩ := exists_segment source
  · exact ⟨a, [], [], hsource, ha, startsNoSegment_nil, hsplit⟩
  · exact ⟨a, '/' :: r, _, hsource, ha, startsNoSegment_slash r, hsplit⟩

theorem bne_of_notMem (ha : '/' ∉ a) : ∀ c ∈ a, (c != '/') = true := by
  intro c hc
  have hne : c ≠ '/' := fun heq => ha (heq ▸ hc)
  simpa using hne

theorem head?_segment (ha : '/' ∉ a) (hne : a ≠ []) (hrest : StartsNoSegment rest) :
    (segment.cuts (a ++ rest)).head? = some (a, rest) :=
  Pattern.head?_runs (bne_of_notMem ha) hne hrest

theorem cuts_segment_eq_nil (hrest : StartsNoSegment rest) : segment.cuts rest = [] :=
  Pattern.runs_eq_nil hrest

/-- After an `@` a scope goes on with a segment and a slash. -/
theorem cuts_scope_at (cs : List Char) :
    scope.cuts ('@' :: cs) = ((Pattern.seq segment (.one (· == '/'))).cuts cs).map
      fun cut => ('@' :: cut.1, cut.2) := by
  simp [scope, Pattern.cuts]

theorem cuts_scope {c : Char} (ha : '/' ∉ c :: a) (hrest : StartsNoSegment rest) :
    scope.cuts ('@' :: c :: a ++ rest) =
      if rest.head? = some '/' then [('@' :: c :: a ++ ['/'], rest.tail)] else [] := by
  have hcuts := Pattern.cuts_run_one (bne_of_notMem ha) (by simp) ha hrest
  rw [List.cons_append, cuts_scope_at, segment, hcuts]
  split <;> rfl

theorem cuts_scope_eq_nil (hscope : ∀ c cs, a ≠ '@' :: c :: cs) (hrest : StartsNoSegment rest) :
    scope.cuts (a ++ rest) = [] := by
  have hnone : ∀ c cs, c ≠ '@' → scope.cuts (c :: cs) = [] := by
    intro c cs hc
    simp [scope, Pattern.cuts, hc]
  cases a with
  | nil =>
    cases rest with
    | nil => rfl
    | cons c cs =>
      have hc : c = '/' := by simpa using hrest c rfl
      exact hnone c cs (by simp [hc])
  | cons c cs =>
    by_cases hc : c = '@'
    · subst hc
      cases cs with
      | nil => simp [cuts_scope_at, Pattern.cuts, cuts_segment_eq_nil hrest]
      | cons d ds => exact absurd rfl (hscope d ds)
    · exact hnone c (cs ++ rest) hc

/-- The first two segments, if the first is a scope and the second is not empty. -/
theorem head?_packagePattern_of_scope {c d : Char} (ha : '/' ∉ c :: a) (hb : '/' ∉ d :: b)
    (hrest : StartsNoSegment rest) :
    (packagePattern.cuts ('@' :: c :: a ++ '/' :: (d :: b ++ rest))).head? =
      some ('@' :: c :: a ++ '/' :: d :: b, rest) := by
  have hscope := cuts_scope ha (startsNoSegment_slash (d :: b ++ rest))
  obtain ⟨more, hsegment⟩ := List.head?_eq_some_iff.1 (head?_segment hb (by simp) hrest)
  have hfirst : (Pattern.seq scope segment).cuts ('@' :: c :: a ++ '/' :: (d :: b ++ rest)) =
      ((d :: b, rest) :: more).map fun next => ('@' :: c :: a ++ ['/'] ++ next.1, next.2) := by
    rw [Pattern.cuts, hscope, List.head?_cons, if_pos rfl, List.flatMap_singleton, List.tail_cons,
      hsegment]
  rw [packagePattern, Pattern.head?_seq_maybe, hfirst]
  simp

/-- Otherwise the first segment: there is no scope, or the segment after it is empty. -/
theorem head?_packagePattern_of_ne (ha : '/' ∉ a) (hne : a ≠ []) (hrest : StartsNoSegment rest)
    (hscope : (∀ c cs, a ≠ '@' :: c :: cs) ∨ StartsNoSegment rest.tail) :
    (packagePattern.cuts (a ++ rest)).head? = some (a, rest) := by
  have hnone : (Pattern.seq scope segment).cuts (a ++ rest) = [] := by
    by_cases h : ∃ c cs, a = '@' :: c :: cs
    · obtain ⟨c, cs, rfl⟩ := h
      have htail := hscope.resolve_left fun h => h c cs rfl
      have ha' : '/' ∉ c :: cs := fun hmem => ha (List.mem_cons_of_mem _ hmem)
      rw [Pattern.cuts, cuts_scope ha' hrest]
      split
      · simp [cuts_segment_eq_nil htail]
      · rfl
    · have h' : ∀ c cs, a ≠ '@' :: c :: cs := fun c cs heq => h ⟨c, cs, heq⟩
      rw [Pattern.cuts, cuts_scope_eq_nil h' hrest, List.flatMap_nil]
  rw [packagePattern, Pattern.head?_seq_maybe, hnone, head?_segment ha hne hrest]
  rfl

theorem packageName_of_head? (hline : '\n' ∉ source)
    (h : (packagePattern.cuts source).head? = some (a, rest)) (hsource : source = a ++ rest) :
    packageName source = a := by
  refine Pattern.keep_eq h fun c hc => ?_
  have hmem : c ∈ source := hsource ▸ List.mem_append_right a hc
  have hne : c ≠ '\n' := fun heq => hline (heq ▸ hmem)
  simpa using hne

theorem packageOf_of_ne (hscope : ∀ c cs, a ≠ '@' :: c :: cs) (more : List (List Char)) :
    packageOf (a :: more) = a := by
  unfold packageOf
  split
  · rename_i heq
    cases heq
    exact absurd rfl (hscope _ _)
  · rename_i heq
    cases heq
    rfl
  · rename_i heq
    cases heq

theorem packageName_eq (hline : '\n' ∉ source) (hroot : source.head? ≠ some '/') :
    packageName source = packageOf (source.splitOn '/') := by
  obtain ⟨a, rest, hsource, ha, ⟨rfl, hsplit⟩ | ⟨r, rfl, hsplit⟩⟩ := exists_segment source
  · have hone : packageOf [a] = a := by simp [packageOf]
    rw [hsplit, hone]
    by_cases hne : a = []
    · subst hne
      rw [hsource]
      rfl
    · refine packageName_of_head? hline ?_ hsource
      rw [hsource]
      exact head?_packagePattern_of_ne ha hne startsNoSegment_nil (.inr startsNoSegment_nil)
  · have hne : a ≠ [] := by
      rintro rfl
      exact hroot (by rw [hsource]; rfl)
    have hslash := startsNoSegment_slash r
    rw [hsplit]
    by_cases h : ∃ c cs, a = '@' :: c :: cs
    · obtain ⟨c, cs, rfl⟩ := h
      obtain ⟨b, rest, more, rfl, hb, hrest, hsplit⟩ := exists_first_segment r
      rw [hsplit]
      cases b with
      | nil =>
        refine packageName_of_head? hline ?_ hsource
        rw [hsource]
        exact head?_packagePattern_of_ne ha hne hslash (.inr hrest)
      | cons d ds =>
        have ha' : '/' ∉ c :: cs := fun hmem => ha (List.mem_cons_of_mem _ hmem)
        have hhead := head?_packagePattern_of_scope ha' hb hrest
        have hname : packageOf (('@' :: c :: cs) :: (d :: ds) :: more) =
            '@' :: c :: cs ++ '/' :: d :: ds := rfl
        rw [hname]
        rw [← hsource] at hhead
        exact packageName_of_head? hline hhead (by simp [hsource])
    · have hscope : ∀ c cs, a ≠ '@' :: c :: cs := fun c cs heq => h ⟨c, cs, heq⟩
      rw [packageOf_of_ne hscope]
      refine packageName_of_head? hline ?_ hsource
      rw [hsource]
      exact head?_packagePattern_of_ne ha hne hslash (.inl hscope)

/-- A scope with nothing after it is a package of its own. -/
example : ["@a/b/c", "@a", "@a/", "@/x", "@a//b", "a/b"].map
      (fun source => String.ofList (packageName source.toList)) =
    ["@a/b", "@a", "@a", "@", "@a", "a"] := by
  decide

/-! ## Wording -/

/-- What is added to the failure of a macro: nothing for a relative path, and else where to read
about its package. -/
structure IsLink (source link : String) : Prop where
  relative : source.toList.head? = some '.' → link = ""
  package : source.toList.head? ≠ some '.' →
    ∃ package, link = " Learn more: https://www.npmjs.com/package/" ++ package ∧
      ('\n' ∉ source.toList → source.toList.head? ≠ some '/' →
        package.toList = packageOf (source.toList.splitOn '/'))

theorem isLink_learnMore (source : String) : IsLink source (learnMore source) := by
  constructor
  · intro hrelative
    exact if_pos hrelative
  · intro hrelative
    refine ⟨_, if_neg hrelative, ?_⟩
    intro hline hroot
    rw [String.toList_ofList, packageName_eq hline hroot]

/-- How an error is told that a macro from `source` has raised, with `layers` of context around its
cause, the outermost first. -/
structure Tells (source : String) (layers : List String) (cause : Cause) (failure : Failure) :
    Prop where
  advice : ∀ text, cause = .advice text →
    failure = .advice text ∧ failure.message? = some text
  fault : ∀ text, cause = .fault text → failure = .macroFailed source ⟨layers, cause⟩ ∧
    ∃ link, failure.message? = some (source ++ ": " ++ layers.headD text ++ link) ∧
      IsLink source link

theorem tells_ofRaised (source : String) (layers : List String) (cause : Cause) :
    Tells source layers cause (.ofRaised source ⟨layers, cause⟩) := by
  constructor
  · rintro text rfl
    exact ⟨rfl, rfl⟩
  · rintro text rfl
    refine ⟨rfl, learnMore source, ?_, isLink_learnMore source⟩
    cases layers <;> rfl

end Failure

/-! ## Runs -/

namespace Expansion

variable {setting : Setting} {file : Option Path} {start st : State} {turns : List Turn}
  {s : Statement} {phase : Phase} {failure : Failure} {found : Target} {config : Option Fields}
  {layers : List String} {cause : Cause}

theorem Steps.run_eq (h : Steps setting file start turns st) (limit : Nat) :
    run setting file (turns.length + limit) start = run setting file limit st := by
  induction h with
  | refl => rw [List.length_nil, Nat.zero_add]
  | cons hs hhandle _ ih =>
    rw [List.length_cons, Nat.add_right_comm, run, step, hs]
    simp only [hhandle]
    exact ih

theorem exists_run_of_failsAt (h : FailsAt setting file s st phase failure)
    (hs : st.program.firstStatement? setting.isWanted st.handled = some s) (limit : Nat) :
    ∃ last, run setting file limit st = .failed failure last := by
  obtain ⟨after, hafter, -⟩ := h.exists_answer
  have hstep : step setting file st = .failed failure after := by
    rw [step, hs]
    simp only [handle, hafter setting (.refl setting phase)]
  refine ⟨after, ?_⟩
  cases limit <;> rw [run, hstep]

/-- If statements are handled completely until one whose macro raises an error, the run fails with
that error, told as it should be. -/
theorem run_raised (hsteps : Steps setting file start turns st)
    (hs : st.program.firstStatement? setting.isWanted st.handled = some s)
    (hfound : Found setting file s st found)
    (hconfig : (configFor setting s st found).1 = .ok config)
    (hraised : (found.wrapped.body (callFor file s (references s st.program) config)
      st.program).answer = .error ⟨layers, cause⟩) :
    ∃ failure, failure.Tells s.source layers cause ∧
      ∀ limit, turns.length ≤ limit →
        ∃ last, run setting file limit start = .failed failure last := by
  refine ⟨_, Failure.tells_ofRaised s.source layers cause, ?_⟩
  intro limit hlimit
  obtain ⟨more, rfl⟩ := Nat.exists_eq_add_of_le hlimit
  rw [hsteps.run_eq]
  exact exists_run_of_failsAt (.body hfound hconfig hraised) hs more

/-- A macro that fails, with context added twice. -/
def failing (_ : Call) (p : Program) : Reply := ⟨.error ⟨["outer", "inner"], .fault "bad"⟩, p⟩

/-- As in `import m from "@org/package/macro"; m;`. -/
def scopedProgram : Program := ⟨true, Span.none, .null, [
  .importOf ⟨⟨1, 9⟩, "@org/package/macro"⟩ ⟨"m", 2, ⟨2, 3⟩, false⟩,
  .useOf ⟨"m", 2, ⟨10, 11⟩, false⟩]⟩

theorem run_raised_scopedProgram : ∃ failure last,
    expand (.loading failing) {} none scopedProgram = .failed failure last ∧
      failure.message? = some ("@org/package/macro: outer Learn more: " ++
        "https://www.npmjs.com/package/@org/package") := by
  obtain ⟨s, hs⟩ : ∃ s, scopedProgram.firstStatement? isMacroName [] = some s := ⟨_, rfl⟩
  have hkey : s.source = "@org/package/macro" := by
    cases hs
    rfl
  have hfound : Found (.loading failing) none s { program := scopedProgram }
      ⟨⟨"macro", none, failing, by decide⟩, Path.ofText s.source, Path.root⟩ := by
    cases hs
    exact {
      used := by decide
      directory := ⟨Path.root, rfl, by decide⟩
      resolved := rfl
      wrapped := ⟨_, rfl, rfl⟩ }
  obtain ⟨failure, htells, hrun⟩ := run_raised .refl hs hfound rfl rfl
  obtain ⟨last, hlast⟩ := hrun _ (Nat.zero_le _)
  refine ⟨failure, last, hlast, ?_⟩
  obtain ⟨-, link, hmessage, hlink⟩ := htells.fault "bad" rfl
  rw [hkey] at hmessage hlink
  obtain ⟨package, rfl, hpackage⟩ := hlink.package (by decide)
  have hname : package = "@org/package" :=
    String.toList_inj.1 ((hpackage (by decide) (by decide)).trans (by decide))
  rw [hmessage, hname]
  decide

end Expansion
end ImportMacros
