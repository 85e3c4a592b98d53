import ImportMacros.Proofs.Loop

/-!
# ImportMacros.Proofs.Order

Every statement has its turn, once, in the order of the program (`expand_inOrder`). The invariant
of the loop is `Stage kept rest st`: the statements of the program are those that were kept,
followed by those that are still to come, and the handled keys are those of the kept ones. One
turn moves the first of the rest to the end of the kept ones, or takes it out
(`Stage.finish`).

Three things can break the order, and an example of each stands at the end
(`not_handlesInOrder`): a statement inside another one goes with it; an empty declaration inside a
statement that stays is cleared away with the next removal; and a macro can move a statement to
where no removal finds it.
-/

namespace ImportMacros

def Macro.KeepsStatements (wanted : String → Bool) (m : Macro) : Prop :=
  ∀ call p, (m.body call p).program.statements wanted = p.statements wanted

/-- A macro that moves no statement to where it cannot be removed. -/
def Macro.KeepsPlaces (wanted : String → Bool) (m : Macro) : Prop :=
  ∀ call p, p.strays wanted = [] → (m.body call p).program.strays wanted = []

namespace Expansion

open Statement (IsClear Kept)

variable {setting : Setting} {file : Option Path} {wanted : String → Bool}

theorem forall₂_kept_trans {ss ss' ss'' : List Statement} (h : List.Forall₂ (Kept wanted) ss ss')
    (h' : List.Forall₂ (Kept wanted) ss' ss'') : List.Forall₂ (Kept wanted) ss ss'' := by
  induction h generalizing ss'' with
  | nil => exact h'
  | cons hs _ ih =>
    obtain ⟨t, ts, ht, hts, rfl⟩ := List.forall₂_cons_left_iff.1 h'
    exact .cons (hs.trans ht) (ih hts)

theorem forall₂_kept_append {kept rest statements : List Statement}
    (h : List.Forall₂ (Kept wanted) (kept ++ rest) statements)
    (hclear : ∀ s ∈ kept, s.IsClear wanted) :
    ∃ rest', statements = kept ++ rest' ∧ List.Forall₂ (Kept wanted) rest rest' := by
  induction kept generalizing statements with
  | nil => exact ⟨statements, rfl, h⟩
  | cons s kept ih =>
    obtain ⟨t, ts, hs, hts, rfl⟩ := List.forall₂_cons_left_iff.1 h
    obtain ⟨rest', rfl, hrest⟩ := ih hts fun u hu => hclear u (by simp [hu])
    exact ⟨rest', by rw [hs.2 (hclear s (by simp)), List.cons_append], hrest⟩

/-- The loop is past the statements `kept`, which stay, and has `rest` before it. -/
structure Stage (wanted : String → Bool) (kept rest : List Statement) (st : State) : Prop where
  strays : st.program.strays wanted = []
  keys : (st.program.keys wanted).Nodup
  statements : st.program.statements wanted = kept ++ rest
  clear : ∀ s ∈ kept, s.IsClear wanted
  handled : ∀ key, key ∈ st.handled ↔ key ∈ kept.map Statement.key

namespace Stage

variable {kept rest : List Statement} {s : Statement} {st after : State}

theorem first (h : Stage wanted kept (s :: rest) st) :
    st.program.firstStatement? wanted st.handled = some s := by
  have hs := (Program.key_notMem_of_keys_nodup h.keys h.statements).1
  have hkept : kept.find? (fun t => !st.handled.contains t.key) = none := by
    rw [List.find?_eq_none]
    intro t ht
    simpa [h.handled] using ⟨t, ht, rfl⟩
  rw [Program.firstStatement?_eq_find?, h.statements, List.find?_append, hkept, Option.none_or,
    List.find?_cons_of_pos]
  simpa [h.handled] using hs

theorem last (h : Stage wanted kept [] st) :
    st.program.firstStatement? wanted st.handled = none := by
  rw [Program.firstStatement?_eq_none, h.statements, List.append_nil]
  intro s hs
  exact (h.handled s.key).2 (List.mem_map_of_mem hs)

theorem answered (hstatements : setting.AllMacros (·.KeepsStatements setting.isWanted))
    (hplaces : setting.AllMacros (·.KeepsPlaces setting.isWanted))
    {result : Except Failure (Option Request)} (h : Stage setting.isWanted kept rest st)
    (hanswers : Answers setting file s st result after) :
    Stage setting.isWanted kept rest after := by
  have hprogram : after.program.statements setting.isWanted =
      st.program.statements setting.isWanted ∧ after.program.strays setting.isWanted = [] := by
    cases hanswers with
    | unsupported _ => exact ⟨rfl, h.strays⟩
    | unused _ _ _ => exact ⟨rfl, h.strays⟩
    | stopped _ hprogram _ _ =>
      rw [hprogram]
      exact ⟨rfl, h.strays⟩
    | called _ htarget hreply hprogram _ _ =>
      rw [hprogram, ← hreply]
      exact ⟨hstatements.target htarget _ _, hplaces.target htarget _ _ h.strays⟩
  refine ⟨hprogram.2, ?_, hprogram.1.trans h.statements, h.clear, ?_⟩
  · rw [Program.keys, hprogram.1]
    exact h.keys
  · rw [hanswers.handled]
    exact h.handled

theorem keep (h : Stage wanted kept (s :: rest) st) (hs : s.IsClear wanted) :
    Stage wanted (kept ++ [s]) rest { st with handled := s.key :: st.handled } := by
  refine ⟨h.strays, h.keys, by simp [h.statements], ?_, ?_⟩
  · intro t ht
    rcases List.mem_append.1 ht with ht | ht
    · exact h.clear t ht
    · rw [List.mem_singleton.1 ht]
      exact hs
  · intro key
    simp [h.handled, or_comm]

theorem remove (h : Stage wanted kept (s :: rest) st) (hs : s.IsClear wanted)
    (hprogram : after.program = (st.program.remove s).1) (hhandled : after.handled = st.handled) :
    ∃ rest', List.Forall₂ (Kept wanted) rest rest' ∧ Stage wanted kept rest' after := by
  have hmem : s ∈ st.program.statements wanted := by simp [h.statements]
  have hwanted := Program.wanted_of_mem_statements hmem
  obtain ⟨rest', hstatements, hrest⟩ := forall₂_kept_append
    (Program.remove_of_isClear h.strays h.keys hwanted h.statements hs) h.clear
  refine ⟨rest', hrest, ?_, ?_, ?_, h.clear, ?_⟩
  · rw [hprogram]
    exact Program.remove_strays s h.strays
  · rw [hprogram]
    exact (Program.remove_keys_sublist hwanted st.program).nodup h.keys
  · rw [hprogram, hstatements]
  · rw [hhandled]
    exact h.handled

theorem finish (h : Stage wanted kept (s :: rest) st) (hs : s.IsClear wanted)
    (request : Option Request) :
    ∃ rest', List.Forall₂ (Kept wanted) rest rest' ∧
      Stage wanted (kept ++ if request.any (·.keepImports) then [s] else []) rest'
        (finish s request st) := by
  cases hkeeps : request.any (·.keepImports) with
  | true =>
    rw [finish_of_keeps hkeeps]
    exact ⟨rest, List.forall₂_same.2 fun t _ => Kept.refl t, h.keep hs⟩
  | false =>
    have hmem : s ∈ st.program.statements wanted := by simp [h.statements]
    have hremoved := Program.remove_of_strays_eq_nil h.strays hmem
    rw [if_neg Bool.false_ne_true, List.append_nil]
    refine h.remove hs (finish_program hkeeps) ?_
    rw [finish_handled hkeeps, if_pos hremoved]

end Stage

theorem Answers.supported {s : Statement} {st after : State} {request : Option Request}
    (h : Answers setting file s st (.ok request) after) :
    ∃ bindings, s.bindings = .ok bindings := by
  cases hbindings : s.bindings with
  | ok bindings => exact ⟨bindings, rfl⟩
  | error binding =>
    have hunused : (references s st.program).isUsed = false := by
      rw [references, hbindings]; rfl
    generalize hresult : (Except.ok request : Except Failure (Option Request)) = result at h
    cases h with
    | unsupported _ => cases hresult
    | unused _ hok _ => rw [hbindings] at hok; cases hok
    | stopped _ _ _ _ => cases hresult
    | called hused _ _ _ _ _ => rw [hunused] at hused; cases hused

theorem keeps_of_answer {s : Statement} {st after : State} {request : Option Request}
    (h : answer setting file s st = (.ok request, after)) :
    Turn.keeps setting file ⟨s, st⟩ = request.any (·.keepImports) := by
  rw [Turn.keeps, Turn.answer, h]

/-- What an expansion does with the statements of a program. -/
structure InOrder (setting : Setting) (file : Option Path) (p : Program) (turns : List Turn)
    (outcome : Outcome) : Prop where
  /-- The statements are handled from the first one on, one after the other. -/
  handled : ∃ rest, List.Forall₂ (Kept setting.isWanted) (p.statements setting.isWanted)
    (turns.map Turn.statement ++ rest)
  callsAsUsed : ∀ t ∈ turns, t.CallsAsUsed setting file
  /-- There are no other calls. -/
  calls : outcome.state.calls = turns.flatMap (·.made setting file)
  /-- Without a failure all statements are handled. -/
  all : ∀ st, outcome = .finished st →
    turns.map Turn.statement = p.statements setting.isWanted
  /-- Without a failure those statements stay whose macro asks for it. -/
  left : ∀ st, outcome = .finished st → st.program.statements setting.isWanted =
    (turns.filter (·.keeps setting file)).map Turn.statement

/-- The statements of a program have their turns in their order. -/
def HandlesInOrder (setting : Setting) (explorer : Config.Explorer) (file : Option Path)
    (p : Program) : Prop :=
  ∃ turns outcome, expand setting explorer file p = outcome ∧
    Loop setting file { program := p, explorer := explorer } turns outcome ∧
    InOrder setting file p turns outcome

/-- All statements can be removed and told apart by their keys, and no macro changes them. -/
structure Orderly (setting : Setting) (p : Program) : Prop where
  strays : p.strays setting.isWanted = []
  keys : (p.keys setting.isWanted).Nodup
  macros : setting.AllMacros (·.KeepsStatements setting.isWanted)

theorem exists_loop_of_stage (hstatements : setting.AllMacros (·.KeepsStatements setting.isWanted))
    (hplaces : setting.AllMacros (·.KeepsPlaces setting.isWanted)) (file : Option Path)
    {kept todo rest : List Statement} {st : State} (h : Stage setting.isWanted kept rest st)
    (htodo : List.Forall₂ (Kept setting.isWanted) todo rest)
    (hclear : ∀ s ∈ todo, ∀ bindings, s.bindings = .ok bindings → s.IsClear setting.isWanted) :
    ∃ turns outcome, Loop setting file st turns outcome ∧ turns.length ≤ todo.length ∧
      (∃ after, List.Forall₂ (Kept setting.isWanted) todo (turns.map Turn.statement ++ after)) ∧
      ∀ last, outcome = .finished last → turns.map Turn.statement = todo ∧
        last.program.statements setting.isWanted =
          kept ++ (turns.filter (·.keeps setting file)).map Turn.statement := by
  induction todo generalizing kept rest st with
  | nil =>
    cases htodo
    refine ⟨[], .finished st, .finished h.last, Nat.le_refl _, ⟨[], .nil⟩, ?_⟩
    intro last hlast
    cases hlast
    exact ⟨rfl, h.statements⟩
  | cons s todo ih =>
    obtain ⟨t, rest, hst, hrest, rfl⟩ := List.forall₂_cons_left_iff.1 htodo
    cases hhandle : handle setting file t st with
    | done => exact absurd hhandle handle_ne_done
    | failed failure after =>
      refine ⟨[⟨t, st⟩], .failed failure after, .failed h.first hhandle, by simp, ⟨rest, ?_⟩, ?_⟩
      · exact .cons hst hrest
      · exact fun last hlast => nomatch hlast
    | next after =>
      obtain ⟨request, middle, hanswer, rfl⟩ := handle_eq_next hhandle
      have hanswers := answers setting file t st
      rw [hanswer] at hanswers
      obtain ⟨bindings, hbindings⟩ := hanswers.supported
      have hs : s.IsClear setting.isWanted := by
        refine hclear s (by simp) bindings ?_
        rw [← Statement.outline_bindings, ← hst.1, Statement.outline_bindings, hbindings]
      -- a supported statement is clear, so no removal before has changed it
      obtain rfl := hst.2 hs
      obtain ⟨rest', hrest', hstage⟩ := (h.answered hstatements hplaces hanswers).finish hs request
      obtain ⟨turns, outcome, hloop, hlength, ⟨unseen, hunseen⟩, hlast⟩ :=
        ih hstage (forall₂_kept_trans hrest hrest') fun u hu => hclear u (by simp [hu])
      refine ⟨⟨t, st⟩ :: turns, outcome, .next h.first hhandle hloop, Nat.succ_le_succ hlength,
        ⟨unseen, .cons hst hunseen⟩, fun last heq => ?_⟩
      obtain ⟨hturns, hleft⟩ := hlast last heq
      refine ⟨by rw [List.map_cons, hturns], ?_⟩
      rw [hleft, List.filter_cons, keeps_of_answer hanswer, List.append_assoc]
      split <;> rfl

/-- An expansion handles the statements of a program in their order, each once, if those that are
supported have nothing inside and no macro moves them out of reach. -/
theorem expand_inOrder {p : Program} (h : Orderly setting p)
    (hclear : ∀ s ∈ p.statements setting.isWanted, ∀ bindings, s.bindings = .ok bindings →
      s.IsClear setting.isWanted)
    (hplaces : setting.AllMacros (·.KeepsPlaces setting.isWanted)) (explorer : Config.Explorer)
    (file : Option Path) : HandlesInOrder setting explorer file p := by
  have hstage : Stage setting.isWanted [] (p.statements setting.isWanted)
      { program := p, explorer := explorer } :=
    ⟨h.strays, h.keys, rfl, fun _ => nofun, fun _ => by simp⟩
  obtain ⟨turns, outcome, hloop, hlength, hhandled, hlast⟩ := exists_loop_of_stage h.macros
    hplaces file hstage (List.forall₂_same.2 fun s _ => Kept.refl s) hclear
  refine ⟨turns, outcome, hloop.expand hlength, hloop, hhandled, ?_, ?_, ?_, ?_⟩
  · exact fun t _ => t.callsAsUsed setting file
  · rw [hloop.calls]
    rfl
  · exact fun st hst => (hlast st hst).1
  · exact fun st hst => (hlast st hst).2

/-- A macro that leaves the program alone and asks for its statement to stay. -/
def keeper : Call → Program → Reply := fun _ p => ⟨.ok (some ⟨true⟩), p⟩

theorem keepsStatements_keeper (wanted : String → Bool) :
    (Setting.loading keeper).AllMacros (·.KeepsStatements wanted) := by
  refine Setting.allMacros_loading fun m hm call p => ?_
  rw [hm]
  rfl

theorem keepsPlaces_keeper (wanted : String → Bool) :
    (Setting.loading keeper).AllMacros (·.KeepsPlaces wanted) := by
  refine Setting.allMacros_loading fun m hm call p hp => ?_
  rw [hm]
  exact hp

/-- A used import and an unused require. -/
def mixedProgram : Program := ⟨true, Span.none, .null, [
  .importOf ⟨⟨1, 9⟩, "a.macro"⟩ ⟨"a", 2, ⟨2, 3⟩, false⟩,
  .constOf [.requireOf ⟨⟨10, 19⟩, "b.macro"⟩ (.binder ⟨"b", 2, ⟨11, 12⟩, false⟩ .absent)],
  .useOf ⟨"a", 2, ⟨20, 21⟩, false⟩]⟩

theorem expand_mixedProgram : HandlesInOrder (Setting.loading keeper) {} none mixedProgram := by
  have horderly : Orderly (Setting.loading keeper) mixedProgram :=
    ⟨rfl, by decide, keepsStatements_keeper isMacroName⟩
  have hclear : ∀ s ∈ mixedProgram.statements isMacroName, s.IsClear isMacroName := by
    have hstatements : mixedProgram.statements isMacroName = [
        .importing ⟨⟨1, 9⟩, "a.macro"⟩ [.node .importDefaultSpecifier ⟨1, 9⟩ []
          [.use ⟨"a", 2, ⟨2, 3⟩, false⟩]],
        .requiring ⟨⟨10, 19⟩, "b.macro"⟩ (.binder ⟨"b", 2, ⟨11, 12⟩, false⟩ .absent)] := rfl
    intro s hs
    rw [hstatements] at hs
    simp only [List.mem_cons, List.not_mem_nil, or_false] at hs
    rcases hs with rfl | rfl <;> exact ⟨rfl, rfl⟩
  exact expand_inOrder horderly (fun s hs _ _ => hclear s hs) (keepsPlaces_keeper isMacroName)
    {} none

/-! ## What breaks the order -/

/-- The type of a function whose parameter has a default, which is a function with some
statements. -/
def functionTypeWith (stmts : List Tree) : Tree :=
  let span : Span := ⟨2, 3⟩
  .node (.other "TsTypeAnnotation" ["typeAnnotation"] true) span [] [
    .node (.other "TsFunctionType" ["params", "typeAnnotation"] true) span [] [
      .seq [.node .objectPattern span [] [.seq [
        .node .assignmentPatternProperty span [] [.binder ⟨"x", 2, span, false⟩ .absent,
          .node .arrow span [] [.seq [], .node .block span [] [.seq stmts]]]]]],
      .node (.other "TsTypeAnnotation" ["typeAnnotation"] true) span [] [
        .node (.other "TsKeywordType" [] true) span [("kind", .string "any")] []]]]

/-- A require with another one inside. -/
def nestedProgram : Program := ⟨true, Span.none, .null, [
  .constOf [.requireOf ⟨⟨1, 9⟩, "a.macro"⟩ (.binder ⟨"a", 2, ⟨1, 2⟩, false⟩ (functionTypeWith [
    .constOf [.requireOf ⟨⟨4, 5⟩, "b.macro"⟩ (.binder ⟨"b", 3, ⟨4, 5⟩, false⟩ .absent)]]))]]⟩

/-- A used require with an empty declaration inside, and an unused one. -/
def hollowProgram : Program := ⟨true, Span.none, .null, [
  .constOf [.requireOf ⟨⟨1, 9⟩, "a.macro"⟩
    (.binder ⟨"a", 2, ⟨1, 2⟩, false⟩ (functionTypeWith [.constOf []]))],
  .constOf [.requireOf ⟨⟨10, 19⟩, "b.macro"⟩ (.binder ⟨"b", 2, ⟨11, 12⟩, false⟩ .absent)],
  .useOf ⟨"a", 2, ⟨20, 21⟩, false⟩]⟩

def plainProgram : Program := ⟨true, Span.none, .null, [
  .constOf [.requireOf ⟨⟨1, 9⟩, "a.macro"⟩ (.binder ⟨"a", 2, ⟨1, 2⟩, false⟩ .absent)],
  .useOf ⟨"a", 2, ⟨20, 21⟩, false⟩]⟩

def toUsing : Tree → Tree
  | .node .variableDeclaration span _ parts => .node .usingDeclaration span [] parts
  | t => t

/-- A macro that turns the declarations among the items of a program into ones of resources. -/
def mover : Call → Program → Reply := fun _ p => ⟨.ok none, { p with body := p.body.map toUsing }⟩

theorem keepsStatements_mover (wanted : String → Bool) :
    (Setting.loading mover).AllMacros (·.KeepsStatements wanted) := by
  have hitem : ∀ t, (toUsing t).statements wanted = t.statements wanted := by
    intro t
    unfold toUsing
    split
    · rw [Tree.statements_node_of_ne wanted (by decide),
        Tree.statements_node_of_ne wanted (by decide),
        Tree.ownStatement?_of_ne wanted (by decide) (by decide),
        Tree.ownStatement?_of_ne wanted (by decide) (by decide)]
    · rfl
  refine Setting.allMacros_loading fun m hm call p => ?_
  simp only [hm, mover, Program.statements_eq, List.flatMap_map, hitem]

/-- The statement inside has no turn. -/
theorem loop_nestedProgram : ∃ turn last,
    Loop (Setting.loading keeper) none { program := nestedProgram } [turn] (.finished last) :=
  ⟨_, _, .next rfl rfl (.finished rfl)⟩

/-- The statement that stays has lost what was inside. -/
theorem loop_hollowProgram : ∃ turns last,
    Loop (Setting.loading keeper) none { program := hollowProgram } turns (.finished last) ∧
    last.program.statements isMacroName = [.requiring ⟨⟨1, 9⟩, "a.macro"⟩
      (.binder ⟨"a", 2, ⟨1, 2⟩, false⟩ (functionTypeWith []))] ∧
    (turns.filter (·.keeps (Setting.loading keeper) none)).map Turn.statement =
      [.requiring ⟨⟨1, 9⟩, "a.macro"⟩
        (.binder ⟨"a", 2, ⟨1, 2⟩, false⟩ (functionTypeWith [.constOf []]))] :=
  ⟨_, _, .next rfl rfl (.next rfl rfl (.finished rfl)), rfl, rfl⟩

/-- The statement is still there, though no macro asked for it to stay. -/
theorem loop_plainProgram : ∃ turns last,
    Loop (Setting.loading mover) none { program := plainProgram } turns (.finished last) ∧
    (last.program.statements isMacroName).length = 1 ∧
    turns.filter (·.keeps (Setting.loading mover) none) = [] :=
  ⟨_, _, .next rfl rfl (.finished rfl), rfl, rfl⟩

theorem not_handlesInOrder :
    (Orderly (Setting.loading keeper) nestedProgram ∧
      (Setting.loading keeper).AllMacros (·.KeepsPlaces isMacroName) ∧
      ¬HandlesInOrder (Setting.loading keeper) {} none nestedProgram) ∧
    (Orderly (Setting.loading keeper) hollowProgram ∧
      (Setting.loading keeper).AllMacros (·.KeepsPlaces isMacroName) ∧
      (∀ s ∈ hollowProgram.statements isMacroName, s.inside isMacroName = []) ∧
      ¬HandlesInOrder (Setting.loading keeper) {} none hollowProgram) ∧
    (Orderly (Setting.loading mover) plainProgram ∧
      (∀ s ∈ plainProgram.statements isMacroName, s.IsClear isMacroName) ∧
      ¬HandlesInOrder (Setting.loading mover) {} none plainProgram) := by
  refine ⟨⟨⟨rfl, by decide, keepsStatements_keeper _⟩, keepsPlaces_keeper _, ?_⟩,
    ⟨⟨rfl, by decide, keepsStatements_keeper _⟩, keepsPlaces_keeper _, ?_, ?_⟩,
    ⟨rfl, by decide, keepsStatements_mover _⟩, ?_, ?_⟩
  · rintro ⟨turns, outcome, -, hloop, horder⟩
    obtain ⟨turn, last, hloop'⟩ := loop_nestedProgram
    obtain ⟨rfl, rfl⟩ := hloop.deterministic hloop'
    have hlength : 1 = 2 := congrArg List.length (horder.all last rfl)
    exact absurd hlength (by decide)
  · exact List.flatMap_eq_nil_iff.1 rfl
  · rintro ⟨turns, outcome, -, hloop, horder⟩
    obtain ⟨turns', last, hloop', hlast, hkept⟩ := loop_hollowProgram
    obtain ⟨rfl, rfl⟩ := hloop.deterministic hloop'
    have hleft := hlast.symm.trans ((horder.left last rfl).trans hkept)
    simp [functionTypeWith] at hleft
  · intro s hs
    have hstatements : plainProgram.statements isMacroName =
        [.requiring ⟨⟨1, 9⟩, "a.macro"⟩ (.binder ⟨"a", 2, ⟨1, 2⟩, false⟩ .absent)] := rfl
    rw [hstatements] at hs
    cases List.mem_singleton.1 hs
    exact ⟨rfl, rfl⟩
  · rintro ⟨turns, outcome, -, hloop, horder⟩
    obtain ⟨turns', last, hloop', hlast, hkept⟩ := loop_plainProgram
    obtain ⟨rfl, rfl⟩ := hloop.deterministic hloop'
    have hleft : last.program.statements isMacroName = [] := by
      have hleft := horder.left last rfl
      rwa [hkept] at hleft
    rw [hleft] at hlast
    cases hlast

end Expansion
end ImportMacros
