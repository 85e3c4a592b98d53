import ImportMacros.Expansion
import ImportMacros.FileSystem.Memory
import ImportMacros.Proofs.Removal

/-!
# ImportMacros.Proofs.Loop

The expansion of a program as a relation without a limit, turn by turn.

* `Answers` is everything that the handling of a statement can come to: one constructor for each
  way it can go, with what it leaves of the state.
* `Loop st turns o`: from `st` the statements of `turns` are handled one after the other, and the
  expansion ends with `o`. It is deterministic (`Loop.deterministic`), and `run` computes it within
  any limit that its turns do not exceed (`Loop.run`).
* `Turn.CallsAsUsed` ties the calls of a turn to the uses that are found at its beginning;
  `Turn.callsAsUsed` and `Loop.calls` say that this accounts for all calls of an expansion.
-/

namespace ImportMacros

/-! ## The next statement -/

namespace Tree

theorem firstOfAll?_eq_find? {wanted : String → Bool} {test : Statement → Bool} {ts : List Tree}
    (h : ∀ t ∈ ts, firstStatement? wanted test t = (statements wanted t).find? test) :
    firstOfAll? wanted test ts = (ts.flatMap (statements wanted)).find? test := by
  induction ts with
  | nil => rfl
  | cons t rest ih =>
    rw [firstOfAll?, h t (by simp), ih fun u hu => h u (by simp [hu]), List.flatMap_cons,
      List.find?_append]
    cases (statements wanted t).find? test <;> rfl

theorem firstStatement?_eq_find? (wanted : String → Bool) (test : Statement → Bool) (t : Tree) :
    firstStatement? wanted test t = (statements wanted t).find? test := by
  induction t with
  | absent => rfl
  | use id => rfl
  | binder id ascription ih => exact ih
  | seq items ih =>
    rw [firstStatement?, firstOfAll?_eq_find? ih, statements, statementsAll_eq]
  | node kind span data parts ih =>
    have hown : ∀ o : Option Statement, o.toList.find? test = o.filter test := by
      intro o
      cases o with
      | none => rfl
      | some s => cases hs : test s <;> simp [Option.filter, hs]
    rw [firstStatement?, statements, List.find?_append, hown, firstOfAll?_eq_find? ih,
      statementsAll_eq]
    cases (ownStatement? wanted (.node kind span data parts)).filter test with
    | some s => rfl
    | none =>
      simp only [Option.none_or]
      split <;> rfl

theorem wanted_of_mem_statements {wanted : String → Bool} {t : Tree} {s : Statement}
    (h : s ∈ statements wanted t) : wanted s.source = true := by
  induction t with
  | absent => cases h
  | use id => cases h
  | binder id ascription ih => exact ih h
  | seq items ih =>
    rw [statements, statementsAll_eq] at h
    obtain ⟨t, ht, h⟩ := List.mem_flatMap.1 h
    exact ih t ht h
  | node kind span data parts ih =>
    rw [statements] at h
    rcases List.mem_append.1 h with h | h
    · exact (mem_ownStatement?.1 h).2
    · split at h
      · cases h
      · rw [statementsAll_eq] at h
        obtain ⟨t, ht, h⟩ := List.mem_flatMap.1 h
        exact ih t ht h

end Tree

namespace Program

variable {wanted : String → Bool} {handled : List Key} {p : Program} {s : Statement}

theorem firstStatement?_eq_find? (wanted : String → Bool) (handled : List Key) (p : Program) :
    p.firstStatement? wanted handled =
      (p.statements wanted).find? fun s => !handled.contains s.key := by
  rw [firstStatement?, statements_eq]
  exact Tree.firstOfAll?_eq_find? fun t _ => Tree.firstStatement?_eq_find? wanted _ t

theorem wanted_of_mem_statements (h : s ∈ p.statements wanted) : wanted s.source = true := by
  rw [statements_eq] at h
  obtain ⟨item, -, h⟩ := List.mem_flatMap.1 h
  exact Tree.wanted_of_mem_statements h

theorem mem_of_firstStatement? (h : p.firstStatement? wanted handled = some s) :
    s ∈ p.statements wanted ∧ s.key ∉ handled := by
  rw [firstStatement?_eq_find?] at h
  exact ⟨List.mem_of_find?_eq_some h, by simpa using List.find?_some h⟩

theorem firstStatement?_eq_none :
    p.firstStatement? wanted handled = none ↔ ∀ s ∈ p.statements wanted, s.key ∈ handled := by
  simp [firstStatement?_eq_find?]

end Program

namespace Expansion

variable {setting : Setting} {file : Option Path}

/-! ## Macros of a setting -/

def Setting.AllMacros (setting : Setting) (P : Macro → Prop) : Prop :=
  ∀ path m, setting.load.default path = .ok (.wrapped m) → P m

theorem Setting.AllMacros.target {P : Macro → Prop} (h : setting.AllMacros P) {source : String}
    {found : Target} (htarget : target setting file source = .ok found) : P found.wrapped := by
  rw [Expansion.target] at htarget
  split at htarget
  · cases htarget
  · simp only at htarget
    split at htarget
    · cases htarget
    · rename_i path _
      split at htarget
      · cases htarget
      · rename_i hload
        cases htarget
        exact h path _ hload
      · cases htarget

/-- A setting in which every source leads to one macro without a configuration. -/
def Setting.loading (body : Call → Program → Reply) : Setting where
  fs := ({} : Memory).fileSystem
  resolve := fun source _ => .ok (Path.ofText source)
  load := fun _ => .ok (.wrapped ⟨"macro", none, body, by decide⟩)

theorem Setting.allMacros_loading {P : Macro → Prop} {body : Call → Program → Reply}
    (h : ∀ m : Macro, m.body = body → P m) : (Setting.loading body).AllMacros P := by
  intro path m hload
  cases hload
  exact h _ rfl

/-! ## One statement -/

def callFor (file : Option Path) (s : Statement) (refs : References) (config : Option Fields) :
    Call where
  references := refs
  source := s.source
  filename := file
  config := config.map .object
  isExpansion := true

/-- What the bindings of a statement are used for in a program; nothing if they are not
supported. -/
def references (s : Statement) (p : Program) : References :=
  match s.bindings with
  | .ok bindings => .collect p bindings.scope bindings.items
  | .error _ => []

/-- What the handling of a statement can come to, and the state that it leaves. -/
inductive Answers (setting : Setting) (file : Option Path) (s : Statement) (st : State) :
    Except Failure (Option Request) → State → Prop where
  | unsupported {binding : UnsupportedBinding} :
      s.bindings = .error binding → Answers setting file s st (.error (.unsupported binding)) st
  | unused {bindings : Bindings} (events : List Event) :
      s.bindings = .ok bindings → (references s st.program).isUsed = false →
      Answers setting file s st (.ok none) (st.tell events)
  | stopped {failure : Failure} {after : State} :
      (references s st.program).isUsed = true → after.program = st.program →
      after.handled = st.handled → after.calls = st.calls →
      Answers setting file s st (.error failure) after
  | called {target : Target} {config : Option Fields} {reply : Reply} {after : State} :
      (references s st.program).isUsed = true →
      Expansion.target setting file s.source = .ok target →
      target.wrapped.body (callFor file s (references s st.program) config) st.program = reply →
      after.program = reply.program → after.handled = st.handled →
      after.calls = st.calls ++
        [⟨target.wrapped.title, callFor file s (references s st.program) config⟩] →
      Answers setting file s st (reply.answer.mapError (.ofRaised s.source)) after

theorem invoke_callFor (file : Option Path) (s : Statement) (refs : References)
    (target : Target) (config : Option Fields) (st : State) :
    invoke file s.source refs target config st =
      ((target.wrapped.body (callFor file s refs config) st.program).answer.mapError
          (.ofRaised s.source),
        { st.tell [.invoking target.path] with
          program := (target.wrapped.body (callFor file s refs config) st.program).program
          calls := st.calls ++ [⟨target.wrapped.title, callFor file s refs config⟩] }) := by
  unfold invoke
  simp only
  split
  · rename_i request hanswer
    have hanswer : (target.wrapped.body (callFor file s refs config) st.program).answer =
        .ok request := hanswer
    rw [hanswer]; rfl
  · rename_i raised hanswer
    have hanswer : (target.wrapped.body (callFor file s refs config) st.program).answer =
        .error raised := hanswer
    rw [hanswer]; rfl

theorem answers (setting : Setting) (file : Option Path) (s : Statement) (st : State) :
    Answers setting file s st (answer setting file s st).1 (answer setting file s st).2 := by
  unfold answer
  cases hbindings : s.bindings with
  | error binding => exact .unsupported hbindings
  | ok bindings =>
    have hrefs : ∀ p, References.collect p bindings.scope bindings.items = references s p := by
      intro p
      rw [references, hbindings]
    simp only [apply, State.tell, hrefs]
    cases hused : (references s st.program).isUsed with
    | false =>
      rw [if_neg Bool.false_ne_true]
      simp only [List.append_assoc]
      exact .unused _ hbindings hused
    | true =>
      rw [if_pos rfl, applyUsed]
      cases htarget : target setting file s.source with
      | error failure => exact .stopped hused rfl rfl rfl
      | ok target =>
        simp only
        split
        · exact .stopped hused rfl rfl rfl
        · rename_i config explorer events hconfig
          rw [invoke_callFor]
          exact .called hused htarget rfl rfl rfl rfl

theorem Answers.handled {s : Statement} {st after : State}
    {result : Except Failure (Option Request)} (h : Answers setting file s st result after) :
    after.handled = st.handled := by
  cases h with
  | unsupported _ => rfl
  | unused _ _ _ => rfl
  | stopped _ _ hhandled _ => exact hhandled
  | called _ _ _ _ hhandled _ => exact hhandled

theorem finish_of_keeps {s : Statement} {request : Option Request} {st : State}
    (h : request.any (·.keepImports) = true) :
    finish s request st = { st with handled := s.key :: st.handled } := by
  rw [finish, if_pos h]

theorem finish_program {s : Statement} {request : Option Request} {st : State}
    (h : request.any (·.keepImports) = false) :
    (finish s request st).program = (st.program.remove s).1 := by
  rw [finish, if_neg (Bool.eq_false_iff.1 h)]
  simp only
  split <;> rfl

theorem finish_handled {s : Statement} {request : Option Request} {st : State}
    (h : request.any (·.keepImports) = false) :
    (finish s request st).handled =
      if (st.program.remove s).2 then st.handled else s.key :: st.handled := by
  rw [finish, if_neg (Bool.eq_false_iff.1 h)]
  simp only
  split <;> rfl

theorem finish_frame (s : Statement) (request : Option Request) (st : State) :
    (finish s request st).calls = st.calls ∧ (finish s request st).explorer = st.explorer := by
  unfold finish
  split
  · exact ⟨rfl, rfl⟩
  · simp only
    split <;> exact ⟨rfl, rfl⟩

/-! ## Turns -/

/-- One turn of an expansion: the statement that is handled, and the state before. -/
structure Turn where
  statement : Statement
  before : State

namespace Turn

/-- What the turn comes to, and the state before the statement is finished. -/
def answer (setting : Setting) (file : Option Path) (t : Turn) :
    Except Failure (Option Request) × State :=
  Expansion.answer setting file t.statement t.before

def references (t : Turn) : References := Expansion.references t.statement t.before.program

def made (setting : Setting) (file : Option Path) (t : Turn) : List Macro.Record :=
  (t.answer setting file).2.calls.drop t.before.calls.length

/-- Whether a macro is called that asks for the statement to stay. -/
def keeps (setting : Setting) (file : Option Path) (t : Turn) : Bool :=
  match (t.answer setting file).1 with
  | .ok request => request.any (·.keepImports)
  | .error _ => false

def fails (setting : Setting) (file : Option Path) (t : Turn) : Bool :=
  match (t.answer setting file).1 with
  | .ok _ => false
  | .error _ => true

/-- The macro of the statement is called once if its bindings are used, and told how, unless the
turn fails before it comes to that. Otherwise it is not called. -/
inductive CallsAsUsed (setting : Setting) (file : Option Path) (t : Turn) : Prop where
  | idle : t.references.isUsed = false → t.made setting file = [] → t.keeps setting file = false →
      CallsAsUsed setting file t
  | stopped : t.references.isUsed = true → t.made setting file = [] → t.fails setting file = true →
      CallsAsUsed setting file t
  | called {target : Target} {config : Option Fields} :
      t.references.isUsed = true →
      Expansion.target setting file t.statement.source = .ok target →
      t.made setting file =
        [⟨target.wrapped.title, callFor file t.statement t.references config⟩] →
      CallsAsUsed setting file t

theorem exists_answers (setting : Setting) (file : Option Path) (t : Turn) :
    ∃ result after, t.answer setting file = (result, after) ∧
      Answers setting file t.statement t.before result after :=
  ⟨_, _, rfl, answers setting file t.statement t.before⟩

theorem callsAsUsed (setting : Setting) (file : Option Path) (t : Turn) :
    t.CallsAsUsed setting file := by
  obtain ⟨result, after, heq, h⟩ := t.exists_answers setting file
  have hmade : ∀ records, after.calls = t.before.calls ++ records →
      t.made setting file = records := by
    intro records hcalls
    rw [made, heq, hcalls, List.drop_left]
  cases h with
  | unsupported hbindings =>
    refine .idle ?_ (hmade [] (List.append_nil _).symm) ?_
    · rw [references, Expansion.references, hbindings]; rfl
    · rw [keeps, heq]
  | unused events _ hused =>
    refine .idle hused (hmade [] (List.append_nil _).symm) ?_
    rw [keeps, heq]; rfl
  | stopped hused _ _ hcalls =>
    refine .stopped hused (hmade [] (by rw [hcalls, List.append_nil])) ?_
    rw [fails, heq]
  | called hused htarget _ _ _ hcalls => exact .called hused htarget (hmade _ hcalls)

theorem calls_answer (setting : Setting) (file : Option Path) (t : Turn) :
    (t.answer setting file).2.calls = t.before.calls ++ t.made setting file := by
  obtain ⟨result, after, heq, h⟩ := t.exists_answers setting file
  rw [made, heq]
  cases h with
  | unsupported _ => simp
  | unused _ _ _ => simp [State.tell]
  | stopped _ _ _ hcalls => simp [hcalls]
  | called _ _ _ _ _ hcalls => simp [hcalls]

end Turn

/-! ## The loop -/

/-- The turns of an expansion from a state, and its end. -/
inductive Loop (setting : Setting) (file : Option Path) : State → List Turn → Outcome → Prop where
  | finished {st : State} :
      st.program.firstStatement? setting.isWanted st.handled = none →
      Loop setting file st [] (.finished st)
  | failed {st after : State} {s : Statement} {failure : Failure} :
      st.program.firstStatement? setting.isWanted st.handled = some s →
      handle setting file s st = .failed failure after →
      Loop setting file st [⟨s, st⟩] (.failed failure after)
  | next {st after : State} {s : Statement} {turns : List Turn} {outcome : Outcome} :
      st.program.firstStatement? setting.isWanted st.handled = some s →
      handle setting file s st = .next after → Loop setting file after turns outcome →
      Loop setting file st (⟨s, st⟩ :: turns) outcome

variable {st after : State} {s : Statement}

theorem handle_eq_next (h : handle setting file s st = .next after) :
    ∃ request middle, answer setting file s st = (.ok request, middle) ∧
      after = finish s request middle := by
  rw [handle] at h
  split at h
  · cases h
  · rename_i request middle hanswer
    cases h
    exact ⟨request, middle, hanswer, rfl⟩

theorem handle_eq_failed {failure : Failure}
    (h : handle setting file s st = .failed failure after) :
    answer setting file s st = (.error failure, after) := by
  rw [handle] at h
  split at h
  · rename_i hanswer
    cases h
    exact hanswer
  · cases h

theorem handle_ne_done : handle setting file s st ≠ .done := by
  rw [handle]
  split <;> exact nofun

namespace Loop

variable {turns turns' : List Turn} {outcome outcome' : Outcome}

theorem deterministic (h : Loop setting file st turns outcome)
    (h' : Loop setting file st turns' outcome') : turns = turns' ∧ outcome = outcome' := by
  induction h generalizing turns' with
  | finished hnone =>
    cases h' with
    | finished _ => exact ⟨rfl, rfl⟩
    | failed hsome _ => rw [hnone] at hsome; cases hsome
    | next hsome _ _ => rw [hnone] at hsome; cases hsome
  | failed hs hhandle =>
    cases h' with
    | finished hnone => rw [hs] at hnone; cases hnone
    | failed hs' hhandle' =>
      rw [hs] at hs'; cases hs'
      rw [hhandle] at hhandle'; cases hhandle'
      exact ⟨rfl, rfl⟩
    | next hs' hhandle' _ =>
      rw [hs] at hs'; cases hs'
      rw [hhandle] at hhandle'; cases hhandle'
  | next hs hhandle _ ih =>
    cases h' with
    | finished hnone => rw [hs] at hnone; cases hnone
    | failed hs' hhandle' =>
      rw [hs] at hs'; cases hs'
      rw [hhandle] at hhandle'; cases hhandle'
    | next hs' hhandle' h' =>
      rw [hs] at hs'; cases hs'
      rw [hhandle] at hhandle'; cases hhandle'
      obtain ⟨rfl, rfl⟩ := ih h'
      exact ⟨rfl, rfl⟩

theorem run (h : Loop setting file st turns outcome) {limit : Nat} (hlimit : turns.length ≤ limit) :
    run setting file limit st = outcome := by
  induction h generalizing limit with
  | finished hnone => cases limit <;> simp [Expansion.run, step, hnone]
  | failed hs hhandle => cases limit <;> simp [Expansion.run, step, hs, hhandle]
  | next hs hhandle _ ih =>
    cases limit with
    | zero => simp at hlimit
    | succ limit =>
      rw [Expansion.run, step, hs]
      simp only [hhandle]
      exact ih (by simpa using hlimit)

/-- The limit of `expand` is no limit for a loop with a turn for each statement at most. -/
theorem expand {explorer : Config.Explorer} {p : Program}
    (h : Loop setting file { program := p, explorer := explorer } turns outcome)
    (hlength : turns.length ≤ (p.statements setting.isWanted).length) :
    expand setting explorer file p = outcome :=
  h.run (by omega)

theorem ne_cutShort (h : Loop setting file st turns outcome) (st' : State) :
    outcome ≠ .cutShort st' := by
  induction h with
  | finished _ => exact nofun
  | failed _ _ => exact nofun
  | next _ _ _ ih => exact ih

theorem calls (h : Loop setting file st turns outcome) :
    outcome.state.calls = st.calls ++ turns.flatMap (·.made setting file) := by
  induction h with
  | finished _ => exact (List.append_nil _).symm
  | @failed st after s failure hs hhandle =>
    have hcalls := Turn.calls_answer setting file ⟨s, st⟩
    rw [Turn.answer, handle_eq_failed hhandle] at hcalls
    simpa [Outcome.state] using hcalls
  | @next st after s turns outcome hs hhandle _ ih =>
    have hcalls := Turn.calls_answer setting file ⟨s, st⟩
    obtain ⟨request, middle, hanswer, rfl⟩ := handle_eq_next hhandle
    rw [Turn.answer, hanswer] at hcalls
    rw [ih, (finish_frame s request middle).1, hcalls, List.flatMap_cons, List.append_assoc]

end Loop

end Expansion
end ImportMacros
