import ImportMacros.Proofs.Loop

/-!
# ImportMacros.Proofs.Phases

Where and why an expansion fails. The handling of a statement goes through phases, each of which
works with what the phases before it came to, and can fail in its own way: `FailsAt` has one
constructor for each. A statement is answered with a failure exactly if it has a phase that fails
(`answer_eq_error_iff`), and it has one such phase at most (`FailsAt.unique`).

* `Steps setting file start turns st`: the statements of `turns` are handled completely, one after
  the other, and lead from `start` to `st`.
* `Setting.AgreesUpTo` is how settings can differ without changing what happens up to a phase.
  That no later phase is run means that such settings come to the same.
* `FailsFirst` is all that there is to say about a failure, and `exists_failsFirst` is that it
  holds of every run that fails.
-/

namespace ImportMacros

/-- What is known of a module before its macro is called: that it is a macro, and the macro's
configuration name. -/
def Exports.configName? : Exports → Option (Option String)
  | .wrapped m => some m.configName
  | _ => none

namespace Expansion

inductive Phase where
  | shape
  | directory
  | resolution
  | loading
  | wrapping
  | configuration
  | body
deriving DecidableEq, Repr

def Phase.index : Phase → Nat
  | .shape => 0
  | .directory => 1
  | .resolution => 2
  | .loading => 3
  | .wrapping => 4
  | .configuration => 5
  | .body => 6

end Expansion

/-- The phases that can have a failure like this one. -/
def Failure.phases : Failure → List Expansion.Phase
  | .unsupported _ => [.shape]
  | .unresolved _ => [.directory, .resolution]
  | .unloadable _ => [.loading]
  | .notWrapped _ => [.wrapping]
  | .config _ => [.configuration]
  | .advice _ => [.body]
  | .macroFailed _ _ => [.body]
  | .reservedConfigName => []

theorem Failure.phases_ofRaised (source : String) (raised : Raised) :
    (Failure.ofRaised source raised).phases = [.body] := by
  rw [Failure.ofRaised]
  split <;> rfl

namespace Expansion

/-- A statement is used, and its source is resolved from a directory to a path. -/
structure Located (setting : Setting) (file : Option Path) (s : Statement) (st : State)
    (dir path : Path) : Prop where
  used : (references s st.program).isUsed = true
  directory : ∃ cwd, setting.fs.cwd = .ok cwd ∧ directory cwd file = dir
  resolved : setting.resolve s.source dir = .ok path

/-- A statement is used, and its source leads to a macro. -/
structure Found (setting : Setting) (file : Option Path) (s : Statement) (st : State)
    (found : Target) : Prop extends Located setting file s st found.dir found.path where
  wrapped : ∃ exports, setting.load found.path = .ok exports ∧
    exports.unwrapped = .wrapped found.wrapped

def configFor (setting : Setting) (s : Statement) (st : State) (found : Target) :
    Except Config.Failure (Option Fields) × Config.Explorer × List Event :=
  Config.forMacro setting.fs st.explorer setting.options found.wrapped.configName found.dir s.source

/-- All phases of a statement before this one come through, and this one fails. -/
inductive FailsAt (setting : Setting) (file : Option Path) (s : Statement) (st : State) :
    Phase → Failure → Prop where
  | shape {binding : UnsupportedBinding} :
      s.bindings = .error binding → FailsAt setting file s st .shape (.unsupported binding)
  | directory {error : IoError} :
      (references s st.program).isUsed = true → setting.fs.cwd = .error error →
      FailsAt setting file s st .directory (.unresolved (.adrift error))
  | resolution {cwd : Path} {error : ResolveError} :
      (references s st.program).isUsed = true → setting.fs.cwd = .ok cwd →
      setting.resolve s.source (Expansion.directory cwd file) = .error error →
      FailsAt setting file s st .resolution (.unresolved error)
  | loading {dir path : Path} {error : LoadError} :
      Located setting file s st dir path → setting.load path = .error error →
      FailsAt setting file s st .loading (.unloadable error)
  | wrapping {dir path : Path} {exports : Exports} :
      Located setting file s st dir path → setting.load path = .ok exports →
      (∀ m, exports.unwrapped ≠ .wrapped m) →
      FailsAt setting file s st .wrapping (.notWrapped s.source)
  | configuration {found : Target} {failure : Config.Failure} :
      Found setting file s st found → (configFor setting s st found).1 = .error failure →
      FailsAt setting file s st .configuration (.config failure)
  | body {found : Target} {config : Option Fields} {raised : Raised} :
      Found setting file s st found → (configFor setting s st found).1 = .ok config →
      (found.wrapped.body (callFor file s (references s st.program) config) st.program).answer =
        .error raised →
      FailsAt setting file s st .body (.ofRaised s.source raised)

/-- Settings that differ only in what phases after this one look at. -/
structure Setting.AgreesUpTo (setting setting' : Setting) (phase : Phase) : Prop where
  cwd : Phase.directory.index ≤ phase.index → setting'.fs.cwd = setting.fs.cwd
  resolve : Phase.resolution.index ≤ phase.index → setting'.resolve = setting.resolve
  exports : Phase.loading.index ≤ phase.index → ∀ path,
    (setting'.load.default path).map Exports.configName? =
      (setting.load.default path).map Exports.configName?
  config : Phase.configuration.index ≤ phase.index →
    setting'.fs = setting.fs ∧ setting'.options = setting.options
  load : phase = .body → setting'.load = setting.load

variable {setting setting' : Setting} {file : Option Path} {s : Statement} {st : State}
  {phase phase' : Phase} {failure failure' : Failure} {found : Target}

theorem Setting.AgreesUpTo.refl (setting : Setting) (phase : Phase) :
    setting.AgreesUpTo setting phase :=
  ⟨fun _ => rfl, fun _ => rfl, fun _ _ => rfl, fun _ => ⟨rfl, rfl⟩, fun _ => rfl⟩

theorem FailsAt.mem_phases (h : FailsAt setting file s st phase failure) :
    phase ∈ failure.phases := by
  cases h with
  | body _ _ _ => simp [Failure.phases_ofRaised]
  | _ => simp [Failure.phases]

/-! ## Targets -/

/-- What is known of a target before its macro is called. -/
def Target.plan (found : Target) : Option String × Path × Path :=
  (found.wrapped.configName, found.dir, found.path)

theorem default_of_load {load : Loader} {path : Path} {result : Except LoadError Exports}
    (h : load path = result) : load.default path = result.map Exports.unwrapped := by
  rw [Loader.default, h]

theorem target_of_cwd {source : String} {error : IoError} (hcwd : setting.fs.cwd = .error error) :
    target setting file source = .error (.unresolved (.adrift error)) := by
  simp only [target, hcwd]

theorem target_of_resolve {source : String} {cwd : Path} {error : ResolveError}
    (hcwd : setting.fs.cwd = .ok cwd)
    (hresolve : setting.resolve source (directory cwd file) = .error error) :
    target setting file source = .error (.unresolved error) := by
  simp only [target, hcwd, hresolve]

theorem Located.target_of_error {dir path : Path} {error : LoadError}
    (h : Located setting file s st dir path) (hload : setting.load path = .error error) :
    target setting file s.source = .error (.unloadable error) := by
  obtain ⟨cwd, hcwd, rfl⟩ := h.directory
  simp only [target, hcwd, h.resolved, default_of_load hload, Except.map]

theorem Located.target_of_ne {dir path : Path} {exports : Exports}
    (h : Located setting file s st dir path) (hload : setting.load path = .ok exports)
    (hexports : ∀ m, exports.unwrapped ≠ .wrapped m) :
    target setting file s.source = .error (.notWrapped s.source) := by
  obtain ⟨cwd, hcwd, rfl⟩ := h.directory
  simp only [target, hcwd, h.resolved, default_of_load hload, Except.map]

theorem Found.target (h : Found setting file s st found) :
    target setting file s.source = .ok found := by
  obtain ⟨cwd, hcwd, hdirectory⟩ := h.directory
  obtain ⟨exports, hload, hwrapped⟩ := h.wrapped
  simp only [Expansion.target, hcwd, hdirectory, h.resolved, default_of_load hload, Except.map,
    hwrapped]

/-- Whether there is a target, and what is known of it, does not depend on the bodies of macros. -/
theorem target_congr (hcwd : setting'.fs.cwd = setting.fs.cwd)
    (hresolve : setting'.resolve = setting.resolve)
    (hexports : ∀ path, (setting'.load.default path).map Exports.configName? =
      (setting.load.default path).map Exports.configName?) (file : Option Path) (source : String) :
    (target setting' file source).map Target.plan =
      (target setting file source).map Target.plan := by
  rw [target, target, hcwd, hresolve]
  cases setting.fs.cwd with
  | error error => rfl
  | ok cwd =>
    simp only
    cases setting.resolve source (directory cwd file) with
    | error error => rfl
    | ok path =>
      have hpath := hexports path
      simp only
      generalize setting'.load.default path = loaded' at hpath
      generalize setting.load.default path = loaded at hpath
      cases loaded' with
      | error error' =>
        cases loaded with
        | error error =>
          cases hpath
          rfl
        | ok exports => cases hpath
      | ok exports' =>
        cases loaded with
        | error error => cases hpath
        | ok exports =>
          have hname : exports'.configName? = exports.configName? := Except.ok.inj hpath
          cases exports' <;> cases exports <;>
            simp_all [Exports.configName?, Except.map, Target.plan]

theorem eq_error_of_map {α β ε : Type} {x y : Except ε α} {f : α → β} {error : ε}
    (h : x.map f = y.map f) (hy : y = .error error) : x = .error error := by
  subst hy
  cases x with
  | error e =>
    cases h
    rfl
  | ok a => cases h

theorem exists_of_map {α β ε : Type} {x y : Except ε α} {f : α → β} {b : α}
    (h : x.map f = y.map f) (hy : y = .ok b) : ∃ a, x = .ok a ∧ f a = f b := by
  subst hy
  cases x with
  | error e => cases h
  | ok a => exact ⟨a, rfl, Except.ok.inj h⟩

namespace Setting.AgreesUpTo

theorem target (h : setting.AgreesUpTo setting' phase)
    (hphase : Phase.loading.index ≤ phase.index) (file : Option Path) (source : String) :
    (target setting' file source).map Target.plan =
      (Expansion.target setting file source).map Target.plan := by
  have hdirectory : Phase.directory.index ≤ phase.index := by
    simp only [Phase.index] at hphase ⊢
    omega
  have hresolution : Phase.resolution.index ≤ phase.index := by
    simp only [Phase.index] at hphase ⊢
    omega
  exact target_congr (h.cwd hdirectory) (h.resolve hresolution) (h.exports hphase) file source

end Setting.AgreesUpTo

/-! ## Answers -/

def noted (s : Statement) (st : State) : State :=
  match s.bindings with
  | .error _ => st
  | .ok bindings => (st.tell [.found s.source]).tell <|
      (References.missing st.program bindings.scope bindings.items).map
        fun b => .undeclared b.importedName b.localName

theorem noted_frame (s : Statement) (st : State) :
    (noted s st).program = st.program ∧ (noted s st).calls = st.calls ∧
      (noted s st).explorer = st.explorer := by
  rw [noted]
  split <;> exact ⟨rfl, rfl, rfl⟩

theorem answer_of_bindings {binding : UnsupportedBinding} (h : s.bindings = .error binding) :
    answer setting file s st = (.error (.unsupported binding), noted s st) := by
  simp only [answer, noted, h]

theorem answer_of_isUsed (h : (references s st.program).isUsed = true) :
    answer setting file s st =
      applyUsed setting file s.source (references s st.program) (noted s st) := by
  cases hbindings : s.bindings with
  | error binding =>
    rw [references, hbindings] at h
    cases h
  | ok bindings =>
    simp only [references, hbindings] at h
    simp only [answer, apply, noted, references, hbindings, State.tell, h]
    rfl

theorem answer_of_target_error (hused : (references s st.program).isUsed = true)
    (htarget : target setting file s.source = .error failure) :
    answer setting file s st = (.error failure, noted s st) := by
  rw [answer_of_isUsed hused, applyUsed, htarget]

def settled (setting : Setting) (s : Statement) (st : State) (found : Target) : State :=
  { (noted s st).tell (configFor setting s st found).2.2 with
    explorer := (configFor setting s st found).2.1 }

theorem answer_of_config_error {failure : Config.Failure}
    (hused : (references s st.program).isUsed = true)
    (htarget : target setting file s.source = .ok found)
    (hconfig : (configFor setting s st found).1 = .error failure) :
    answer setting file s st = (.error (.config failure), settled setting s st found) := by
  rw [answer_of_isUsed hused, applyUsed, htarget]
  simp only [(noted_frame s st).2.2, settled]
  rw [← configFor]
  generalize configFor setting s st found = x at hconfig ⊢
  obtain ⟨result, explorer, events⟩ := x
  cases hconfig
  rfl

theorem answer_of_config {config : Option Fields}
    (hused : (references s st.program).isUsed = true)
    (htarget : target setting file s.source = .ok found)
    (hconfig : (configFor setting s st found).1 = .ok config) :
    answer setting file s st =
      invoke file s.source (references s st.program) found config
        (settled setting s st found) := by
  rw [answer_of_isUsed hused, applyUsed, htarget]
  simp only [(noted_frame s st).2.2, settled]
  rw [← configFor]
  generalize configFor setting s st found = x at hconfig ⊢
  obtain ⟨result, explorer, events⟩ := x
  cases hconfig
  rfl

theorem configFor_congr (h : setting.AgreesUpTo setting' phase)
    (hphase : Phase.configuration.index ≤ phase.index) {found' : Target}
    (hplan : found'.plan = found.plan) :
    configFor setting' s st found' = configFor setting s st found := by
  obtain ⟨hfs, hoptions⟩ := h.config hphase
  obtain ⟨hname, hdir, -⟩ : found'.wrapped.configName = found.wrapped.configName ∧
      found'.dir = found.dir ∧ found'.path = found.path := by simpa [Target.plan] using hplan
  rw [configFor, configFor, hfs, hoptions, hname, hdir]

namespace FailsAt

/-- Up to the configuration nothing is done but to tell of the statement. -/
theorem answer_noted (h : FailsAt setting file s st phase failure)
    (hphase : phase.index < Phase.configuration.index)
    (hagrees : setting.AgreesUpTo setting' phase) :
    answer setting' file s st = (.error failure, noted s st) := by
  cases h with
  | shape hbindings => exact answer_of_bindings hbindings
  | directory hused hcwd =>
    rw [← hagrees.cwd (by decide)] at hcwd
    exact answer_of_target_error hused (target_of_cwd hcwd)
  | resolution hused hcwd hresolve =>
    rw [← hagrees.cwd (by decide)] at hcwd
    rw [← hagrees.resolve (by decide)] at hresolve
    exact answer_of_target_error hused (target_of_resolve hcwd hresolve)
  | loading hlocated hload =>
    have htarget := hagrees.target (by decide) file s.source
    exact answer_of_target_error hlocated.used
      (eq_error_of_map htarget (hlocated.target_of_error hload))
  | wrapping hlocated hload hwrapped =>
    have htarget := hagrees.target (by decide) file s.source
    exact answer_of_target_error hlocated.used
      (eq_error_of_map htarget (hlocated.target_of_ne hload hwrapped))
  | configuration _ _ => exact absurd hphase (by decide)
  | body _ _ _ => exact absurd hphase (by decide)

theorem answer_settled (h : FailsAt setting file s st .configuration failure) :
    ∃ found, ∀ setting', setting.AgreesUpTo setting' .configuration →
      answer setting' file s st = (.error failure, settled setting s st found) := by
  cases h with
  | @configuration found failure hfound hconfig =>
    refine ⟨found, fun setting' hagrees => ?_⟩
    obtain ⟨found', htarget', hplan⟩ :=
      exists_of_map (hagrees.target (by decide) file s.source) hfound.target
    have hsame : configFor setting' s st found' = configFor setting s st found :=
      configFor_congr hagrees (by decide) hplan
    have hconfig' : (configFor setting' s st found').1 = .error failure := by rw [hsame, hconfig]
    rw [answer_of_config_error hfound.used htarget' hconfig', settled, settled, hsame]

theorem answer_invoked (h : FailsAt setting file s st .body failure) :
    ∃ found config, ∀ setting', setting.AgreesUpTo setting' .body →
      answer setting' file s st = (.error failure,
        (invoke file s.source (references s st.program) found config
          (settled setting s st found)).2) := by
  obtain ⟨hprogram, -, -⟩ := noted_frame s st
  generalize hphase : Phase.body = phase at h
  cases h with
  | @body found config raised hfound hconfig hraised =>
    refine ⟨found, config, fun setting' hagrees => ?_⟩
    have htarget : target setting' file s.source = .ok found := by
      rw [target, (hagrees.config (by decide)).1, hagrees.resolve (by decide), hagrees.load rfl]
      exact hfound.target
    have hsame : configFor setting' s st found = configFor setting s st found :=
      configFor_congr hagrees (by decide) rfl
    have hconfig' : (configFor setting' s st found).1 = .ok config := by rw [hsame, hconfig]
    rw [answer_of_config hfound.used htarget hconfig', settled, settled, hsame]
    simp only [invoke_callFor, State.tell, hprogram, hraised, Except.mapError]
  | _ => cases hphase

/-- A statement with a phase that fails is answered with its failure, and leaves the same state in
all settings that agree up to that phase. -/
theorem exists_answer (h : FailsAt setting file s st phase failure) :
    ∃ after, (∀ setting', setting.AgreesUpTo setting' phase →
        answer setting' file s st = (.error failure, after)) ∧
      (phase ≠ .body → after.program = st.program ∧ after.calls = st.calls) ∧
      (phase = .body → ∃ record, after.calls = st.calls ++ [record]) ∧
      (phase.index < Phase.configuration.index → after.explorer = st.explorer) := by
  obtain ⟨hprogram, hcalls, hexplorer⟩ := noted_frame s st
  by_cases hphase : phase.index < Phase.configuration.index
  · refine ⟨noted s st, fun setting' => h.answer_noted hphase, ?_, ?_, ?_⟩
    · exact fun _ => ⟨hprogram, hcalls⟩
    · rintro rfl
      exact absurd hphase (by decide)
    · exact fun _ => hexplorer
  -- From the configuration on the explorer may have changed, and in the body anything.
  · by_cases hbody : phase = .body
    · subst hbody
      obtain ⟨found, config, hafter⟩ := h.answer_invoked
      refine ⟨_, hafter, fun hne => absurd rfl hne, fun _ => ?_, fun hlt => absurd hlt hphase⟩
      simp only [invoke_callFor, settled, State.tell, hcalls]
      exact ⟨_, rfl⟩
    · obtain rfl : phase = .configuration := by
        cases phase <;> simp [Phase.index] at hphase hbody ⊢
      obtain ⟨found, hafter⟩ := h.answer_settled
      exact ⟨_, hafter, fun _ => ⟨hprogram, hcalls⟩, fun h => absurd h hbody,
        fun hlt => absurd hlt hphase⟩

end FailsAt

/-! ## Phases that fail -/

theorem FailsAt.answer_fst (h : FailsAt setting file s st phase failure) :
    (answer setting file s st).1 = .error failure := by
  obtain ⟨after, hafter, -⟩ := h.exists_answer
  rw [hafter setting (.refl setting phase)]

theorem FailsAt.unique (h : FailsAt setting file s st phase failure)
    (h' : FailsAt setting file s st phase' failure') : phase = phase' ∧ failure = failure' := by
  have hfailure : failure = failure' := Except.error.inj (h.answer_fst.symm.trans h'.answer_fst)
  subst hfailure
  refine ⟨?_, rfl⟩
  have hphase := h.mem_phases
  have hphase' := h'.mem_phases
  cases failure with
  | unresolved error =>
    simp only [Failure.phases, List.mem_cons, List.not_mem_nil, or_false] at hphase hphase'
    -- The working directory is known after one of the two phases only.
    rcases hphase with rfl | rfl
    · rcases hphase' with rfl | rfl
      · rfl
      · cases h with
        | directory _ hcwd =>
          cases h' with
          | resolution _ hcwd' _ =>
            rw [hcwd] at hcwd'
            cases hcwd'
    · rcases hphase' with rfl | rfl
      · cases h with
        | resolution _ hcwd _ =>
          cases h' with
          | directory _ hcwd' =>
            rw [hcwd] at hcwd'
            cases hcwd'
      · rfl
  | reservedConfigName => cases hphase
  | _ => exact (List.mem_singleton.1 hphase).trans (List.mem_singleton.1 hphase').symm

theorem Found.exists_failsAt (hfound : Found setting file s st found)
    (h : (answer setting file s st).1 = .error failure) :
    ∃ phase, FailsAt setting file s st phase failure := by
  cases hconfig : (configFor setting s st found).1 with
  | error error =>
    rw [answer_of_config_error hfound.used hfound.target hconfig] at h
    cases h
    exact ⟨_, .configuration hfound hconfig⟩
  | ok config =>
    rw [answer_of_config hfound.used hfound.target hconfig, invoke_callFor] at h
    simp only [settled, State.tell, (noted_frame s st).1] at h
    cases hanswer : (found.wrapped.body (callFor file s (references s st.program) config)
        st.program).answer with
    | ok request =>
      rw [hanswer] at h
      cases h
    | error raised =>
      rw [hanswer] at h
      cases h
      exact ⟨_, .body hfound hconfig hanswer⟩

theorem Located.exists_failsAt {dir path : Path} (hlocated : Located setting file s st dir path)
    (h : (answer setting file s st).1 = .error failure) :
    ∃ phase, FailsAt setting file s st phase failure := by
  cases hload : setting.load path with
  | error error =>
    rw [answer_of_target_error hlocated.used (hlocated.target_of_error hload)] at h
    cases h
    exact ⟨_, .loading hlocated hload⟩
  | ok exports =>
    by_cases hexports : ∃ m, exports.unwrapped = .wrapped m
    · obtain ⟨m, hwrapped⟩ := hexports
      have hfound : Found setting file s st ⟨m, path, dir⟩ :=
        { hlocated with wrapped := ⟨exports, hload, hwrapped⟩ }
      exact hfound.exists_failsAt h
    · have hbare := not_exists.1 hexports
      rw [answer_of_target_error hlocated.used (hlocated.target_of_ne hload hbare)] at h
      cases h
      exact ⟨_, .wrapping hlocated hload hbare⟩

theorem exists_failsAt (h : (answer setting file s st).1 = .error failure) :
    ∃ phase, FailsAt setting file s st phase failure := by
  cases hbindings : s.bindings with
  | error binding =>
    rw [answer_of_bindings hbindings] at h
    cases h
    exact ⟨_, .shape hbindings⟩
  | ok bindings =>
    cases hused : (references s st.program).isUsed with
    | false =>
      simp only [references, hbindings] at hused
      simp [answer, apply, hbindings, State.tell, hused] at h
    | true =>
      cases hcwd : setting.fs.cwd with
      | error error =>
        rw [answer_of_target_error hused (target_of_cwd hcwd)] at h
        cases h
        exact ⟨_, .directory hused hcwd⟩
      | ok cwd =>
        cases hresolve : setting.resolve s.source (directory cwd file) with
        | error error =>
          rw [answer_of_target_error hused (target_of_resolve hcwd hresolve)] at h
          cases h
          exact ⟨_, .resolution hused hcwd hresolve⟩
        | ok path =>
          have hlocated : Located setting file s st (directory cwd file) path :=
            ⟨hused, ⟨cwd, hcwd, rfl⟩, hresolve⟩
          exact hlocated.exists_failsAt h

theorem answer_eq_error_iff : (answer setting file s st).1 = .error failure ↔
    ∃ phase, FailsAt setting file s st phase failure :=
  ⟨exists_failsAt, fun ⟨_, h⟩ => h.answer_fst⟩

/-! ## Runs that fail -/

inductive Steps (setting : Setting) (file : Option Path) : State → List Turn → State → Prop where
  | refl {st : State} : Steps setting file st [] st
  | cons {st middle last : State} {s : Statement} {turns : List Turn} :
      st.program.firstStatement? setting.isWanted st.handled = some s →
      handle setting file s st = .next middle → Steps setting file middle turns last →
      Steps setting file st (⟨s, st⟩ :: turns) last

variable {start last : State} {turns : List Turn}

theorem Steps.not_failsAt (h : Steps setting file start turns st) {t : Turn} (ht : t ∈ turns) :
    ¬FailsAt setting file t.statement t.before phase failure := by
  induction h with
  | refl => cases ht
  | @cons st middle last s turns hs hhandle _ ih =>
    rcases List.mem_cons.1 ht with rfl | ht
    · intro hfails
      obtain ⟨request, after, hanswer, -⟩ := handle_eq_next hhandle
      have herror := hfails.answer_fst
      rw [hanswer] at herror
      cases herror
    · exact ih ht

theorem step_eq_next {middle : State} (h : step setting file start = .next middle) :
    ∃ s, start.program.firstStatement? setting.isWanted start.handled = some s ∧
      handle setting file s start = .next middle := by
  rw [step] at h
  split at h
  · cases h
  · rename_i s hs
    exact ⟨s, hs, h⟩

theorem step_eq_failed (h : step setting file start = .failed failure last) :
    ∃ s, start.program.firstStatement? setting.isWanted start.handled = some s ∧
      answer setting file s start = (.error failure, last) := by
  rw [step] at h
  split at h
  · cases h
  · rename_i s hs
    exact ⟨s, hs, handle_eq_failed h⟩

theorem run_eq_failed {limit : Nat} (h : run setting file limit start = .failed failure last) :
    step setting file start = .failed failure last ∨
      ∃ rest middle, limit = rest + 1 ∧ step setting file start = .next middle ∧
        run setting file rest middle = .failed failure last := by
  cases hstep : step setting file start with
  | done => cases limit <;> simp [run, hstep] at h
  | failed failure' last' =>
    left
    cases limit <;> simpa [run, hstep] using h
  | next middle =>
    right
    cases limit with
    | zero => simp [run, hstep] at h
    | succ rest => exact ⟨rest, middle, rfl, rfl, by simpa [run, hstep] using h⟩

theorem exists_steps {limit : Nat} (h : run setting file limit start = .failed failure last) :
    ∃ turns s st, Steps setting file start turns st ∧
      st.program.firstStatement? setting.isWanted st.handled = some s ∧
      answer setting file s st = (.error failure, last) := by
  induction limit using Nat.strongRecOn generalizing start with
  | _ limit ih =>
    rcases run_eq_failed h with hstep | ⟨rest, middle, rfl, hstep, hrun⟩
    · obtain ⟨s, hs, hanswer⟩ := step_eq_failed hstep
      exact ⟨[], s, start, .refl, hs, hanswer⟩
    · obtain ⟨s, hs, hhandle⟩ := step_eq_next hstep
      obtain ⟨turns, s', st, hsteps, hs', hanswer⟩ := ih rest (Nat.lt_succ_self rest) hrun
      exact ⟨_, s', st, .cons hs hhandle hsteps, hs', hanswer⟩

/-- A run from `start` handles the statements of `turns` completely, and fails at a phase of the
statement after them. -/
structure FailsFirst (setting : Setting) (file : Option Path) (start : State) (failure : Failure)
    (last : State) (turns : List Turn) (s : Statement) (st : State) (phase : Phase) : Prop where
  steps : Steps setting file start turns st
  before : ∀ t ∈ turns, ∀ phase failure, ¬FailsAt setting file t.statement t.before phase failure
  next : st.program.firstStatement? setting.isWanted st.handled = some s
  fails : FailsAt setting file s st phase failure
  kind : phase ∈ failure.phases
  /-- No other phase of the statement could be meant. -/
  only : ∀ phase' failure', FailsAt setting file s st phase' failure' →
    phase' = phase ∧ failure' = failure
  later : ∀ setting', setting.AgreesUpTo setting' phase →
    answer setting' file s st = (.error failure, last)
  /-- The program is left as the statement was found in it, unless its macro has run. -/
  program : .body ∉ failure.phases →
    last.program = st.program ∧ s ∈ last.program.statements setting.isWanted
  uncalled : phase ≠ .body → last.calls = st.calls
  called : phase = .body → ∃ record, last.calls = st.calls ++ [record]
  /-- Configuration is looked for only if the phases before it come through. -/
  explorer : phase.index < Phase.configuration.index → last.explorer = st.explorer

/-- A run that fails does so at the first statement that has a phase that fails, and no later than
in that phase. -/
theorem exists_failsFirst {limit : Nat}
    (h : run setting file limit start = .failed failure last) :
    ∃ turns s st phase, FailsFirst setting file start failure last turns s st phase := by
  obtain ⟨turns, s, st, hsteps, hs, hanswer⟩ := exists_steps h
  obtain ⟨phase, hfails⟩ := exists_failsAt (Prod.ext_iff.1 hanswer).1
  obtain ⟨after, hafter, huncalled, hcalled, hexplorer⟩ := hfails.exists_answer
  have hlast : after = last := by
    rw [hafter setting (.refl setting phase)] at hanswer
    exact (Prod.ext_iff.1 hanswer).2
  subst hlast
  refine ⟨turns, s, st, phase, ?_⟩
  exact {
    steps := hsteps
    before := fun t ht _ _ => hsteps.not_failsAt ht
    next := hs
    fails := hfails
    kind := hfails.mem_phases
    only := fun _ _ h => h.unique hfails
    later := hafter
    program := by
      intro hkind
      have hphase : phase ≠ .body := fun h => hkind (h ▸ hfails.mem_phases)
      have hprogram := (huncalled hphase).1
      rw [hprogram]
      exact ⟨rfl, (Program.mem_of_firstStatement? hs).1⟩
    uncalled := fun hphase => (huncalled hphase).2
    called := hcalled
    explorer := hexplorer }

def withoutModules : Setting :=
  { Setting.loading fun _ p => ⟨.ok none, p⟩ with load := fun path => .error (.missing path) }

/-- An import that is not used, and a `require` that is. -/
def requiringProgram : Program := ⟨true, Span.none, .null, [
  .importOf ⟨⟨1, 9⟩, "a.macro"⟩ ⟨"a", 2, ⟨2, 3⟩, false⟩,
  .constOf [.requireOf ⟨⟨10, 19⟩, "b.macro"⟩ (.binder ⟨"b", 2, ⟨11, 12⟩, false⟩ .absent)],
  .useOf ⟨"b", 2, ⟨20, 21⟩, false⟩]⟩

/-- The import goes, and the `require` fails to load. -/
theorem failsFirst_requiringProgram :
    ∃ last, expand withoutModules {} none requiringProgram =
        .failed (.unloadable (.missing (Path.ofText "b.macro"))) last ∧
      (last.program.statements isMacroName).length = 1 ∧
      ∃ turns s st phase, FailsFirst withoutModules none { program := requiringProgram }
        (.unloadable (.missing (Path.ofText "b.macro"))) last turns s st phase := by
  have hfailed : ∃ last, expand withoutModules {} none requiringProgram =
      .failed (.unloadable (.missing (Path.ofText "b.macro"))) last := ⟨_, rfl⟩
  obtain ⟨last, hlast⟩ := hfailed
  refine ⟨last, hlast, ?_, exists_failsFirst hlast⟩
  have hstate : last = (expand withoutModules {} none requiringProgram).state := by
    rw [hlast]
    rfl
  rw [hstate]
  decide

end Expansion
end ImportMacros
