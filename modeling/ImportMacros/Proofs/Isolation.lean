import ImportMacros.Proofs.Explorer
import ImportMacros.Proofs.Loop

/-!
# ImportMacros.Proofs.Isolation

Expansions that share an explorer do not influence each other. As long as the file system stays as
it is and answers alike for all spellings of a path, an expansion comes out as with a fresh
explorer, whatever was expanded before, successfully or not (`report_eq_of_reached`). All that can
differ is how the path of a configuration file is spelled in a failure, so a `Report` has those
paths by their components.

The simulation relates states that differ in what their explorers remember, as long as both
remember the truth (`State.Alike`). Only the search for configuration looks at the explorer
(`forMacro_congr`), so every step takes alike states to alike states (`step_alike`).
-/

namespace ImportMacros
namespace Config

/-- A failure, with its path apart and by its components. -/
def Failure.view : Failure → Failure × List Component
  | .mismatch path name type => (.mismatch Path.root name type, path.components)
  | .search error => (.search error.view.1, error.view.2)

section Lookup

variable {fs : FileSystem} {explorer explorer' : Explorer}

theorem Explorer.Sound.view_search (h : explorer.Sound fs) (h' : explorer'.Sound fs) (dir : Path) :
    Config.view (explorer.search fs dir).1 = Config.view (explorer'.search fs dir).1 := by
  rw [search_fst, search_fst, h.outcome (upward_ancestors dir),
    h'.outcome (upward_ancestors dir)]

theorem combine_congr {loaded loaded' : Option Loaded}
    (h : loaded.map Loaded.view = loaded'.map Loaded.view) (name : String) (own : Option Value) :
    (combine name (ofFile loaded name) own).1.mapError Failure.view =
      (combine name (ofFile loaded' name) own).1.mapError Failure.view := by
  cases loaded with
  | none =>
    cases loaded' with
    | none => rfl
    | some l' => cases h
  | some l =>
    cases loaded' with
    | none => cases h
    | some l' =>
      obtain ⟨hpath, hconfig⟩ : l.path.components = l'.path.components ∧ l.config = l'.config := by
        simpa [Loaded.view] using h
      simp only [ofFile, Option.bind_some, hconfig]
      cases l'.config.field? name with
      | none => rfl
      | some value =>
        simp only [Option.map_some, combine]
        split
        · rfl
        · split
          · simp only [Except.mapError, Failure.view, hpath]
          · rfl

theorem forName_congr (h : explorer.Sound fs) (h' : explorer'.Sound fs) (options : Fields)
    (name : String) (dir : Path) (source : String) :
    (forName fs explorer options name dir source).1.mapError Failure.view =
      (forName fs explorer' options name dir source).1.mapError Failure.view := by
  have hview := h.view_search h' dir
  rw [forName, forName]
  generalize explorer.search fs dir = x at hview
  generalize explorer'.search fs dir = y at hview
  obtain ⟨error | loaded, e, events⟩ := x
  · obtain ⟨error' | loaded', e', events'⟩ := y
    · have herror : error.view = error'.view := Except.error.inj hview
      simp only
      split
      · rfl
      · simp only [Except.mapError, Failure.view, herror]
    · cases hview
  · obtain ⟨error' | loaded', e', events'⟩ := y
    · cases hview
    · exact combine_congr (Except.ok.inj hview) name (ofOptions options name)

theorem forMacro_congr (h : explorer.Sound fs) (h' : explorer'.Sound fs) (options : Fields)
    (name : Option String) (dir : Path) (source : String) :
    (forMacro fs explorer options name dir source).1.mapError Failure.view =
      (forMacro fs explorer' options name dir source).1.mapError Failure.view := by
  cases name with
  | none => rfl
  | some name =>
    have hname := forName_congr h h' options name dir source
    rw [forMacro, forMacro]
    generalize forName fs explorer options name dir source = x at hname
    generalize forName fs explorer' options name dir source = y at hname
    obtain ⟨x, e, events⟩ := x
    obtain ⟨y, e', events'⟩ := y
    obtain ⟨failure, failure', rfl, rfl, hfailure⟩ | ⟨fields, rfl, rfl⟩ := mapError_cases hname
    · simp only [Except.mapError, hfailure]
    · rfl

theorem explorer_forName (fs : FileSystem) (explorer : Explorer) (options : Fields) (name : String)
    (dir : Path) (source : String) :
    (forName fs explorer options name dir source).2.1 = (explorer.search fs dir).2.1 := by
  rw [forName]
  split
  · rename_i hsearch
    rw [hsearch]
  · rename_i hsearch
    rw [hsearch]
    split <;> rfl

/-- Looking up a configuration is a search, or nothing at all. -/
theorem explorer_forMacro (fs : FileSystem) (explorer : Explorer) (options : Fields)
    (name : Option String) (dir : Path) (source : String) :
    (forMacro fs explorer options name dir source).2.1 = explorer ∨
      (forMacro fs explorer options name dir source).2.1 = (explorer.search fs dir).2.1 := by
  cases name with
  | none => exact .inl rfl
  | some name =>
    rw [← explorer_forName fs explorer options name dir source, forMacro]
    split
    · rename_i hname
      rw [hname]
      exact .inr rfl
    · rename_i hname
      rw [hname]
      exact .inr rfl

theorem Explorer.Sound.forMacro (hfs : fs.IsLexical) (h : explorer.Sound fs) (options : Fields)
    (name : Option String) (dir : Path) (source : String) :
    (forMacro fs explorer options name dir source).2.1.Sound fs := by
  rcases explorer_forMacro fs explorer options name dir source with heq | heq
  · rw [heq]
    exact h
  · rw [heq]
    exact h.search hfs dir

end Lookup

end Config

def Failure.view : Failure → Failure × List Component
  | .config failure => (.config failure.view.1, failure.view.2)
  | failure => (failure, [])

namespace Expansion

open Config (mapError_cases)

variable {setting : Setting} {file : Option Path}

/-! ## Alike states -/

/-- States that differ at most in the events and in what their explorers remember. -/
structure State.Alike (fs : FileSystem) (st st' : State) : Prop where
  program : st.program = st'.program
  handled : st.handled = st'.handled
  calls : st.calls = st'.calls
  sound : st.explorer.Sound fs
  sound' : st'.explorer.Sound fs

/-- Answers that differ at most in the paths of failures, and leave alike states. -/
def AlikeAnswers (fs : FileSystem) (x y : Except Failure (Option Request) × State) : Prop :=
  x.1.mapError Failure.view = y.1.mapError Failure.view ∧ State.Alike fs x.2 y.2

section Turn

variable {st st' : State}

theorem State.Alike.tell {fs : FileSystem} (h : State.Alike fs st st')
    (events events' : List Event) : State.Alike fs (st.tell events) (st'.tell events') :=
  ⟨h.program, h.handled, h.calls, h.sound, h.sound'⟩

theorem State.Alike.invoke {fs : FileSystem} (h : State.Alike fs st st') (file : Option Path)
    (s : Statement) (refs : References) (target : Target) (config : Option Fields) :
    AlikeAnswers fs (invoke file s.source refs target config st)
      (invoke file s.source refs target config st') := by
  rw [invoke_callFor, invoke_callFor, h.program, h.calls]
  exact ⟨rfl, rfl, h.handled, rfl, h.sound, h.sound'⟩

theorem State.Alike.applyUsed (hfs : setting.fs.IsLexical) (h : State.Alike setting.fs st st')
    (file : Option Path) (s : Statement) (refs : References) :
    AlikeAnswers setting.fs (applyUsed setting file s.source refs st)
      (applyUsed setting file s.source refs st') := by
  rw [Expansion.applyUsed, Expansion.applyUsed]
  cases htarget : target setting file s.source with
  | error failure => exact ⟨rfl, h⟩
  | ok target =>
    have hconfig := Config.forMacro_congr h.sound h.sound' setting.options
      target.wrapped.configName target.dir s.source
    have hsound := h.sound.forMacro hfs setting.options target.wrapped.configName target.dir
      s.source
    have hsound' := h.sound'.forMacro hfs setting.options target.wrapped.configName target.dir
      s.source
    simp only
    -- The lookups differ in the explorers alone: the failures are alike, or the configurations equal.
    generalize Config.forMacro setting.fs st.explorer setting.options target.wrapped.configName
      target.dir s.source = x at hconfig hsound
    generalize Config.forMacro setting.fs st'.explorer setting.options target.wrapped.configName
      target.dir s.source = y at hconfig hsound'
    obtain ⟨x, e, events⟩ := x
    obtain ⟨y, e', events'⟩ := y
    obtain ⟨failure, failure', rfl, rfl, hfailure⟩ | ⟨config, rfl, rfl⟩ := mapError_cases hconfig
    · refine ⟨?_, h.program, h.handled, h.calls, hsound, hsound'⟩
      simp only [Except.mapError, Failure.view, hfailure]
    · have hmiddle : State.Alike setting.fs { st.tell events with explorer := e }
          { st'.tell events' with explorer := e' } :=
        ⟨h.program, h.handled, h.calls, hsound, hsound'⟩
      exact hmiddle.invoke file s refs target config

theorem State.Alike.answer (hfs : setting.fs.IsLexical) (h : State.Alike setting.fs st st')
    (file : Option Path) (s : Statement) :
    AlikeAnswers setting.fs (answer setting file s st) (answer setting file s st') := by
  unfold Expansion.answer
  cases s.bindings with
  | error binding => exact ⟨rfl, h⟩
  | ok bindings =>
    have htold := (h.tell [.found s.source] [.found s.source]).tell
    simp only
    rw [Expansion.apply, Expansion.apply, show (st.tell [.found s.source]).program =
      (st'.tell [.found s.source]).program from h.program]
    cases (References.collect (st'.tell [.found s.source]).program bindings.scope
        bindings.items).isUsed with
    | true =>
      rw [if_pos rfl, if_pos rfl]
      exact (htold _ _).applyUsed hfs file s _
    | false =>
      rw [if_neg Bool.false_ne_true, if_neg Bool.false_ne_true]
      exact ⟨rfl, (htold _ _).tell _ _⟩

theorem State.Alike.finish {fs : FileSystem} (h : State.Alike fs st st') (s : Statement)
    (request : Option Request) : State.Alike fs (finish s request st) (finish s request st') := by
  obtain ⟨hcalls, hexplorer⟩ := finish_frame s request st
  obtain ⟨hcalls', hexplorer'⟩ := finish_frame s request st'
  refine ⟨?_, ?_, ?_, ?_, ?_⟩
  · cases hkeeps : request.any (·.keepImports) with
    | true => simp only [finish_of_keeps hkeeps, h.program]
    | false => rw [finish_program hkeeps, finish_program hkeeps, h.program]
  · cases hkeeps : request.any (·.keepImports) with
    | true => simp only [finish_of_keeps hkeeps, h.handled]
    | false => rw [finish_handled hkeeps, finish_handled hkeeps, h.program, h.handled]
  · rw [hcalls, hcalls', h.calls]
  · rw [hexplorer]
    exact h.sound
  · rw [hexplorer']
    exact h.sound'

end Turn

/-! ## Alike expansions -/

inductive Step.Alike (fs : FileSystem) : Step → Step → Prop where
  | done : Alike fs .done .done
  | next {st st' : State} : State.Alike fs st st' → Alike fs (.next st) (.next st')
  | failed {failure failure' : Failure} {st st' : State} :
      failure.view = failure'.view → State.Alike fs st st' →
      Alike fs (.failed failure st) (.failed failure' st')

inductive Outcome.Alike (fs : FileSystem) : Outcome → Outcome → Prop where
  | finished {st st' : State} : State.Alike fs st st' → Alike fs (.finished st) (.finished st')
  | failed {failure failure' : Failure} {st st' : State} :
      failure.view = failure'.view → State.Alike fs st st' →
      Alike fs (.failed failure st) (.failed failure' st')
  | cutShort {st st' : State} : State.Alike fs st st' → Alike fs (.cutShort st) (.cutShort st')

theorem step_alike (hfs : setting.fs.IsLexical) (file : Option Path) {st st' : State}
    (h : State.Alike setting.fs st st') :
    Step.Alike setting.fs (step setting file st) (step setting file st') := by
  rw [step, step, h.program, h.handled]
  cases st'.program.firstStatement? setting.isWanted st'.handled with
  | none => exact .done
  | some s =>
    obtain ⟨hresult, hstate⟩ := h.answer hfs file s
    simp only [handle]
    generalize answer setting file s st = x at hresult hstate
    generalize answer setting file s st' = y at hresult hstate
    obtain ⟨x, middle⟩ := x
    obtain ⟨y, middle'⟩ := y
    obtain ⟨failure, failure', rfl, rfl, hfailure⟩ | ⟨request, rfl, rfl⟩ := mapError_cases hresult
    · exact .failed hfailure hstate
    · exact .next (hstate.finish s request)

theorem run_alike (hfs : setting.fs.IsLexical) (file : Option Path) (limit : Nat)
    {st st' : State} (h : State.Alike setting.fs st st') :
    Outcome.Alike setting.fs (run setting file limit st) (run setting file limit st') := by
  induction limit generalizing st st' with
  | zero =>
    have hstep := step_alike hfs file h
    rw [run, run]
    generalize step setting file st = x at hstep
    generalize step setting file st' = y at hstep
    cases hstep with
    | done => exact .finished h
    | next _ => exact .cutShort h
    | failed hfailure hstate => exact .failed hfailure hstate
  | succ limit ih =>
    have hstep := step_alike hfs file h
    rw [run, run]
    generalize step setting file st = x at hstep
    generalize step setting file st' = y at hstep
    cases hstep with
    | done => exact .finished h
    | next hstate => exact ih hstate
    | failed hfailure hstate => exact .failed hfailure hstate

/-- What an expansion shows. -/
structure Report where
  program : Program
  calls : List Macro.Record
  failure : Option (Failure × List Component)
  /-- Whether it came to an end within its limit. -/
  isWhole : Bool

def Outcome.report (outcome : Outcome) : Report where
  program := outcome.state.program
  calls := outcome.state.calls
  failure := outcome.failure?.map Failure.view
  isWhole :=
    match outcome with
    | .cutShort _ => false
    | _ => true

theorem Outcome.Alike.state {fs : FileSystem} {outcome outcome' : Outcome}
    (h : Outcome.Alike fs outcome outcome') : State.Alike fs outcome.state outcome'.state := by
  cases h with
  | finished hstate => exact hstate
  | failed _ hstate => exact hstate
  | cutShort hstate => exact hstate

theorem Outcome.Alike.report {fs : FileSystem} {outcome outcome' : Outcome}
    (h : Outcome.Alike fs outcome outcome') : outcome.report = outcome'.report := by
  have hprogram := h.state.program
  have hcalls := h.state.calls
  cases h with
  | finished _ => simp only [Outcome.report, Outcome.failure?, hprogram, hcalls]
  | failed hfailure _ =>
    simp only [Outcome.report, Outcome.failure?, Option.map_some, hprogram, hcalls, hfailure]
  | cutShort _ => simp only [Outcome.report, Outcome.failure?, hprogram, hcalls]

/-! ## Histories -/

/-- The explorers that there can be after some expansions in a setting, of any programs in any
files and with any limits. -/
inductive Reached (setting : Setting) : Config.Explorer → Prop where
  | fresh : Reached setting {}
  | after {explorer : Config.Explorer} (file : Option Path) (limit : Nat) (p : Program) :
      Reached setting explorer →
      Reached setting
        (run setting file limit { program := p, explorer := explorer }).state.explorer

theorem Reached.expand {explorer : Config.Explorer} (h : Reached setting explorer)
    (file : Option Path) (p : Program) :
    Reached setting (expand setting explorer file p).state.explorer :=
  h.after file _ p

theorem Reached.sound (hfs : setting.fs.IsLexical) {explorer : Config.Explorer}
    (h : Reached setting explorer) : explorer.Sound setting.fs := by
  induction h with
  | fresh => exact Config.Explorer.sound_empty setting.fs
  | after file limit p _ ih =>
    have hstart : State.Alike setting.fs { program := p, explorer := _ }
        { program := p, explorer := _ } := ⟨rfl, rfl, rfl, ih, ih⟩
    exact (run_alike hfs file limit hstart).state.sound

/-- An expansion shows the same after any others as with a fresh explorer, within its own limit
and within any other. -/
theorem report_eq_of_reached (hfs : setting.fs.IsLexical) {explorer : Config.Explorer}
    (h : Reached setting explorer) (file : Option Path) (p : Program) :
    (expand setting explorer file p).report = (expand setting {} file p).report ∧
    ∀ limit, (run setting file limit { program := p, explorer := explorer }).report =
      (run setting file limit { program := p }).report := by
  have hstart : State.Alike setting.fs { program := p, explorer := explorer } { program := p } :=
    ⟨rfl, rfl, rfl, h.sound hfs, Config.Explorer.sound_empty setting.fs⟩
  refine ⟨(run_alike hfs file _ hstart).report, fun limit => ?_⟩
  exact (run_alike hfs file limit hstart).report

/-- A setting in which every source leads to one macro that has a configuration. -/
def configured : Setting where
  fs := Config.Explorer.twoDirectories.fileSystem
  resolve := fun source _ => .ok (Path.ofText source)
  load := fun _ => .ok (.wrapped ⟨"macro", some "m", fun _ p => ⟨.ok none, p⟩, by decide⟩)

def importingProgram : Program := ⟨true, Span.none, .null, [
  .importOf ⟨⟨1, 9⟩, "a.macro"⟩ ⟨"a", 2, ⟨2, 3⟩, false⟩, .useOf ⟨"a", 2, ⟨20, 21⟩, false⟩]⟩

/-- After an expansion below `/a` and one below `/b`, which fails on the broken package
description there, another one below `/a` is as the first. -/
theorem report_importingProgram :
    let first := expand configured {} (some (Path.ofText "/a//x/f.js")) importingProgram
    let second := expand configured first.state.explorer (some (Path.ofText "/b/y/f.js"))
      importingProgram
    let file := some (Path.ofText "/a/x/./g.js")
    first.failure?.isNone = true ∧ second.failure?.isSome = true ∧
      first.state.explorer.known.length = 2 ∧
      (expand configured second.state.explorer file importingProgram).report =
        (expand configured {} file importingProgram).report := by
  intro first second file
  have hsecond : Reached configured second.state.explorer :=
    (Reached.fresh.expand _ _).expand _ _
  have hfs : configured.fs.IsLexical := Config.Explorer.twoDirectories.isLexical
  exact ⟨by decide, by decide, by decide, (report_eq_of_reached hfs hsecond file _).1⟩

end Expansion
end ImportMacros
