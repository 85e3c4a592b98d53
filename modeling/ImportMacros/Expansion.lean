import ImportMacros.Failure
import ImportMacros.Statement.Find
import ImportMacros.Statement.Remove

/-!
# ImportMacros.Expansion

The expansion of a program: the first statement that is not handled yet is handled, and so on
until none is left. To handle a statement is to call its macro, if any of its bindings is used,
and to remove the statement unless the macro asks for it to stay.

* `Expansion.target` finds the macro of a source, in four stages of which the first that fails
  tells why.
* `Expansion.apply` calls the macro of a statement.
* `Expansion.handle` handles one statement, `Expansion.step` the first that is not handled.
* `Expansion.run` repeats that, up to a limit.

Every function leaves a state also when it fails, so that what happened before can be told.
-/

namespace ImportMacros
namespace Expansion

structure Setting where
  fs : FileSystem
  resolve : Resolver
  load : Loader
  /-- Which sources name macro modules. -/
  isWanted : String → Bool := isMacroName
  /-- The configuration of macros, by configuration name. -/
  options : Fields := []

structure State where
  program : Program
  /-- The statements that stay and are done with. -/
  handled : List Key := []
  explorer : Config.Explorer := {}
  events : List Event := []
  calls : List Macro.Record := []
deriving Inhabited

def State.tell (st : State) (events : List Event) : State :=
  { st with events := st.events ++ events }

/-- A macro that was found for a source: itself, its path, and the directory it was looked for
from. -/
structure Target where
  wrapped : Macro
  path : Path
  dir : Path
deriving Inhabited

/-- The directory of a file. A program without a file name is taken to be in the working
directory. -/
def directory (cwd : Path) (file : Option Path) : Path :=
  let full :=
    match file with
    | some name => cwd.join name
    | none => cwd.join (Path.ofText "index")
  full.parent?.getD cwd

/-- The macro that a source stands for in a file. -/
def target (setting : Setting) (file : Option Path) (source : String) : Except Failure Target :=
  match setting.fs.cwd with
  | .error error => .error (.unresolved (.adrift error))
  | .ok cwd =>
    let dir := directory cwd file
    match setting.resolve source dir with
    | .error error => .error (.unresolved error)
    | .ok path =>
      match setting.load.default path with
      | .error error => .error (.unloadable error)
      | .ok (.wrapped m) => .ok ⟨m, path, dir⟩
      | .ok _ => .error (.notWrapped source)

def invoke (file : Option Path) (source : String) (refs : References) (target : Target)
    (config : Option Fields) (st : State) : Except Failure (Option Request) × State :=
  let call : Call := {
    references := refs
    source := source
    filename := file
    config := config.map .object
    isExpansion := true }
  let reply := target.wrapped.call call st.program
  let after := { st.tell [.invoking target.path] with
    program := reply.program
    calls := st.calls ++ target.wrapped.record call }
  match reply.answer with
  | .ok request => (.ok request, after)
  | .error raised => (.error (.ofRaised source raised), after)

/-- Calls the macro of a source whose bindings are used as `refs` tells. -/
def applyUsed (setting : Setting) (file : Option Path) (source : String) (refs : References)
    (st : State) : Except Failure (Option Request) × State :=
  match target setting file source with
  | .error failure => (.error failure, st)
  | .ok target =>
    match Config.forMacro setting.fs st.explorer setting.options target.wrapped.configName
        target.dir source with
    | (.error failure, explorer, events) =>
      (.error (.config failure), { st.tell events with explorer := explorer })
    | (.ok config, explorer, events) =>
      invoke file source refs target config { st.tell events with explorer := explorer }

/-- Calls the macro of a statement if any of its bindings is used. -/
def apply (setting : Setting) (file : Option Path) (s : Statement) (bindings : Bindings)
    (st : State) : Except Failure (Option Request) × State :=
  let refs := References.collect st.program bindings.scope bindings.items
  let lost := References.missing st.program bindings.scope bindings.items
  let st := st.tell (lost.map fun b => .undeclared b.importedName b.localName)
  if refs.isUsed then applyUsed setting file s.source refs st
  else (.ok none, st.tell [.unused])

def removalEvents (s : Statement) (p : Program) (removed : Bool) : List Event :=
  match s with
  | .importing key _ => if p.isModule then [.removedImport key.source] else []
  | .requiring key _ => if removed then [.removedRequire key.source] else []

/-- Removes a statement whose macro is done, or marks it as handled if it stays. -/
def finish (s : Statement) (request : Option Request) (st : State) : State :=
  if request.any (·.keepImports) then { st with handled := s.key :: st.handled }
  else
    match st.program.remove s with
    | (p, removed) =>
      let st := { st.tell (removalEvents s st.program removed) with program := p }
      if removed then st else { st with handled := s.key :: st.handled }

inductive Step where
  /-- No statement is left. -/
  | done
  | next (st : State)
  | failed (failure : Failure) (st : State)
deriving Inhabited

/-- What the macro of a statement answers; nothing if none of its bindings is used. -/
def answer (setting : Setting) (file : Option Path) (s : Statement) (st : State) :
    Except Failure (Option Request) × State :=
  match s.bindings with
  | .error binding => (.error (.unsupported binding), st)
  | .ok bindings => apply setting file s bindings (st.tell [.found s.source])

def handle (setting : Setting) (file : Option Path) (s : Statement) (st : State) : Step :=
  match answer setting file s st with
  | (.error failure, st) => .failed failure st
  | (.ok request, st) => .next (finish s request st)

/-- Handles the first statement that is not handled yet. -/
def step (setting : Setting) (file : Option Path) (st : State) : Step :=
  match st.program.firstStatement? setting.isWanted st.handled with
  | none => .done
  | some s => handle setting file s st

inductive Outcome where
  | finished (st : State)
  | failed (failure : Failure) (st : State)
  /-- The limit was reached before the end. -/
  | cutShort (st : State)
deriving Inhabited

def Outcome.state : Outcome → State
  | .finished st => st
  | .failed _ st => st
  | .cutShort st => st

def Outcome.failure? : Outcome → Option Failure
  | .failed failure _ => some failure
  | _ => none

/-- Handles statements until none is left, at most `limit` of them. -/
def run (setting : Setting) (file : Option Path) : Nat → State → Outcome
  | 0, st =>
    match step setting file st with
    | .done => .finished st
    | .failed failure st => .failed failure st
    | .next _ => .cutShort st
  | limit + 1, st =>
    match step setting file st with
    | .done => .finished st
    | .failed failure st => .failed failure st
    | .next st => run setting file limit st

/-- How many statements beyond those of the program an expansion handles, before it gives up on
macros that bring in new statements without end. -/
def stepLimit : Nat := 100000

/-- Expands a program, with an explorer that earlier expansions may have used. -/
def expand (setting : Setting) (explorer : Config.Explorer) (file : Option Path) (p : Program) :
    Outcome :=
  run setting file ((p.statements setting.isWanted).length + stepLimit)
    { program := p, explorer := explorer }

end Expansion
end ImportMacros
