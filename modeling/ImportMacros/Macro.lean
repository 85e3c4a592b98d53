import ImportMacros.Path
import ImportMacros.References

/-!
# ImportMacros.Macro

Macros: functions from a program to a program, which are told where the names imported from them
are used. A macro answers to an expansion only; called by anything else it fails. Its
configuration name is its own choice, but for one name that is reserved (`Macro.create?`).
-/

namespace ImportMacros

structure Call where
  references : References
  /-- The source that the macro was imported from, as written. -/
  source : String
  filename : Option Path
  /-- The macro's configuration, if it has a configuration name. -/
  config : Option Value
  isExpansion : Bool
deriving Repr, Inhabited

/-- What a macro asks for when it is done. -/
structure Request where
  keepImports : Bool
deriving DecidableEq, Repr, Inhabited

/-- What is at the bottom of a macro's failure. -/
inductive Cause where
  /-- A message that the macro's author wrote for the user. -/
  | advice (message : String)
  | fault (message : String)
deriving DecidableEq, Repr, Inhabited

def Cause.message : Cause → String
  | .advice message => message
  | .fault message => message

/-- A macro's failure: its cause and the context added to it, the outermost first. -/
structure Raised where
  contexts : List String
  cause : Cause
deriving DecidableEq, Repr, Inhabited

def Raised.message (raised : Raised) : String :=
  raised.contexts.head?.getD raised.cause.message

def Raised.ofCause (cause : Cause) : Raised := ⟨[], cause⟩

structure Reply where
  answer : Except Raised (Option Request)
  program : Program
deriving Inhabited

def reservedConfigName : String := "options"

structure Macro where
  /-- A name to tell it by. -/
  title : String
  /-- The section of the configuration that is meant for it. -/
  configName : Option String
  /-- What it does. It depends on the call and the program alone, so a macro that keeps a state from
  one call to the next is not of this form. -/
  body : Call → Program → Reply
  notReserved : configName ≠ some reservedConfigName

namespace Macro

instance : Inhabited Macro := ⟨⟨"", none, fun _ p => ⟨.ok none, p⟩, by simp⟩⟩

def create? (title : String) (configName : Option String) (body : Call → Program → Reply) :
    Option Macro :=
  if h : configName = some reservedConfigName then none else some ⟨title, configName, body, h⟩

def userDocs : String :=
  "https://github.com/kentcdodds/babel-plugin-macros/blob/master/other/docs/user.md"

/-- Why a macro fails when no expansion calls it. -/
def outsideExpansion (source : String) : Cause :=
  .advice <| "The macro you imported from \"" ++ source ++
    "\" is being executed outside the context of compilation with babel-plugin-macros. " ++
    "This indicates that you don't have the babel plugin \"babel-plugin-macros\" configured " ++
    "correctly. Please see the documentation for how to configure babel-plugin-macros properly: " ++
    userDocs

def call (m : Macro) (c : Call) (p : Program) : Reply :=
  if c.isExpansion then m.body c p else ⟨.error (.ofCause (outsideExpansion c.source)), p⟩

/-- A call that reached a macro's body. -/
structure Record where
  title : String
  call : Call
deriving Repr, Inhabited

/-- The record of a call: none if it did not reach the macro's body. -/
def record (m : Macro) (c : Call) : List Record :=
  if c.isExpansion then [⟨m.title, c⟩] else []

end Macro
end ImportMacros
