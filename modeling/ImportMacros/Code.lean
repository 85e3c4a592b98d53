import ImportMacros.Code.Printer
import ImportMacros.Code.Reader
import ImportMacros.Code.Scope
import ImportMacros.Expansion

/-!
# ImportMacros.Code

Program text in, program text out. `Code.transform` reads a text, resolves its scopes, changes the
program and writes it again; `Expansion.ofCode?` expands the macros of a text.
-/

namespace ImportMacros

structure Code.Printed where
  isModule : Bool
  text : String
deriving DecidableEq, Repr, Inhabited

/-- Why a text could not be transformed. -/
inductive Code.Refusal (ε : Type) where
  | malformed
  | failed (cause : ε)
deriving Repr, Inhabited

def Code.malformedMessage : String := "Failed to parse module"

/-- The program that a text spells, with every identifier in its scope. -/
def Program.ofResolvedCode? (text : String) : Option Program :=
  (Program.ofCode? text).map Program.resolved

def Program.print (p : Program) : Code.Printed := ⟨p.isModule, p.toCode⟩

def Code.transform {ε : Type} (change : Program → Except ε Program) (text : String) :
    Except (Code.Refusal ε) Code.Printed :=
  match Program.ofResolvedCode? text with
  | none => .error .malformed
  | some p =>
    match change p with
    | .error cause => .error (.failed cause)
    | .ok p => .ok p.print

namespace Expansion

def ofCode? (setting : Setting) (explorer : Config.Explorer) (file : Option Path)
    (text : String) : Option Outcome :=
  (Program.ofResolvedCode? text).map (expand setting explorer file)

end Expansion
end ImportMacros
