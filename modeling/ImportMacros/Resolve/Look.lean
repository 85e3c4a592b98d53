import ImportMacros.Resolve.Error

/-!
# ImportMacros.Resolve.Look

A search that looks around in a monad `m` and can fail.
-/

namespace ImportMacros
namespace Resolve

/-- A search that looks around and can fail. -/
abbrev Look (m : Type → Type) := ExceptT ResolveError m

namespace Look

variable {m : Type → Type} [Monad m]

/-- A result that is known without looking. -/
def of {α : Type} (result : Except ResolveError α) : Look m α := ExceptT.mk (pure result)

/-- The first result that some step over a list has, or the first error. -/
def firstOf {α β : Type} (f : α → Look m (Option β)) : List α → Look m (Option β)
  | [] => return none
  | a :: rest => do
    match ← f a with
    | some b => return some b
    | none => firstOf f rest

end Look
end Resolve
end ImportMacros
