import ImportMacros.Macro

/-!
# ImportMacros.Module

What macro modules export, and the registry that holds them. Modules are registered by path and
told apart by the components of their paths; the latest registration of a path counts.
-/

namespace ImportMacros

inductive Exports where
  | wrapped (m : Macro)
  /-- A function that was not made into a macro. -/
  | bare
  | value (v : Value)
  /-- A module with a default export, or without one. -/
  | esModule (default : Option Exports)
deriving Inhabited

namespace Exports

/-- The default export of a module that has one; anything else is taken as it is. -/
def unwrapped : Exports → Exports
  | .esModule (some default) => default
  | exports => exports

end Exports

inductive LoadError where
  /-- Nothing is registered for the path. -/
  | missing (path : Path)
  | refused (reason : String)
deriving DecidableEq, Repr, Inhabited

def LoadError.message : LoadError → String
  | .missing path => "Cannot find module '" ++ path.text ++ "'"
  | .refused reason => reason

abbrev Loader := Path → Except LoadError Exports

/-- Modules by path, the latest first. -/
structure Registry where
  modules : List (List Component × Except LoadError Exports) := []
deriving Inhabited

namespace Registry

def register (registry : Registry) (path : Path) (exports : Exports) : Registry :=
  ⟨(path.components, .ok exports) :: registry.modules⟩

/-- Registers a module that fails to load. -/
def refuse (registry : Registry) (path : Path) (reason : String) : Registry :=
  ⟨(path.components, .error (.refused reason)) :: registry.modules⟩

def load (registry : Registry) : Loader := fun path =>
  match registry.modules.lookup path.components with
  | some result => result
  | none => .error (.missing path)

end Registry

/-- Loads a module, and takes its default export if it has one. -/
def Loader.default (load : Loader) (path : Path) : Except LoadError Exports :=
  (load path).map Exports.unwrapped

end ImportMacros
