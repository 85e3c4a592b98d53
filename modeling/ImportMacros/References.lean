import ImportMacros.Statement
import ImportMacros.Tree.Variables

/-!
# ImportMacros.References

Where the bindings of a statement are used. `References` maps each imported name to the places of
its uses. A place is an identifier with its position, not the node, so that it stays valid while
the program changes around it.
-/

namespace ImportMacros

structure Site where
  name : String
  scope : Nat
  span : Span
deriving DecidableEq, Repr, Inhabited

def Ident.site (id : Ident) : Site := ⟨id.name, id.scope, id.span⟩

/-- The places of the uses of each imported name, in the order in which the names come first. -/
abbrev References := List (String × List Site)

namespace References

/-- Makes a name present. -/
def touch : References → String → References
  | [], name => [(name, [])]
  | (n, sites) :: rest, name =>
    if n = name then (n, sites) :: rest else (n, sites) :: touch rest name

def add : References → String → Site → References
  | [], name, site => [(name, [site])]
  | (n, sites) :: rest, name, site =>
    if n = name then (n, sites ++ [site]) :: rest else (n, sites) :: add rest name site

def sites? (refs : References) (name : String) : Option (List Site) := List.lookup name refs

/-- The imported name that an identifier refers to: the first one with its place. -/
def importedName? (refs : References) (id : Ident) : Option String :=
  (refs.find? fun entry => entry.2.contains id.site).map (·.1)

def contains (refs : References) (id : Ident) : Bool := (refs.importedName? id).isSome

def isUsed (refs : References) : Bool := refs.any fun entry => !entry.2.isEmpty

/-- Which variable stands for which imported name; the latest binding of a variable counts. -/
abbrev Scope := List (Variable × String)

/-- The names of the bindings that `declared` holds, and what their variables stand for. -/
def enter (declared : List Variable) (scope : Nat) (refs : References) (known : Scope) :
    List Binding → References × Scope
  | [] => (refs, known)
  | binding :: rest =>
    if declared.contains ⟨binding.localName, scope⟩ then
      enter declared scope (refs.touch binding.importedName)
        ((⟨binding.localName, scope⟩, binding.importedName) :: known) rest
    else enter declared scope refs known rest

/-- Adds the places of all identifiers that stand for a name. -/
def record (known : Scope) (refs : References) : List Ident → References
  | [] => refs
  | id :: rest =>
    match List.lookup id.toVariable known with
    | some name => record known (refs.add name id.site) rest
    | none => record known refs rest

/-- The uses of some bindings in a program, looked up in a scope. A binding that is no longer
declared is left out; one that is declared is present even if it is never used. -/
def collect (p : Program) (scope : Nat) (bindings : List Binding) : References :=
  let (names, known) := enter p.declared scope [] [] bindings
  record known names p.uses

/-- The bindings that are left out, since the program does not declare them in the scope. -/
def missing (p : Program) (scope : Nat) (bindings : List Binding) : List Binding :=
  bindings.filter fun binding => !p.declared.contains ⟨binding.localName, scope⟩

end References
end ImportMacros
