import ImportMacros.Resolve
import ImportMacros.Text.Debug

/-!
# ImportMacros.Resolve.Debug

A finder as it is shown to a programmer.
-/

namespace ImportMacros
namespace Resolve

/-- A finder with the places it looks in after `node_modules`. -/
def Finder.debug {m : Type → Type} (f : Finder m) : String :=
  "NodeResolvePath \x7b paths: [" ++ ", ".intercalate ((f.places.drop 1).map Text.debugPath) ++
    "] \x7d"

end Resolve
end ImportMacros
