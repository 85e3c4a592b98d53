import ImportMacros.Config.Merge
import ImportMacros.Module
import ImportMacros.Resolve.Error
import ImportMacros.Text.Pattern

/-!
# ImportMacros.Failure

Everything that can end an expansion, and its wording. A message that a macro's author wrote for
the user is passed on as it is; any other failure of a macro names the source that the macro was
imported from, with a link to the package unless the source is a relative path.
-/

namespace ImportMacros

inductive Failure where
  /-- A macro's author has something to say. -/
  | advice (message : String)
  /-- What was imported is no macro. -/
  | notWrapped (source : String)
  | reservedConfigName
  | unresolved (error : ResolveError)
  | unloadable (error : LoadError)
  | unsupported (binding : UnsupportedBinding)
  | config (failure : Config.Failure)
  /-- A macro failed in any other way. -/
  | macroFailed (source : String) (raised : Raised)
deriving DecidableEq, Repr, Inhabited

namespace Failure

open Text (Pattern)

/-- A stretch of a source between slashes. -/
def segment : Pattern := .run (· != '/')

/-- A scope, with the slash after it. -/
def scope : Pattern := .seq (.one (· == '@')) (.seq segment (.one (· == '/')))

def packagePattern : Pattern := .seq (.maybe scope) segment

/-- The package that a source belongs to. What follows its name on the same line is cut off. -/
def packageName (source : List Char) : List Char :=
  packagePattern.keep (.maybe (.run (· != '\n'))) source

def authorDocs : String :=
  "https://github.com/kentcdodds/babel-plugin-macros/blob/master/other/docs/author.md" ++
    "#writing-a-macro"

/-- Where to read about the package of a source; nowhere for a relative path. -/
def learnMore (source : String) : String :=
  if source.toList.head? = some '.' then ""
  else
    " Learn more: https://www.npmjs.com/package/" ++ String.ofList (packageName source.toList)

/-- The wording of a failure; the errors that some resolvers give have none. -/
def message? : Failure → Option String
  | .advice message => some message
  | .notWrapped source =>
    some <| "The macro imported from \"" ++ source ++
      "\" must be wrapped in createMacro which you can get from \"babel-plugin-macros\". " ++
      "Please refer to the documentation to see how to do this properly: " ++ authorDocs
  | .reservedConfigName =>
    some "You cannot use the configName \"options\". It is reserved for babel-plugin-macros."
  | .unresolved error => error.message?
  | .unloadable error => some error.message
  | .unsupported binding => some binding.message
  | .config failure => some failure.message
  | .macroFailed source raised => some (source ++ ": " ++ raised.message ++ learnMore source)

def ofRaised (source : String) (raised : Raised) : Failure :=
  match raised.cause with
  | .advice message => .advice message
  | .fault _ => .macroFailed source raised

end Failure
end ImportMacros
