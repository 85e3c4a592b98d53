/-!
# ImportMacros.Resolve.Source

The sources of imports: a path or the name of a package, which a query and a fragment may follow.
-/

namespace ImportMacros
namespace Resolve

structure Source where
  path : List Char
  query : Option (List Char)
  fragment : Option (List Char)
deriving DecidableEq, Repr, Inhabited

namespace Source

/-- Cuts a text at the first `#` that does not follow a null character; `before` is the character
before the text. -/
def cutFragment (before : Char) : List Char → List Char × Option (List Char)
  | [] => ([], none)
  | c :: cs =>
    if c = '#' && before != '\x00' then ([], some (c :: cs))
    else
      match cutFragment c cs with
      | (path, fragment) => (c :: path, fragment)

/-- Cuts a text at its last `?`. -/
def cutQuery : List Char → List Char × Option (List Char)
  | [] => ([], none)
  | c :: cs =>
    match cutQuery cs with
    | (path, some query) => (c :: path, some query)
    | (path, none) => if c = '?' then ([], some (c :: path)) else (c :: path, none)

/-- A text without the null characters that keep a `#` from starting a fragment. -/
def unescape : List Char → List Char
  | [] => []
  | c :: cs => if c = '\x00' && cs.head? = some '#' then unescape cs else c :: unescape cs

/-- Cuts a source into its parts. A leading slash, dot or `#` belongs to the path. There must be a
path. -/
def parse? (text : String) : Option Source :=
  match text.toList with
  | [] => none
  | c :: cs =>
    let lead := if c = '/' || c = '.' || c = '#' then [c] else []
    let (body, fragment) := cutFragment c ((c :: cs).drop lead.length)
    let (path, query) := cutQuery body
    let path := unescape (lead ++ path)
    if path.isEmpty then none else some ⟨path, query, fragment⟩

/-- The name of a package at the start of a path, and the rest with its slash. A name that starts
with `@` has two segments. -/
def splitPackage (path : List Char) : List Char × List Char :=
  let first := path.takeWhile (· != '/')
  let rest := path.dropWhile (· != '/')
  if path.head? = some '@' then
    match rest with
    | [] => (first, [])
    | slash :: rest =>
      (first ++ slash :: rest.takeWhile (· != '/'), rest.dropWhile (· != '/'))
  else (first, rest)

/-- What follows the name of a package in a path, if the path starts with that name. -/
def afterPackage? (name path : List Char) : Option (List Char) :=
  if name.isPrefixOf path then
    let rest := path.drop name.length
    if rest.isEmpty || rest.head? = some '/' then some rest else none
  else none

end Source
end Resolve
end ImportMacros
