import ImportMacros.Code.Parser

/-!
# ImportMacros.Code.Pattern

What values can be bound or assigned to: names, and arrays and objects of patterns. The target of
an assignment can also be a member of an object.
-/

namespace ImportMacros
namespace Code

open ImportMacros.Code.Parser

def membersOf (g : Grammar) (start : Nat) (object : Tree) : Nat → Parser Tree
  | 0 => fail
  | limit + 1 => do
    if ← eatMark "." then
      let (name, span) ← anyWord
      membersOf g start (.node .member (← spanFrom start) [] [object, nameAt name span]) limit
    else if ← isAtMark "[" then
      let key ← propertyKey g
      membersOf g start (.node .member (← spanFrom start) [] [object, key]) limit
    else return object

/-- Reads a name, or a member of an object if those are allowed. -/
def simpleTarget (g : Grammar) (members : Bool) : Parser Tree := do
  let start ← here
  let id ← identifier
  let isMember ← pure members <&&> (isAtMark "." <||> isAtMark "[")
  if isMember then membersOf g start (.use id) ((← get).rest.length + 1)
  else return .binder id .absent

def withDefault (g : Grammar) (pattern : Parser Tree) : Parser Tree := do
  let start ← here
  let left ← pattern
  if ← eatMark "=" then
    let right ← g.assignment
    return .node .assignmentPattern (← spanFrom start) [] [left, right]
  else return left

def restElement (g : Grammar) (members : Bool) : Parser Tree := do
  let start ← here
  mark "..."
  let argument ← g.pattern members
  return .node .restElement (← spanFrom start) [] [argument]

def patternItem (g : Grammar) (members : Bool) : Parser Tree := do
  if ← isAtMark "..." then restElement g members else withDefault g (g.pattern members)

def arrayPattern (g : Grammar) (members : Bool) : Parser Tree := do
  let start ← here
  mark "["
  let elements ← commaList "]" do
    if ← isAtMark "," then return .absent
    patternItem g members
  return .node .arrayPattern (← spanFrom start) [] [.seq elements]

def patternProperty (g : Grammar) (members : Bool) : Parser Tree := do
  let start ← here
  if ← isAtMark "..." then restElement g members
  else
    let short ← attempt do
      let id ← identifier
      require (!(← isAtMark ":"))
      return id
    match short with
    | some id =>
      let value ← do
        if ← eatMark "=" then g.assignment else pure Tree.absent
      return .node .assignmentPatternProperty (← spanFrom start) [] [.binder id .absent, value]
    | none =>
      let key ← propertyKey g
      mark ":"
      let value ← withDefault g (g.pattern members)
      return .node .keyValuePatternProperty Span.none [] [key, value]

def objectPattern (g : Grammar) (members : Bool) : Parser Tree := do
  let start ← here
  mark "\x7b"
  let properties ← commaList "\x7d" (patternProperty g members)
  return .node .objectPattern (← spanFrom start) [] [.seq properties]

def pattern (g : Grammar) (members : Bool) : Parser Tree := do
  match (← peek).token with
  | .mark "[" => arrayPattern g members
  | .mark "\x7b" => objectPattern g members
  | _ => simpleTarget g members

/-- Reads the parameters of a function, after the opening parenthesis. -/
def parameters (g : Grammar) : Parser (List Tree) := commaList ")" (patternItem g false)

def functionRest (g : Grammar) : Parser (Tree × Tree) := do
  mark "("
  let patterns ← parameters g
  let body ← block g
  return (.seq (patterns.map fun p => .node .parameter (spanOf p) [] [p]), body)
where
  spanOf : Tree → Span
    | .node _ span _ _ => span
    | .binder id _ => id.span
    | _ => Span.none

end Code
end ImportMacros
