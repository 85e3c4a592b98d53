import ImportMacros.Code.Parser
import ImportMacros.Text.Entity

/-!
# ImportMacros.Code.Element

Markup in program text: elements with attributes and children, and fragments, which have only
children. Between tags every character counts.
-/

namespace ImportMacros
namespace Code

open ImportMacros.Code.Parser

/-- Reads white space, and a character if it comes next. -/
def eatChar (char : Char) : Parser Bool := fun c =>
  (skip .blank 0 false c.rest).map fun (count, _) =>
    let after := c.drop count
    if after.rest.head? = some char then (true, after.past 1) else (false, c)

def char (char : Char) : Parser Unit := do require (← eatChar char)

def isAtChar (char : Char) : Parser Bool := do
  let c ← get
  let found ← eatChar char
  set c
  return found

/-- Reads a name, which may have hyphens in it. -/
def markupName : Parser (String × Span) := fun c =>
  (skip .blank 0 false c.rest).bind fun (count, _) =>
    let c := c.drop count
    let name := c.rest.takeWhile fun char => Text.continuesIdent char || char = '-'
    if name.head?.any Text.startsIdent then
      let next := c.past name.length
      some ((String.ofList name, ⟨c.place, next.last⟩), next)
    else none

def nameMembers (start : Nat) (object : Tree) : Nat → Parser Tree
  | 0 => fail
  | limit + 1 => do
    if ← eatChar '.' then
      let (name, span) ← markupName
      let member := Tree.node .jsxMemberExpression (← spanFrom start) [] [object, nameAt name span]
      nameMembers start member limit
    else return object

def namespacedAt (space name : String × Span) (span : Span) : Tree :=
  .node .jsxNamespacedName span [] [nameAt space.1 space.2, nameAt name.1 name.2]

def elementName : Parser Tree := do
  let (name, span) ← markupName
  if ← eatChar ':' then
    let inner ← markupName
    return namespacedAt (name, span) inner (← spanFrom span.start)
  else nameMembers span.start (.use (identAt name span)) ((← get).rest.length + 1)

/-- Reads a quoted value, in which nothing is escaped. -/
def quotedValue : Parser Tree := fun c =>
  (skip .blank 0 false c.rest).bind fun (count, _) =>
    let c := c.drop count
    match c.rest with
    | quote :: rest =>
      let body := rest.takeWhile (· != quote)
      if (quote = '"' || quote = '\'') && body.length < rest.length then
        let next := c.past (body.length + 2)
        some (stringAt (String.ofList (quote :: body ++ [quote]))
          (String.ofList (Text.decodeEntities none body)) ⟨c.place, next.last⟩, next)
      else none
    | [] => none

/-- Reads an expression in braces. -/
def container (g : Grammar) : Parser Tree := do
  let start ← here
  mark "\x7b"
  if ← eatMark "..." then
    let value ← g.expression
    mark "\x7d"
    return .node .jsxSpreadChild (← spanFrom start) [] [value]
  else if ← eatMark "\x7d" then
    let span ← spanFrom start
    return .node .jsxExpressionContainer span [] [.node .jsxEmptyExpression span [] []]
  else
    let value ← g.expression
    mark "\x7d"
    return .node .jsxExpressionContainer (← spanFrom start) [] [value]

def attributeValue (g : Grammar) : Parser Tree := do
  if ← isAtChar '\x7b' then container g
  else if ← isAtChar '<' then g.element
  else quotedValue

/-- Reads an attribute, or attributes spread from an object. -/
def markupAttribute (g : Grammar) : Parser Tree := do
  if ← eatChar '\x7b' then
    let start ← here
    mark "..."
    let spread ← spanFrom start
    let value ← g.assignment
    mark "\x7d"
    return .node .spreadElement Span.none [("spread", spread.toValue)] [value]
  else
    let (text, span) ← markupName
    let name ← do
      if ← eatChar ':' then
        let inner ← markupName
        pure (namespacedAt (text, span) inner (← spanFrom span.start))
      else pure (nameAt text span)
    let value ← do
      if ← eatChar '=' then attributeValue g else pure Tree.absent
    return .node .jsxAttribute (← spanFrom span.start) [] [name, value]

def markupText : Parser Tree := fun c =>
  let text := c.rest.takeWhile fun char => char != '<' && char != '\x7b'
  let next := c.past text.length
  if text.isEmpty then none
  else
    some (.node .jsxText ⟨c.place, next.last⟩
      [("value", .string (String.ofList (Text.decodeEntities none text))),
        ("raw", .string (String.ofList text))] [], next)

def children (g : Grammar) : Parser (List Tree) :=
  many do
    match (← get).rest with
    | '<' :: '/' :: _ => return none
    | '<' :: _ => return some (← g.element)
    | '\x7b' :: _ => return some (← container g)
    | _ => return some (← markupText)

/-- Whether two names of elements are spelled alike. -/
def sameName : Tree → Tree → Bool
  | .use a, .use b => a.name == b.name
  | .node _ _ data₁ [a, .node _ _ own₁ []], .node _ _ data₂ [b, .node _ _ own₂ []] =>
    data₁.length == data₂.length && sameName a b && value own₁ == value own₂
  | .node _ _ data₁ [], .node _ _ data₂ [] => value data₁ == value data₂
  | _, _ => false
where
  value (data : Fields) : Option String :=
    match Fields.get? data "value" with
    | some (.string text) => some text
    | _ => none

def element (g : Grammar) : Parser Tree := do
  let start ← here
  char '<'
  if ← eatChar '>' then
    let opening := Tree.node .jsxOpeningFragment (← spanFrom start) [] []
    let inner ← children g
    let close ← here
    char '<'
    char '/'
    char '>'
    let closing := Tree.node .jsxClosingFragment (← spanFrom close) [] []
    return .node .jsxFragment (← spanFrom start) [] [opening, .seq inner, closing]
  else
    let name ← elementName
    let attributes ← many do
      if ← isAtChar '>' <||> isAtChar '/' then return none
      return some (← markupAttribute g)
    let selfClosing ← eatChar '/'
    char '>'
    let opening := Tree.node .jsxOpeningElement (← spanFrom start)
      [("selfClosing", .bool selfClosing)] [name, .seq attributes]
    if selfClosing then
      return .node .jsxElement (← spanFrom start) [] [opening, .seq [], .absent]
    else
      let inner ← children g
      let close ← here
      char '<'
      char '/'
      let closingName ← elementName
      require (sameName name closingName)
      char '>'
      let closing := Tree.node .jsxClosingElement (← spanFrom close) [] [closingName]
      return .node .jsxElement (← spanFrom start) [] [opening, .seq inner, closing]

end Code
end ImportMacros
