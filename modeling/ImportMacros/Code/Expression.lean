import ImportMacros.Code.Element
import ImportMacros.Code.Pattern

/-!
# ImportMacros.Code.Expression

Expressions, from literals up to sequences, with functions, arrows, templates and elements. There
are no classes, methods, accessors, regular expressions or optional chaining. Parentheses are nodes
of their own, so that an expression is written as it was read.
-/

namespace ImportMacros
namespace Code

open ImportMacros.Code.Parser

/-- Reads an expression that may be spread. -/
def argument (g : Grammar) : Parser Tree := do
  let start ← here
  let spread ← do
    if ← eatMark "..." then pure (← spanFrom start).toValue else pure Value.null
  let value ← g.assignment
  return .node .argument Span.none [("spread", spread)] [value]

def arguments (g : Grammar) : Parser Tree := do
  mark "("
  return .seq (← commaList ")" (argument g))

def arrayLiteral (g : Grammar) : Parser Tree := do
  let start ← here
  mark "["
  let items ← commaList "]" do
    if ← isAtMark "," then return Tree.absent
    argument g
  return .node .array (← spanFrom start) [] [.seq items]

def property (g : Grammar) : Parser Tree := do
  let start ← here
  if ← eatMark "..." then
    let spread ← spanFrom start
    let value ← g.assignment
    return .node .spreadElement Span.none [("spread", spread.toValue)] [value]
  else
    let short ← attempt do
      let id ← identifier
      require ((← isAtMark ",") || (← isAtMark "\x7d"))
      return id
    match short with
    | some id => return .use id
    | none =>
      let key ← propertyKey g
      mark ":"
      let value ← g.assignment
      return .node .keyValueProperty Span.none [] [key, value]

def objectLiteral (g : Grammar) : Parser Tree := do
  let start ← here
  mark "\x7b"
  let properties ← commaList "\x7d" (property g)
  return .node .object (← spanFrom start) [] [.seq properties]

/-- The characters of a template up to the next expression or the end, and whether it ends. -/
def templateBody : List Char → Option (List Char × Bool)
  | [] => none
  | '`' :: _ => some ([], true)
  | '$' :: '\x7b' :: _ => some ([], false)
  | '\\' :: c :: cs => (templateBody cs).map fun (body, ends) => ('\\' :: c :: body, ends)
  | c :: cs => (templateBody cs).map fun (body, ends) => (c :: body, ends)

/-- A text in which every line ends alike. -/
def oneLineEnd : List Char → List Char
  | [] => []
  | '\r' :: '\n' :: cs => '\n' :: oneLineEnd cs
  | '\r' :: cs => '\n' :: oneLineEnd cs
  | c :: cs => c :: oneLineEnd cs

/-- Reads a piece of a template and what ends it; tells whether that is the end of the template. -/
def templateElement : Parser (Tree × Bool) := fun c =>
  (templateBody c.rest).map fun (body, ends) =>
    let after := c.past body.length
    let raw := oneLineEnd body
    let cooked :=
      match unescape? raw with
      | some text => Value.string text
      | none => Value.null
    ((.node .templateElement ⟨c.place, after.last⟩
        [("raw", .string (String.ofList raw)), ("cooked", cooked), ("tail", .bool ends)] [], ends),
      after.past (if ends then 1 else 2))

/-- Reads the rest of a template: pieces, and an expression after each but the last. -/
def templateRest (g : Grammar) : Nat → Parser (List Tree × List Tree)
  | 0 => fail
  | limit + 1 => do
    match ← templateElement with
    | (quasi, true) => return ([], [quasi])
    | (quasi, false) =>
      let value ← g.expression
      mark "\x7d"
      let (values, quasis) ← templateRest g limit
      return (value :: values, quasi :: quasis)

def template (g : Grammar) : Parser Tree := do
  let start ← here
  mark "`"
  let (values, quasis) ← templateRest g ((← get).rest.length + 1)
  return .node .templateLiteral (← spanFrom start) [] [.seq values, .seq quasis]

def functionExpression (g : Grammar) : Parser Tree := do
  let start ← here
  word "function"
  let name ← do
    if ← isAtMark "(" then pure Tree.absent else pure (.use (← identifier))
  let (params, body) ← functionRest g
  return .node .functionExpression (← spanFrom start) [] [name, params, body]

def parenthesis (g : Grammar) : Parser Tree := do
  let start ← here
  mark "("
  let inner ← g.expression
  mark ")"
  return .node .parenthesis (← spanFrom start) [] [inner]

def wordExpression (g : Grammar) : Parser Tree := do
  if ← isAt (.word "function") then functionExpression g
  else
    let (text, span) ← anyWord
    match text with
    | "this" => return .node .thisExpression span [] []
    | "null" => return .node .nullLiteral span [] []
    | "true" => return .node .boolean span [("value", .bool true)] []
    | "false" => return .node .boolean span [("value", .bool false)] []
    | text =>
      require (!reserved.contains text)
      return .use (identAt text span)

/-- Reads an expression that no operator splits. -/
def primary (g : Grammar) : Parser Tree := do
  match (← peek).token with
  | .word _ => wordExpression g
  | .number _ => numberLiteral
  | .quoted _ _ => stringLiteral
  | .mark "(" => parenthesis g
  | .mark "[" => arrayLiteral g
  | .mark "\x7b" => objectLiteral g
  | .mark "`" => template g
  | .mark "<" => element g
  | _ => fail

/-- Reads the members, templates and, if `calls`, the calls after an expression. -/
def tailOf (g : Grammar) (calls : Bool) (start : Nat) (object : Tree) : Nat → Parser Tree
  | 0 => fail
  | limit + 1 => do
    match (← peek).token with
    | .mark "." =>
      mark "."
      let (name, span) ← anyWord
      tailOf g calls start (.node .member (← spanFrom start) [] [object, nameAt name span]) limit
    | .mark "[" =>
      let keyStart ← here
      mark "["
      let key ← g.expression
      mark "]"
      let key := Tree.node .computed (← spanFrom keyStart) [] [key]
      tailOf g calls start (.node .member (← spanFrom start) [] [object, key]) limit
    | .mark "`" =>
      let quasi ← template g
      tailOf g calls start (.node .taggedTemplate (← spanFrom start) [] [object, quasi]) limit
    | .mark "(" =>
      if calls then
        let args ← arguments g
        tailOf g calls start (.node .call (← spanFrom start) [] [object, args]) limit
      else return object
    | _ => return object

/-- Reads an expression with `new` any number of times in front. -/
def newExpression (g : Grammar) : Nat → Parser Tree
  | 0 => fail
  | limit + 1 => do
    let start ← here
    if ← eatWord "new" then
      let callee ← newExpression g limit
      let callee ← tailOf g false start callee ((← get).rest.length + 1)
      let args ← do
        if ← isAtMark "(" then arguments g else pure Tree.absent
      return .node .newExpression (← spanFrom start) [] [callee, args]
    else primary g

/-- Reads an expression with members and calls after it. -/
def leftHandSide (g : Grammar) : Parser Tree := do
  let start ← here
  let inner ← newExpression g ((← get).rest.length + 1)
  tailOf g true start inner ((← get).rest.length + 1)

/-- Reads an expression that may be counted up or down afterwards. -/
def postfixed (g : Grammar) : Parser Tree := do
  let start ← here
  let target ← leftHandSide g
  let lexeme ← peek
  match lexeme.token with
  | .mark op =>
    if (op = "++" || op = "--") && !lexeme.newline then
      mark op
      return .node .update (← spanFrom start)
        [("operator", .string op), ("prefix", .bool false)] [target]
    else return target
  | _ => return target

def unaryOperators : List Token := [
  .mark "!", .mark "~", .mark "+", .mark "-", .word "typeof", .word "void", .word "delete"]

def operatorText : Token → String
  | .mark text => text
  | .word text => text
  | _ => ""

def prefixed (g : Grammar) : Nat → Parser Tree
  | 0 => fail
  | limit + 1 => do
    let lexeme ← peek
    let op := operatorText lexeme.token
    if unaryOperators.contains lexeme.token then
      let _ ← next
      let operand ← prefixed g limit
      return .node .unary (← spanFrom lexeme.start) [("operator", .string op)] [operand]
    else if lexeme.token == .mark "++" || lexeme.token == .mark "--" then
      let _ ← next
      let operand ← prefixed g limit
      return .node .update (← spanFrom lexeme.start)
        [("operator", .string op), ("prefix", .bool true)] [operand]
    else postfixed g

/-- The operators between two operands, from the loosest to the tightest. -/
def binaryOperators : List (List String) := [
  ["??"], ["||"], ["&&"], ["|"], ["^"], ["&"], ["==", "!=", "===", "!=="],
  ["<", ">", "<=", ">=", "instanceof", "in"], ["<<", ">>", ">>>"], ["+", "-"], ["*", "/", "%"],
  ["**"]]

def tightness? (token : Token) : Option Nat :=
  binaryOperators.findIdx? (·.contains (operatorText token))

def spanOf : Tree → Span
  | .node _ span _ _ => span
  | .use id => id.span
  | .binder id _ => id.span
  | _ => Span.none

def binaryAt (op : String) (left right : Tree) : Tree :=
  .node .binary ⟨(spanOf left).start, (spanOf right).stop⟩ [("operator", .string op)] [left, right]

/-- A left operand that waits for its right one, with the operator and how tightly it binds. -/
structure Waiting where
  left : Tree
  op : String
  tightness : Nat
deriving Inhabited

/-- Gives `right` to the waiting operands whose operators bind at least as tightly as what
follows. The tightest operator goes together from the right. -/
def collapse (tightness : Nat) (right : Tree) : List Waiting → Tree × List Waiting
  | [] => (right, [])
  | w :: rest =>
    let goesRight := w.tightness + 1 = binaryOperators.length
    if tightness < w.tightness || (tightness = w.tightness && !goesRight) then
      collapse tightness (binaryAt w.op w.left right) rest
    else (right, w :: rest)

/-- Reads operands with operators between them, of which some are still waiting. -/
def operands (g : Grammar) (waiting : List Waiting) : Nat → Parser Tree
  | 0 => fail
  | limit + 1 => do
    let right ← prefixed g ((← get).rest.length + 1)
    let lexeme ← peek
    match tightness? lexeme.token with
    | some tightness =>
      let _ ← next
      let (left, waiting) := collapse tightness right waiting
      operands g (⟨left, operatorText lexeme.token, tightness⟩ :: waiting) limit
    | none => return waiting.foldl (fun right w => binaryAt w.op w.left right) right

def binary (g : Grammar) : Parser Tree := do
  operands g [] ((← get).rest.length + 1)

def conditional (g : Grammar) : Parser Tree := do
  let start ← here
  let test ← binary g
  if ← eatMark "?" then
    let consequent ← g.assignment
    mark ":"
    let alternate ← g.assignment
    return .node .conditional (← spanFrom start) [] [test, consequent, alternate]
  else return test

def arrowParameters (g : Grammar) : Parser (List Tree) := do
  if ← eatMark "(" then parameters g
  else return [.binder (← identifier) .absent]

def arrow (g : Grammar) : Parser Tree := do
  let start ← here
  let params ← arrowParameters g
  require (!(← peek).newline)
  mark "=>"
  let body ← do
    if ← isAtMark "\x7b" then block g else g.assignment
  return .node .arrow (← spanFrom start) [] [.seq params, body]

def patternAssignment (g : Grammar) : Parser Tree := do
  let start ← here
  require ((← isAtMark "[") || (← isAtMark "\x7b"))
  let target ← pattern g true
  mark "="
  let value ← g.assignment
  return .node .assignment (← spanFrom start) [("operator", .string "=")] [target, value]

def assignmentOperators : List String := [
  "=", "+=", "-=", "*=", "/=", "%=", "**=", "<<=", ">>=", ">>>=", "&=", "|=", "^=", "&&=", "||=",
  "??="]

/-- What an expression is as the target of an assignment. -/
def target? : Tree → Option Tree
  | .use id => some (.binder id .absent)
  | .node .member span data parts => some (.node .member span data parts)
  | .node .parenthesis span data parts => some (.node .parenthesis span data parts)
  | _ => none

/-- Reads an expression without a comma. -/
def assignment (g : Grammar) : Parser Tree := do
  match ← attempt (arrow g) with
  | some t => return t
  | none =>
    match ← attempt (patternAssignment g) with
    | some t => return t
    | none =>
      let start ← here
      let left ← conditional g
      match (← peek).token with
      | .mark op =>
        if assignmentOperators.contains op then
          match target? left with
          | some target =>
            mark op
            let value ← g.assignment
            return .node .assignment (← spanFrom start) [("operator", .string op)] [target, value]
          | none => fail
        else return left
      | _ => return left

def expression (g : Grammar) : Parser Tree := do
  let start ← here
  let first ← assignment g
  let rest ← many do
    if ← eatMark "," then return some (← g.assignment) else return none
  if rest.isEmpty then return first
  else return .node .sequence (← spanFrom start) [] [.seq (first :: rest)]

end Code
end ImportMacros
