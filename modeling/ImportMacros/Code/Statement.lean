import ImportMacros.Code.Expression

/-!
# ImportMacros.Code.Statement

Statements: declarations of variables and functions, blocks, conditions, loops, `try`, jumps,
labels and expressions. There are no classes, and neither `switch` nor `with`. A semicolon may be
left out at the end of a line, before a closing brace, and at the end of the text.
-/

namespace ImportMacros
namespace Code

open ImportMacros.Code.Parser

def endStatement : Parser Unit := do
  let lexeme ← peek
  match lexeme.token with
  | .mark ";" => mark ";"
  | .mark "\x7d" => pure ()
  | .finish => pure ()
  | _ => require lexeme.newline

/-- Whether a pattern has to have a value. -/
def needsValue : Tree → Bool
  | .binder _ _ => false
  | _ => true

def declaratorValue (g : Grammar) (start : Nat) (target : Tree) : Parser Tree := do
  if ← eatMark "=" then
    let value ← g.assignment
    return .node .variableDeclarator (← spanFrom start) [] [target, value]
  else
    require (!needsValue target)
    return .node .variableDeclarator (← spanFrom start) [] [target, .absent]

def declarator (g : Grammar) : Parser Tree := do
  let start ← here
  declaratorValue g start (← pattern g false)

def moreDeclarators (g : Grammar) : Parser (List Tree) :=
  many do
    if ← eatMark "," then return some (← declarator g) else return none

def declarationAt (kind : String) (span : Span) (declarators : List Tree) : Tree :=
  .node .variableDeclaration span [("kind", .string kind)] [.seq declarators]

def declaring : List String := ["var", "let", "const"]

/-- Reads a declaration of variables, with its end. -/
def declaration (g : Grammar) : Parser Tree := do
  let start ← here
  let (kind, _) ← anyWord
  let first ← declarator g
  let rest ← moreDeclarators g
  endStatement
  return declarationAt kind (← spanFrom start) (first :: rest)

def functionDeclaration (g : Grammar) : Parser Tree := do
  let start ← here
  word "function"
  let name ← identifier
  let (params, body) ← functionRest g
  return .node .functionDeclaration (← spanFrom start) [] [.use name, params, body]

/-- Reads an expression in parentheses that belong to a statement. -/
def condition (g : Grammar) : Parser Tree := do
  mark "("
  let test ← g.expression
  mark ")"
  return test

def ifStatement (g : Grammar) : Parser Tree := do
  let start ← here
  word "if"
  let test ← condition g
  let consequent ← g.statement
  let alternate ← do
    if ← eatWord "else" then g.statement else pure Tree.absent
  return .node .ifStatement (← spanFrom start) [] [test, consequent, alternate]

def whileStatement (g : Grammar) : Parser Tree := do
  let start ← here
  word "while"
  let test ← condition g
  let body ← g.statement
  return .node .whileStatement (← spanFrom start) [] [test, body]

def doWhileStatement (g : Grammar) : Parser Tree := do
  let start ← here
  word "do"
  let body ← g.statement
  word "while"
  let test ← condition g
  let _ ← eatMark ";"
  return .node .doWhileStatement (← spanFrom start) [] [test, body]

/-- Reads the rest of a loop over the items or the keys of a value. -/
def loopOver (g : Grammar) (start : Nat) (head : Tree) : Parser Tree := do
  let kind ← do
    if ← eatWord "of" then pure Kind.forOfStatement
    else
      word "in"
      pure Kind.forInStatement
  let subject ← if kind = .forOfStatement then g.assignment else g.expression
  mark ")"
  let body ← g.statement
  return .node kind (← spanFrom start) [] [head, subject, body]

def loopCounting (g : Grammar) (start : Nat) (first : Tree) : Parser Tree := do
  let upTo (close : String) : Parser Tree := do
    if ← eatMark close then return .absent
    let t ← g.expression
    mark close
    return t
  mark ";"
  let test ← upTo ";"
  let update ← upTo ")"
  let body ← g.statement
  return .node .forStatement (← spanFrom start) [] [first, test, update, body]

/-- Whether the next token is a word that a loop over a value has after its head. -/
def isAtLoopWord : Parser Bool := isAt (.word "of") <||> isAt (.word "in")

/-- Reads a loop that declares variables, after the opening parenthesis. -/
def loopDeclaring (g : Grammar) (start : Nat) : Parser Tree := do
  let headStart ← here
  let (kind, _) ← anyWord
  let nameStart ← here
  let name ← pattern g false
  if ← isAtLoopWord then
    let declarator := Tree.node .variableDeclarator (← spanFrom nameStart) [] [name, .absent]
    loopOver g start (declarationAt kind (← spanFrom headStart) [declarator])
  else
    let first ← declaratorValue g nameStart name
    let rest ← moreDeclarators g
    loopCounting g start (declarationAt kind (← spanFrom headStart) (first :: rest))

def forStatement (g : Grammar) : Parser Tree := do
  let start ← here
  word "for"
  mark "("
  match (← peek).token with
  | .mark ";" => loopCounting g start .absent
  | token =>
    if declaring.any fun kind => token == .word kind then loopDeclaring g start
    else
      let head ← attempt do
        let head ← pattern g true
        require (← isAtLoopWord)
        return head
      match head with
      | some head => loopOver g start head
      | none => loopCounting g start (← g.expression)

def tryStatement (g : Grammar) : Parser Tree := do
  let start ← here
  word "try"
  let body ← block g
  let handlerStart ← here
  let handler ← do
    if ← eatWord "catch" then
      let param ← do
        if ← eatMark "(" then
          let param ← pattern g false
          mark ")"
          pure param
        else pure Tree.absent
      let caught ← block g
      pure (.node .catchClause (← spanFrom handlerStart) [] [param, caught])
    else pure Tree.absent
  let finalizer ← do
    if ← eatWord "finally" then block g else pure Tree.absent
  require (!(handler.isAbsent && finalizer.isAbsent))
  return .node .tryStatement (← spanFrom start) [] [body, handler, finalizer]

def returnStatement (g : Grammar) : Parser Tree := do
  let start ← here
  word "return"
  let lexeme ← peek
  let ends := lexeme.newline || lexeme.token == .mark ";" || lexeme.token == .mark "\x7d" ||
    lexeme.token == .finish
  let value ← if ends then pure Tree.absent else g.expression
  endStatement
  return .node .returnStatement (← spanFrom start) [] [value]

def throwStatement (g : Grammar) : Parser Tree := do
  let start ← here
  word "throw"
  require (!(← peek).newline)
  let value ← g.expression
  endStatement
  return .node .throwStatement (← spanFrom start) [] [value]

/-- Reads a statement that leaves or repeats a loop. -/
def jumpStatement (kind : Kind) : Parser Tree := do
  let start ← here
  let _ ← anyWord
  let lexeme ← peek
  let label ←
    match lexeme.token with
    | .word _ => if lexeme.newline then pure Tree.absent else pure (.use (← identifier))
    | _ => pure Tree.absent
  endStatement
  return .node kind (← spanFrom start) [] [label]

def labeledStatement (g : Grammar) : Parser Tree := do
  let start ← here
  let label ← identifier
  mark ":"
  let body ← g.statement
  return .node .labeledStatement (← spanFrom start) [] [.use label, body]

def expressionStatement (g : Grammar) : Parser Tree := do
  let start ← here
  let value ← expression g
  endStatement
  return .node .expressionStatement (← spanFrom start) [] [value]

def statement (g : Grammar) : Parser Tree := do
  let lexeme ← peek
  match lexeme.token with
  | .mark "\x7b" => block g
  | .mark ";" =>
    mark ";"
    return .node .emptyStatement ⟨lexeme.start, lexeme.next.last⟩ [] []
  | .word "var" | .word "let" | .word "const" => declaration g
  | .word "function" => functionDeclaration g
  | .word "if" => ifStatement g
  | .word "for" => forStatement g
  | .word "while" => whileStatement g
  | .word "do" => doWhileStatement g
  | .word "try" => tryStatement g
  | .word "return" => returnStatement g
  | .word "throw" => throwStatement g
  | .word "break" => jumpStatement .breakStatement
  | .word "continue" => jumpStatement .continueStatement
  | _ =>
    let c ← get
    match ← attempt (identifier *> mark ":") with
    | some _ =>
      set c
      labeledStatement g
    | none => expressionStatement g

end Code
end ImportMacros
