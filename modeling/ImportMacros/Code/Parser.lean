import ImportMacros.Code.Cursor
import ImportMacros.Tree.Json

/-!
# ImportMacros.Code.Parser

Parsers of program text: functions that read from a cursor, and give up without a reason.

A `Grammar` holds the parsers that others come back to. Every parser of a construct is a plain
function of a grammar, and calls it only after it has read something, so the grammar for a text
needs no more levels than the text has characters.
-/

namespace ImportMacros
namespace Code

abbrev Parser := StateT Cursor Option

namespace Parser

def peek : Parser Lexeme := fun c => c.lexeme?.map fun lexeme => (lexeme, c)

def next : Parser Lexeme := fun c => c.lexeme?.map fun lexeme => (lexeme, lexeme.next)

def fail {α : Type} : Parser α := fun _ => none

/-- Goes on if a condition holds. -/
def require (condition : Bool) : Parser Unit := if condition then pure () else fail

/-- Reads what `p` reads, or nothing if it gives up. -/
def attempt {α : Type} (p : Parser α) : Parser (Option α) := fun c =>
  match p c with
  | some (a, c) => some (some a, c)
  | none => some (none, c)

def isAt (token : Token) : Parser Bool := do
  return (← peek).token == token

def isAtMark (mark : String) : Parser Bool := isAt (.mark mark)

def eat (token : Token) : Parser Bool := do
  if ← isAt token then
    let _ ← next
    return true
  else return false

def eatMark (mark : String) : Parser Bool := eat (.mark mark)

def eatWord (word : String) : Parser Bool := eat (.word word)

def mark (mark : String) : Parser Unit := do require (← eatMark mark)

def word (word : String) : Parser Unit := do require (← eatWord word)

/-- Where the next token starts. -/
def here : Parser Nat := do
  return (← peek).start

/-- The stretch from a place to the last token. -/
def spanFrom (start : Nat) : Parser Span := do
  return ⟨start, (← get).last⟩

/-- Runs `p` until it has no more, at most `limit` times. -/
def upTo {α : Type} (p : Parser (Option α)) : Nat → Parser (List α)
  | 0 => fail
  | limit + 1 => do
    match ← p with
    | none => return []
    | some a => return a :: (← upTo p limit)

/-- Runs `p`, which reads something whenever it has a result, until it has no more. -/
def many {α : Type} (p : Parser (Option α)) : Parser (List α) := do
  upTo p ((← get).rest.length + 1)

/-- Items up to a closing mark, with commas between them and perhaps one after the last. -/
def commaList {α : Type} (close : String) (item : Parser α) : Parser (List α) := do
  let items ← many do
    if ← isAtMark close then return none
    let a ← item
    unless ← isAtMark close do mark ","
    return some a
  mark close
  return items

end Parser

open ImportMacros.Code.Parser

structure Grammar where
  /-- An expression, which may be a sequence. -/
  expression : Parser Tree
  /-- An expression without a comma. -/
  assignment : Parser Tree
  statement : Parser Tree
  /-- A pattern; `members` tells whether a member of an object can stand for a name. -/
  pattern : (members : Bool) → Parser Tree
  element : Parser Tree

def reserved : List String := [
  "break", "case", "catch", "class", "const", "continue", "debugger", "default", "delete", "do",
  "else", "enum", "export", "extends", "false", "finally", "for", "function", "if", "import", "in",
  "instanceof", "new", "null", "return", "super", "switch", "this", "throw", "true", "try",
  "typeof", "var", "void", "while", "with"]

/-- An identifier at a place; its scope is not known yet. -/
def identAt (name : String) (span : Span) : Ident := ⟨name, 0, span, false⟩

/-- A name that is no identifier. -/
def nameAt (name : String) (span : Span) : Tree := .node .name span [("value", .string name)] []

/-- Reads any word, reserved or not. -/
def anyWord : Parser (String × Span) := do
  let lexeme ← next
  match lexeme.token with
  | .word text => return (text, ⟨lexeme.start, lexeme.next.last⟩)
  | _ => fail

def identifier : Parser Ident := do
  let (text, span) ← anyWord
  require (!reserved.contains text)
  return identAt text span

def stringAt (raw value : String) (span : Span) : Tree :=
  .node .string span [("value", .string value), ("raw", .string raw)] []

def stringLiteral : Parser Tree := do
  let lexeme ← next
  match lexeme.token with
  | .quoted raw value => return stringAt raw value ⟨lexeme.start, lexeme.next.last⟩
  | _ => fail

def numberValue (raw : String) : Value :=
  let cs := raw.toList.filter (· != '_')
  let ofBase (base : Nat) (digits : List Char) : Value :=
    match (digitsNat? base digits).bind fun n => Double.ofInt n with
    | some x => .number (.double x)
    | none => .null
  match cs with
  | '0' :: 'x' :: digits | '0' :: 'X' :: digits => ofBase 16 digits
  | '0' :: 'o' :: digits | '0' :: 'O' :: digits => ofBase 8 digits
  | '0' :: 'b' :: digits | '0' :: 'B' :: digits => ofBase 2 digits
  | cs =>
    match (Numeral.split? cs).bind Numeral.double? with
    | some x => .number (.double x)
    | none => .null

def numberLiteral : Parser Tree := do
  let lexeme ← next
  match lexeme.token with
  | .number raw =>
    return .node .numeric ⟨lexeme.start, lexeme.next.last⟩
      [("value", numberValue raw), ("raw", .string raw)] []
  | _ => fail

def block (g : Grammar) : Parser Tree := do
  let start ← here
  mark "\x7b"
  let statements ← many do
    if ← isAtMark "\x7d" then return none
    return some (← g.statement)
  mark "\x7d"
  return .node .block (← spanFrom start) [] [.seq statements]

def propertyKey (g : Grammar) : Parser Tree := do
  let start ← here
  match (← peek).token with
  | .word _ =>
    let (name, span) ← anyWord
    return nameAt name span
  | .quoted _ _ => stringLiteral
  | .number _ => numberLiteral
  | .mark "[" =>
    mark "["
    let key ← g.assignment
    mark "]"
    return .node .computed (← spanFrom start) [] [key]
  | _ => fail

end Code
end ImportMacros
