import ImportMacros.Data.Value

/-!
# ImportMacros.Data.Nesting

How the tokens of a bracketed format nest into a value. The formats differ in what they count as
a token; once cut into tokens they are read by one machine, `Reader.step`, which holds the
containers that are open and what may come next.
-/

namespace ImportMacros

inductive Token where
  | openArray
  | closeArray
  | openObject
  | closeObject
  | comma
  | colon
  /-- A quoted text: a key or a value. -/
  | quoted (text : String)
  /-- A bare word: a key, or the name of a value. -/
  | word (text : String)
  | number (n : Value)
deriving Repr, Inhabited

/-- What a format leaves open once its tokens are known. -/
structure Grammar where
  named : String → Option Value
  wordKeys : Bool
  trailingComma : Bool
  /-- How many containers may be open at once, if there is a limit. -/
  depth : Option Nat

namespace Reader

/-- A container that is still open; its last items come first. -/
inductive Frame where
  | array (items : List Value)
  | object (fields : Fields)
  /-- An object that waits for the value of a key. -/
  | member (fields : Fields) (key : String)
deriving Inhabited

inductive Expect where
  | value
  /-- A value, or the end of the array. -/
  | item
  | key
  | keyOrEnd
  | colon
  /-- A comma, or the end of the container. -/
  | separator
  | finish (value : Value)
deriving Inhabited

/-- The open containers, the innermost first, and what may come next. -/
structure State where
  stack : List Frame
  expect : Expect
deriving Inhabited

def start : State := ⟨[], .value⟩

def place (stack : List Frame) (value : Value) : Option State :=
  match stack with
  | [] => some ⟨[], .finish value⟩
  | .array items :: rest => some ⟨.array (value :: items) :: rest, .separator⟩
  | .member fields key :: rest => some ⟨.object (fields.put key value) :: rest, .separator⟩
  | .object _ :: _ => none

/-- Opens a container, if the format allows one more. -/
def enter (g : Grammar) (stack : List Frame) (frame : Frame) (expect : Expect) : Option State :=
  match g.depth with
  | none => some ⟨frame :: stack, expect⟩
  | some limit => if stack.length < limit then some ⟨frame :: stack, expect⟩ else none

/-- Reads a token where a value may begin. -/
def value (g : Grammar) (stack : List Frame) : Token → Option State
  | .openArray => enter g stack (.array []) .item
  | .openObject => enter g stack (.object []) .keyOrEnd
  | .quoted text => place stack (.string text)
  | .word text => (g.named text).bind (place stack)
  | .number n => place stack n
  | _ => none

def close (stack : List Frame) : Token → Option State
  | .closeArray =>
    match stack with
    | .array items :: rest => place rest (.array items.reverse)
    | _ => none
  | .closeObject =>
    match stack with
    | .object fields :: rest => place rest (.object fields)
    | _ => none
  | _ => none

def key (g : Grammar) (stack : List Frame) (text : String) (bare : Bool) : Option State :=
  match stack with
  | .object fields :: rest =>
    if bare && !g.wordKeys then none else some ⟨.member fields text :: rest, .colon⟩
  | _ => none

def comma (g : Grammar) (stack : List Frame) : Option State :=
  match stack with
  | .array _ :: _ => some ⟨stack, if g.trailingComma then .item else .value⟩
  | .object _ :: _ => some ⟨stack, if g.trailingComma then .keyOrEnd else .key⟩
  | _ => none

def step (g : Grammar) (s : State) (token : Token) : Option State :=
  match s.expect, token with
  | .value, token => value g s.stack token
  | .item, .closeArray => close s.stack .closeArray
  | .item, token => value g s.stack token
  | .key, .quoted text => key g s.stack text false
  | .key, .word text => key g s.stack text true
  | .keyOrEnd, .quoted text => key g s.stack text false
  | .keyOrEnd, .word text => key g s.stack text true
  | .keyOrEnd, .closeObject => close s.stack .closeObject
  | .colon, .colon => some ⟨s.stack, .value⟩
  | .separator, .comma => comma g s.stack
  | .separator, token => close s.stack token
  | _, _ => none

def run (g : Grammar) (s : State) : List Token → Option Value
  | [] =>
    match s.expect with
    | .finish value => some value
    | _ => none
  | token :: rest => (step g s token).bind (run g · rest)

end Reader

def Value.ofTokens? (g : Grammar) (tokens : List Token) : Option Value :=
  Reader.run g Reader.start tokens

end ImportMacros
