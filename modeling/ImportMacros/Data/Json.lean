import ImportMacros.Data.Decimal
import ImportMacros.Data.Nesting

/-!
# ImportMacros.Data.Json

JSON. `Json.read?` reads a text, `Json.write` writes a value on one line.

The reader goes over the text once, character by character, with `Lexer.step`, and leaves the
nesting to `Value.ofTokens?`.
-/

namespace ImportMacros
namespace Json

def isSpace (c : Char) : Bool := c = ' ' || c = '\n' || c = '\t' || c = '\r'

/-- The value of a run of characters that starts like a number. -/
def number? (cs : List Char) : Option Value :=
  match Numeral.split? cs with
  | none => none
  | some n =>
    if n.sign = some '+' || n.whole.isEmpty || n.fraction = some [] then none
    else if n.whole.head? = some '0' && n.whole.length > 1 then none
    else
      let value := digitsNat n.whole
      if n.fraction.isSome || n.exponent.isSome || (n.isNegative && value = 0) then
        n.quick?.map (.number ∘ .double)
      else
        match Number.ofInt? (if n.isNegative then -(value : Int) else value) with
        | some number => some (.number number)
        | none => n.quick?.map (.number ∘ .double)

def escaped? : Char → Option Char
  | '"' => some '"'
  | '\\' => some '\\'
  | '/' => some '/'
  | 'b' => some '\x08'
  | 'f' => some '\x0c'
  | 'n' => some '\n'
  | 'r' => some '\r'
  | 't' => some '\t'
  | _ => none

/-- A code unit of UTF-16 that starts a pair. -/
def isHigh (unit : Nat) : Bool := 0xD800 ≤ unit && unit ≤ 0xDBFF

/-- A code unit of UTF-16 that ends a pair. -/
def isLow (unit : Nat) : Bool := 0xDC00 ≤ unit && unit ≤ 0xDFFF

def paired (high low : Nat) : Char :=
  Char.ofNat (0x10000 + (high - 0xD800) * 0x400 + (low - 0xDC00))

namespace Lexer

/-- Where in a token the reader is. Texts are held last character first. -/
inductive Mode where
  | between
  | text (read : List Char)
  | escape (read : List Char)
  /-- In a `\u` escape: the first half of a pair if there is one, and the digits read. -/
  | unicode (read : List Char) (high : Option Nat) (digits : List Char)
  /-- After the first half of a pair, before the backslash of the second. -/
  | pair (read : List Char) (high : Nat)
  | pairEscape (read : List Char) (high : Nat)
  | number (read : List Char)
  | word (read : List Char)
deriving Inhabited

/-- The tokens read, the last first, and the one being read. -/
structure State where
  tokens : List Token
  mode : Mode
deriving Inhabited

def between (tokens : List Token) (c : Char) : Option State :=
  if isSpace c then some ⟨tokens, .between⟩
  else if c = '[' then some ⟨.openArray :: tokens, .between⟩
  else if c = ']' then some ⟨.closeArray :: tokens, .between⟩
  else if c = '\x7b' then some ⟨.openObject :: tokens, .between⟩
  else if c = '\x7d' then some ⟨.closeObject :: tokens, .between⟩
  else if c = ',' then some ⟨.comma :: tokens, .between⟩
  else if c = ':' then some ⟨.colon :: tokens, .between⟩
  else if c = '"' then some ⟨tokens, .text []⟩
  else if c = '-' || c.isDigit then some ⟨tokens, .number [c]⟩
  else if c.isAlpha then some ⟨tokens, .word [c]⟩
  else none

/-- The tokens after a number or a word has ended. -/
def flush (s : State) : Option (List Token) :=
  match s.mode with
  | .between => some s.tokens
  | .number read => (number? read.reverse).map (.number · :: s.tokens)
  | .word read => some (.word (String.ofList read.reverse) :: s.tokens)
  | _ => none

/-- Ends a `\u` escape that has four digits. -/
def endUnicode (tokens : List Token) (read : List Char) (high : Option Nat) (unit : Nat) :
    Option State :=
  match high with
  | some high => if isLow unit then some ⟨tokens, .text (paired high unit :: read)⟩ else none
  | none =>
    if isHigh unit then some ⟨tokens, .pair read unit⟩
    else if isLow unit then none
    else some ⟨tokens, .text (Char.ofNat unit :: read)⟩

def step (s : State) (c : Char) : Option State :=
  match s.mode with
  | .between => between s.tokens c
  | .text read =>
    if c = '"' then some ⟨.quoted (String.ofList read.reverse) :: s.tokens, .between⟩
    else if c = '\\' then some ⟨s.tokens, .escape read⟩
    else if c.toNat < 0x20 then none
    else some ⟨s.tokens, .text (c :: read)⟩
  | .escape read =>
    if c = 'u' then some ⟨s.tokens, .unicode read none []⟩
    else (escaped? c).map fun e => ⟨s.tokens, .text (e :: read)⟩
  | .unicode read high digits =>
    match digitsNat? 16 (digits ++ [c]) with
    | none => none
    | some unit =>
      if digits.length = 3 then endUnicode s.tokens read high unit
      else some ⟨s.tokens, .unicode read high (digits ++ [c])⟩
  | .pair read high => if c = '\\' then some ⟨s.tokens, .pairEscape read high⟩ else none
  | .pairEscape read high => if c = 'u' then some ⟨s.tokens, .unicode read (some high) []⟩ else none
  | .number read =>
    if c.isAlphanum || c = '.' || c = '+' || c = '-' then some ⟨s.tokens, .number (c :: read)⟩
    else (flush s).bind (between · c)
  | .word read =>
    if c.isAlphanum then some ⟨s.tokens, .word (c :: read)⟩
    else (flush s).bind (between · c)

def run (s : State) : List Char → Option (List Token)
  | [] => (flush s).map List.reverse
  | c :: cs => (step s c).bind (run · cs)

end Lexer

def tokens? (text : String) : Option (List Token) :=
  Lexer.run ⟨[], .between⟩ text.toList

def named? : String → Option Value
  | "null" => some .null
  | "true" => some (.bool true)
  | "false" => some (.bool false)
  | _ => none

/-- JSON with at most `depth` containers inside each other. -/
def grammar (depth : Option Nat) : Grammar := ⟨named?, false, false, depth⟩

def configDepth : Nat := 127

/-- Reads a text with containers nested up to a limit. -/
def readDeep? (depth : Option Nat) (text : String) : Option Value :=
  (tokens? text).bind (Value.ofTokens? (grammar depth))

def read? (text : String) : Option Value := readDeep? (some configDepth) text

def hexDigit (n : Nat) : Char := "0123456789abcdef".toList.getD n '0'

def escape (c : Char) : List Char :=
  if c = '"' then ['\\', '"']
  else if c = '\\' then ['\\', '\\']
  else if c.toNat < 0x20 then
    ['\\', 'u', '0', '0', hexDigit (c.toNat / 16), hexDigit (c.toNat % 16)]
  else [c]

def quote (text : String) : String :=
  String.ofList ('"' :: text.toList.flatMap escape ++ ['"'])

mutual

def write : Value → String
  | .null => "null"
  | .bool b => toString b
  | .number n => n.text
  | .string text => quote text
  | .array items => "[" ++ ",".intercalate (writeItems items) ++ "]"
  | .object fields => "\x7b" ++ ",".intercalate (writeFields fields) ++ "\x7d"

def writeItems : List Value → List String
  | [] => []
  | item :: rest => write item :: writeItems rest

def writeFields : List (String × Value) → List String
  | [] => []
  | (key, value) :: rest => (quote key ++ ":" ++ write value) :: writeFields rest

end

end Json
end ImportMacros
