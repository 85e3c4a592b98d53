import ImportMacros.Data.Json
import ImportMacros.Text.Letter

/-!
# ImportMacros.Data.Json5

JSON5: JSON with comments, trailing commas, single quotes, bare keys, line continuations and more
ways to write a number. Infinities and not-a-number are read as null, for which configuration
data has no other value.
-/

namespace ImportMacros
namespace Json5

def isLineEnd (c : Char) : Bool := c = '\n' || c = '\r' || c = '\u2028' || c = '\u2029'

/-- The white space of JSON5: line ends, tabs, feeds, the byte order mark and space separators. -/
def isSpace (c : Char) : Bool :=
  let n := c.toNat
  isLineEnd c || n = 0x09 || n = 0x0B || n = 0x0C || n = 0x20 || n = 0xA0 || n = 0xFEFF ||
    n = 0x1680 || (0x2000 ≤ n && n ≤ 0x200A) || n = 0x202F || n = 0x205F || n = 0x3000

/-- The value of a decimal numeral: a whole number of 64 bits with a sign, if it has neither point
nor exponent, else a double. -/
def decimal? (cs : List Char) : Option Value :=
  match Numeral.split? cs with
  | none => none
  | some n =>
    let empty := n.whole.isEmpty && (n.fraction.getD []).isEmpty
    if empty || (n.whole.head? = some '0' && n.whole.length > 1) then none
    else if n.fraction.isNone && n.exponent.isNone then
      let value : Int := if n.isNegative then -(digitsNat n.whole : Int) else digitsNat n.whole
      if -(twoPow 63 : Int) ≤ value && value < (twoPow 63 : Int) then some (.number (.int value))
      else none
    else
      match n.double? with
      | some x => some (.number (.double x))
      | none => some .null

/-- The value of a run of characters that starts like a number. A hexadecimal number has no sign
and at most 32 bits. -/
def number? (cs : List Char) : Option Value :=
  match cs with
  | '0' :: x :: digits =>
    if x = 'x' || x = 'X' then
      match digitsNat? 16 digits with
      | some n => if n < twoPow 32 then some (.number (.int n)) else none
      | none => none
    else decimal? cs
  | sign :: rest =>
    if (sign = '+' || sign = '-') && (rest == "Infinity".toList || rest == "NaN".toList) then
      some .null
    else decimal? cs
  | [] => none

/-- The character of a one-letter escape; a letter without a meaning stands for itself. -/
def escaped? (c : Char) : Option Char :=
  if c = 'b' then some '\x08'
  else if c = 'f' then some '\x0c'
  else if c = 'n' then some '\n'
  else if c = 'r' then some '\r'
  else if c = 't' then some '\t'
  else if c = 'v' then some '\x0b'
  else if c = '0' then some (Char.ofNat 0)
  else if c.isDigit then none
  else some c

/-- Whether every backslash in a bare word is followed by `u` and four digits. -/
def isWord : List Char → Bool
  | [] => true
  | '\\' :: 'u' :: a :: b :: c :: d :: rest => (digitsNat? 16 [a, b, c, d]).isSome && isWord rest
  | '\\' :: _ => false
  | _ :: rest => isWord rest

namespace Lexer

/-- Where in a token the reader is. Texts are held last character first, with their quote. -/
inductive Mode where
  | between
  | slash
  | lineComment
  | blockComment
  | blockStar
  | text (quote : Char) (read : List Char)
  | escape (quote : Char) (read : List Char)
  /-- After a line continuation with a carriage return. -/
  | continued (quote : Char) (read : List Char)
  /-- In an escape by number: how many digits it has, and those read. -/
  | hex (quote : Char) (read : List Char) (high : Option Nat) (count : Nat) (digits : List Char)
  | pair (quote : Char) (read : List Char) (high : Nat)
  | pairEscape (quote : Char) (read : List Char) (high : Nat)
  | number (read : List Char)
  | word (read : List Char)
deriving Inhabited

/-- The tokens read, the last first, and the one being read. -/
structure State where
  tokens : List Token
  mode : Mode
deriving Inhabited

def between (tokens : List Token) (c : Char) : Option State :=
  if isSpace c then some ⟨tokens, .between⟩
  else if c = '/' then some ⟨tokens, .slash⟩
  else if c = '[' then some ⟨.openArray :: tokens, .between⟩
  else if c = ']' then some ⟨.closeArray :: tokens, .between⟩
  else if c = '\x7b' then some ⟨.openObject :: tokens, .between⟩
  else if c = '\x7d' then some ⟨.closeObject :: tokens, .between⟩
  else if c = ',' then some ⟨.comma :: tokens, .between⟩
  else if c = ':' then some ⟨.colon :: tokens, .between⟩
  else if c = '"' || c = '\'' then some ⟨tokens, .text c []⟩
  else if c = '-' || c = '+' || c = '.' || c.isDigit then some ⟨tokens, .number [c]⟩
  else if Text.startsIdent c || c = '\\' then some ⟨tokens, .word [c]⟩
  else none

def flush (s : State) : Option (List Token) :=
  match s.mode with
  | .between | .lineComment => some s.tokens
  | .number read => (number? read.reverse).map (.number · :: s.tokens)
  | .word read =>
    if isWord read.reverse then some (.word (String.ofList read.reverse) :: s.tokens) else none
  | _ => none

/-- Ends an escape by number that has all its digits. -/
def endHex (tokens : List Token) (quote : Char) (read : List Char) (high : Option Nat)
    (unit : Nat) : Option State :=
  match high with
  | some high =>
    if Json.isLow unit then some ⟨tokens, .text quote (Json.paired high unit :: read)⟩ else none
  | none =>
    if Json.isHigh unit then some ⟨tokens, .pair quote read unit⟩
    else if Json.isLow unit then none
    else some ⟨tokens, .text quote (Char.ofNat unit :: read)⟩

def inText (tokens : List Token) (quote : Char) (read : List Char) (c : Char) : Option State :=
  if c = quote then some ⟨.quoted (String.ofList read.reverse) :: tokens, .between⟩
  else if c = '\\' then some ⟨tokens, .escape quote read⟩
  else if c = '\n' || c = '\r' then none
  else some ⟨tokens, .text quote (c :: read)⟩

def step (s : State) (c : Char) : Option State :=
  match s.mode with
  | .between => between s.tokens c
  | .slash =>
    if c = '/' then some ⟨s.tokens, .lineComment⟩
    else if c = '*' then some ⟨s.tokens, .blockComment⟩
    else none
  | .lineComment => if isLineEnd c then some ⟨s.tokens, .between⟩ else some s
  | .blockComment => if c = '*' then some ⟨s.tokens, .blockStar⟩ else some s
  | .blockStar =>
    if c = '/' then some ⟨s.tokens, .between⟩
    else if c = '*' then some s
    else some ⟨s.tokens, .blockComment⟩
  | .text quote read => inText s.tokens quote read c
  | .escape quote read =>
    if c = 'x' then some ⟨s.tokens, .hex quote read none 2 []⟩
    else if c = 'u' then some ⟨s.tokens, .hex quote read none 4 []⟩
    else if c = '\r' then some ⟨s.tokens, .continued quote read⟩
    else if isLineEnd c then some ⟨s.tokens, .text quote read⟩
    else (escaped? c).map fun e => ⟨s.tokens, .text quote (e :: read)⟩
  | .continued quote read =>
    if c = '\n' then some ⟨s.tokens, .text quote read⟩ else inText s.tokens quote read c
  | .hex quote read high count digits =>
    match digitsNat? 16 (digits ++ [c]) with
    | none => none
    | some unit =>
      if digits.length + 1 < count then some ⟨s.tokens, .hex quote read high count (digits ++ [c])⟩
      else endHex s.tokens quote read high unit
  | .pair quote read high => if c = '\\' then some ⟨s.tokens, .pairEscape quote read high⟩ else none
  | .pairEscape quote read high =>
    if c = 'u' then some ⟨s.tokens, .hex quote read (some high) 4 []⟩ else none
  | .number read =>
    if c.isAlphanum || c = '.' || c = '+' || c = '-' then some ⟨s.tokens, .number (c :: read)⟩
    else (flush s).bind (between · c)
  | .word read =>
    if Text.continuesIdent c || c = '\\' then some ⟨s.tokens, .word (c :: read)⟩
    else (flush s).bind (between · c)

def run (s : State) : List Char → Option (List Token)
  | [] => (flush s).map List.reverse
  | c :: cs => (step s c).bind (run · cs)

end Lexer

def named? : String → Option Value
  | "Infinity" => some .null
  | "NaN" => some .null
  | word => Json.named? word

/-- JSON5 allows bare keys and trailing commas, and nests without a limit. -/
def grammar : Grammar := ⟨named?, true, true, none⟩

def read? (text : String) : Option Value :=
  (Lexer.run ⟨[], .between⟩ text.toList).bind (Value.ofTokens? grammar)

end Json5
end ImportMacros
