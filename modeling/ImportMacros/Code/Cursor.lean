import ImportMacros.Data.Json
import ImportMacros.Text.Letter

/-!
# ImportMacros.Code.Cursor

The tokens of program text. A `Cursor` is a place in the text; `Cursor.lexeme?` reads the token
after it. Places count the bytes of the text from one.
-/

namespace ImportMacros
namespace Code

structure Cursor where
  rest : List Char
  /-- The place of the next character. -/
  place : Nat
  /-- The place after the last token. -/
  last : Nat
deriving Repr, Inhabited

def byteCount (cs : List Char) : Nat := cs.foldl (fun n c => n + c.utf8Size) 0

namespace Cursor

def ofText (text : String) : Cursor := ⟨text.toList, 1, 1⟩

def drop (c : Cursor) (count : Nat) : Cursor :=
  ⟨c.rest.drop count, c.place + byteCount (c.rest.take count), c.last⟩

/-- The place after a token of `count` characters. -/
def past (c : Cursor) (count : Nat) : Cursor :=
  let next := c.drop count
  { next with last := next.place }

end Cursor

def isLineEnd (c : Char) : Bool := c = '\n' || c = '\r' || c = '\u2028' || c = '\u2029'

/-- White space inside a line. -/
def isSpace (c : Char) : Bool :=
  c = ' ' || c = '\t' || c = '\x0b' || c = '\x0c' || c = '\u00a0' || c = '\ufeff' ||
    c = '\u1680' || ('\u2000' ≤ c && c ≤ '\u200a') || c = '\u202f' || c = '\u205f' || c = '\u3000'

/-- Whether the reader is in a comment, and in which kind. -/
inductive Gap where
  | blank
  | lineComment
  | blockComment
deriving DecidableEq, Repr, Inhabited

/-- How many characters of white space and comments a text starts with, and whether a line ends
among them. A comment in a block has to be closed. -/
def skip : Gap → Nat → Bool → List Char → Option (Nat × Bool)
  | .blockComment, _, _, [] => none
  | _, count, newline, [] => some (count, newline)
  | .blank, count, newline, '/' :: '/' :: cs => skip .lineComment (count + 2) newline cs
  | .blank, count, newline, '/' :: '*' :: cs => skip .blockComment (count + 2) newline cs
  | .blank, count, newline, c :: cs =>
    if isLineEnd c then skip .blank (count + 1) true cs
    else if isSpace c then skip .blank (count + 1) newline cs
    else some (count, newline)
  | .lineComment, count, newline, c :: cs =>
    if isLineEnd c then skip .blank (count + 1) true cs
    else skip .lineComment (count + 1) newline cs
  | .blockComment, count, newline, '*' :: '/' :: cs => skip .blank (count + 2) newline cs
  | .blockComment, count, newline, c :: cs =>
    skip .blockComment (count + 1) (newline || isLineEnd c) cs

inductive Token where
  /-- An identifier or a keyword. -/
  | word (text : String)
  | mark (text : String)
  | number (raw : String)
  | quoted (raw value : String)
  | finish
deriving DecidableEq, Repr, Inhabited

/-- The marks, those that start with another one before it. -/
def marks : List String := [
  ">>>=", "...", "===", "!==", "**=", "<<=", ">>=", ">>>", "&&=", "||=", "??=", "=>", "==", "!=",
  "<=", ">=", "&&", "||", "??", "++", "--", "+=", "-=", "*=", "/=", "%=", "&=", "|=", "^=", "**",
  "<<", ">>", "\x7b", "\x7d", "(", ")", "[", "]", ";", ",", "<", ">", "+", "-", "*", "/", "%", "&",
  "|", "^", "!", "~", "?", ":", "=", ".", "`"]

/-- The characters of a quoted text up to its closing quote. -/
def quotedBody (quote : Char) : List Char → Option (List Char)
  | [] => none
  | '\\' :: c :: cs => (quotedBody quote cs).map ('\\' :: c :: ·)
  | c :: cs =>
    if c = quote then some []
    else if c = '\n' || c = '\r' then none
    else (quotedBody quote cs).map (c :: ·)

/-- Where in an escape the reader is. -/
inductive Escape where
  | outside
  | started
  /-- In digits, of which so many are to come. -/
  | digits (left value : Nat)
  /-- After a `u`, where a brace may follow. -/
  | unit
  | braced (value : Nat)
  /-- After a carriage return that continues the line. -/
  | continued
deriving Repr, Inhabited

/-- The code units that the characters of a quoted text stand for. -/
def units? (escape : Escape) : List Char → Option (List Nat)
  | [] =>
    match escape with
    | .outside | .continued => some []
    | _ => none
  | c :: cs =>
    let plain : Option (List Nat) :=
      if c = '\\' then units? .started cs else (units? .outside cs).map (c.toNat :: ·)
    match escape with
    | .outside => plain
    | .continued => if c = '\n' then units? .outside cs else plain
    | .started =>
      let one (n : Nat) := (units? .outside cs).map (n :: ·)
      match c with
      | 'b' => one 8
      | 't' => one 9
      | 'n' => one 10
      | 'v' => one 11
      | 'f' => one 12
      | 'r' => one 13
      | '0' => one 0
      | 'x' => units? (.digits 2 0) cs
      | 'u' => units? .unit cs
      | '\r' => units? .continued cs
      | c => if isLineEnd c then units? .outside cs else one c.toNat
    | .unit =>
      if c = '\x7b' then units? (.braced 0) cs
      else (digitsNat? 16 [c]).bind fun d => units? (.digits 3 d) cs
    | .digits left value =>
      (digitsNat? 16 [c]).bind fun d =>
        if left = 1 then (units? .outside cs).map ((value * 16 + d) :: ·)
        else units? (.digits (left - 1) (value * 16 + d)) cs
    | .braced value =>
      if c = '\x7d' then (units? .outside cs).map (value :: ·)
      else (digitsNat? 16 [c]).bind fun d => units? (.braced (value * 16 + d)) cs

/-- The characters of some code units, of which two may make up one character. -/
def ofUnits : List Nat → List Char
  | [] => []
  | high :: low :: rest =>
    if Json.isHigh high && Json.isLow low then Json.paired high low :: ofUnits rest
    else Char.ofNat high :: ofUnits (low :: rest)
  | [unit] => [Char.ofNat unit]

def unescape? (cs : List Char) : Option String :=
  (units? .outside cs).map fun units => String.ofList (ofUnits units)

def numberBody (cs : List Char) : List Char :=
  match cs with
  | '0' :: x :: rest =>
    if x = 'x' || x = 'X' || x = 'o' || x = 'O' || x = 'b' || x = 'B' then
      '0' :: x :: rest.takeWhile Char.isAlphanum
    else decimal cs
  | _ => decimal cs
where
  isDigit (c : Char) : Bool := c.isDigit || c = '_'
  decimal (cs : List Char) : List Char :=
    let whole := cs.takeWhile isDigit
    let cs := cs.drop whole.length
    let fraction := match cs with
      | '.' :: cs => '.' :: cs.takeWhile isDigit
      | _ => []
    whole ++ fraction ++ exponent (cs.drop fraction.length)
  exponent (cs : List Char) : List Char :=
    match cs with
    | e :: cs =>
      let sign := cs.takeWhile fun c => c = '+' || c = '-'
      let digits := (cs.drop sign.length).takeWhile isDigit
      if (e = 'e' || e = 'E') && sign.length ≤ 1 && !digits.isEmpty then e :: sign ++ digits else []
    | [] => []

/-- A token with its place, whether a line ended before it, and the place after it. -/
structure Lexeme where
  token : Token
  start : Nat
  newline : Bool
  next : Cursor
deriving Inhabited

/-- The token at the start of a text, and how many characters it has. -/
def token? (cs : List Char) : Option (Token × Nat) :=
  match cs with
  | [] => some (.finish, 0)
  | c :: rest =>
    if Text.startsIdent c then
      let word := cs.takeWhile Text.continuesIdent
      some (.word (String.ofList word), word.length)
    else if c.isDigit || (c = '.' && rest.head?.any Char.isDigit) then
      let number := numberBody cs
      if (cs.drop number.length).head?.any Text.continuesIdent then none
      else some (.number (String.ofList number), number.length)
    else if c = '"' || c = '\'' then
      (quotedBody c rest).bind fun body =>
        (unescape? body).map fun value =>
          (.quoted (String.ofList (c :: body ++ [c])) value, body.length + 2)
    else
      (marks.find? fun mark => mark.toList.isPrefixOf cs).map fun mark => (.mark mark, mark.length)

def Cursor.lexeme? (c : Cursor) : Option Lexeme :=
  (skip .blank 0 false c.rest).bind fun (count, newline) =>
    let c := c.drop count
    (token? c.rest).map fun (token, length) => ⟨token, c.place, newline, c.past length⟩

end Code
end ImportMacros
