/-!
# ImportMacros.Text.Quoted

Quoted text in a program. `quote` chooses the quotes that the text itself has fewer of, and escapes
them, backslashes and what cannot stand on a line.
-/

namespace ImportMacros
namespace Text

/-- The quotes around a text: double ones, unless it has more of these than of single ones. -/
def quoteFor (cs : List Char) : Char :=
  if cs.count '\'' < cs.count '"' then '\'' else '"'

def namedEscapes : List (Char × Char) := [
  ('\x08', 'b'), ('\x0c', 'f'), ('\n', 'n'), ('\r', 'r'), ('\x0b', 'v')]

def isHex (c : Char) : Bool :=
  c.isDigit || ('a' ≤ c && c ≤ 'f') || ('A' ≤ c && c ≤ 'F')

/-- Whether a text starts with four digits that stand for half of a character. -/
def startsWithHalf : List Char → Bool
  | a :: b :: c :: d :: _ =>
    (a = 'd' || a = 'D') && isHex b && !("01234567".toList.contains b) && isHex c && isHex d
  | _ => false

/-- Whether what follows a backslash makes it the escape of half of a character, which a text can
hold in no other way. -/
def escapesHalf : List Char → Bool
  | 'u' :: '\x7b' :: cs => startsWithHalf cs
  | 'u' :: cs => startsWithHalf cs
  | _ => false

/-- A character inside quotes, given what follows it. -/
def quoted (quote c : Char) (rest : List Char) : List Char :=
  let hex (n : Nat) : List Char :=
    (if n < 16 then ['0'] else []) ++ Nat.toDigits 16 n
  match namedEscapes.lookup c with
  | some name => ['\\', name]
  | none =>
    if c = quote then ['\\', c]
    else if c = '\\' then if escapesHalf rest then [c] else [c, c]
    else if c = '\x00' then
      if rest.head?.any Char.isDigit then ['\\', 'x', '0', '0'] else ['\\', '0']
    else if c = '\t' then [c]
    else if c.toNat < 0x20 then '\\' :: 'x' :: hex c.toNat
    else if c = '\u2028' || c = '\u2029' then '\\' :: 'u' :: hex c.toNat
    else if c = '\ufeff' then "\\uFEFF".toList
    else [c]

def quotedAll (quote : Char) : List Char → List Char
  | [] => []
  | c :: rest => quoted quote c rest ++ quotedAll quote rest

def quote (text : String) : String :=
  let q := quoteFor text.toList
  String.ofList (q :: quotedAll q text.toList ++ [q])

end Text
end ImportMacros
