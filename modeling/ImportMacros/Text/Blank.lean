import ImportMacros.Text.Pattern

/-!
# ImportMacros.Text.Blank

White space in the sense of Unicode's `White_Space` property, and the two functions built on
it: `trim` cuts it off both ends of a text, and `tidyLines` removes the indentation, the
trailing blanks and the blank lines of a piece of code. To that end it replaces what the pattern
`lineBreak` fits, a line break with all the white space around it.
-/

namespace ImportMacros
namespace Text

/-- Unicode's `White_Space` property. -/
def isBlank (c : Char) : Bool :=
  let n := c.toNat
  (9 ≤ n && n ≤ 13) || n == 0x20 || n == 0x85 || n == 0xA0 || n == 0x1680 ||
    (0x2000 ≤ n && n ≤ 0x200A) || n == 0x2028 || n == 0x2029 || n == 0x202F ||
    n == 0x205F || n == 0x3000

def trimEnd (cs : List Char) : List Char :=
  (cs.reverse.dropWhile isBlank).reverse

def trim (cs : List Char) : List Char :=
  trimEnd (cs.dropWhile isBlank)

def blanks : Pattern := .maybe (.run isBlank)

/-- A line break with as much white space around it as there is. -/
def lineBreak : Pattern := .seq blanks (.seq (.one (· == '\n')) blanks)

/-- `cs` with every line break on its own, without white space and other line breaks around it. -/
def mergeBreaks (cs : List Char) : List Char :=
  lineBreak.replaceAll ['\n'] cs

def tidy (cs : List Char) : List Char :=
  trim (mergeBreaks cs)

/-- Code without indentation, trailing blanks and blank lines. White space inside a line stays. -/
def tidyLines (code : String) : String :=
  String.ofList (tidy code.toList)

def isBlankText (s : String) : Bool :=
  s.toList.all isBlank

end Text
end ImportMacros
