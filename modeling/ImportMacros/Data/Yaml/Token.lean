import ImportMacros.Data.Decimal

/-!
# ImportMacros.Data.Yaml.Token

The tokens of YAML. Blocks are marked by indentation, so the scanner keeps the column of every
open block and puts tokens for their beginnings and ends between the written ones. A mapping is
only known by the colon after its first key; the scanner remembers where the key began and puts
the tokens that announce it there.

`Token.scan?` cuts a whole text into tokens. A text that breaks a rule has none.
-/

namespace ImportMacros
namespace Yaml

inductive Token where
  | versionDirective (major minor : Nat)
  | tagDirective (handle lead : String)
  | documentStart
  | documentEnd
  | blockSequenceStart
  | blockMappingStart
  | blockEnd
  | flowSequenceStart
  | flowSequenceEnd
  | flowMappingStart
  | flowMappingEnd
  | blockEntry
  | flowEntry
  | key
  | value
  | alias (name : String)
  | anchor (name : String)
  | tag (handle suffix : String)
  /-- A scalar, and whether it stands without quotes and block marks. -/
  | scalar (text : String) (isPlain : Bool)
deriving DecidableEq, Repr, Inhabited

namespace Scanner

/-! ## Characters -/

def isAllowed (c : Char) : Bool :=
  let n := c.toNat
  n = 0x09 || n = 0x0A || n = 0x0D || (0x20 ≤ n && n ≤ 0x7E) || n = 0x85 ||
    (0xA0 ≤ n && n ≤ 0xD7FF) || (0xE000 ≤ n && n ≤ 0xFFFD) || 0x10000 ≤ n

/-- Line ends, each written as one line feed; the two Unicode separators stay. -/
def unifyLines : List Char → List Char
  | [] => []
  | '\r' :: '\n' :: rest => '\n' :: unifyLines rest
  | c :: rest => (if c = '\r' || c = '\u0085' then '\n' else c) :: unifyLines rest

def isBreak (c : Char) : Bool := c = '\n' || c = '\u2028' || c = '\u2029'

def isBlank (c : Char) : Bool := c = ' ' || c = '\t'

def isName (c : Char) : Bool := c.isAlphanum || c = '_' || c = '-'

/-- Whether a text begins with a blank, a line end or nothing. -/
def isBlankEnd : List Char → Bool
  | [] => true
  | c :: _ => isBlank c || isBreak c

def isLineEnd : List Char → Bool
  | [] => true
  | c :: _ => isBreak c

/-- Whether a line begins with the mark of a document's start or end. -/
def isDocumentMark : List Char → Bool
  | '-' :: '-' :: '-' :: rest => isBlankEnd rest
  | '.' :: '.' :: '.' :: rest => isBlankEnd rest
  | _ => false

/-! ## Places -/

structure Cursor where
  rest : List Char
  index : Nat := 0
  line : Nat := 0
  column : Nat := 0
deriving Inhabited

def Cursor.after (here : Cursor) (c : Char) (rest : List Char) : Cursor :=
  if isBreak c then ⟨rest, here.index + 1, here.line + 1, 0⟩
  else ⟨rest, here.index + 1, here.line, here.column + 1⟩

/-- The cursor after the characters that have been read to reach `rest`. -/
def Cursor.move (here : Cursor) : List Char → Cursor
  | [] => here
  | c :: cs => Cursor.move (here.after c (here.rest.drop 1)) cs

def Cursor.span (here : Cursor) (test : Char → Bool) : List Char × Cursor :=
  let read := here.rest.takeWhile test
  (read, here.move read)

def Cursor.skip (here : Cursor) (test : Char → Bool) : Cursor := (here.span test).2

def Cursor.advance (here : Cursor) (count : Nat) : Cursor := here.move (here.rest.take count)

/-! ## Scalars -/

/-- Adds the white space between two words: breaks are folded, one to a space and more to all but
the first, unless the first is a Unicode separator. -/
def fold (blanks breaks : List Char) : List Char :=
  match breaks with
  | [] => blanks
  | '\n' :: [] => [' ']
  | '\n' :: more => more
  | breaks => breaks

/-- Reads a plain scalar. `text` is what has been read, `blanks` and `breaks` the white space since;
`atWord` tells that a word may begin here. Gives the text, whether a line ended after it, and the
cursor after the white space. -/
def plain (inFlow : Bool) (indent : Int) (text blanks breaks : List Char) (atWord : Bool)
    (here : Cursor) : List Char → Option (List Char × Bool × Cursor)
  | [] => some (text, !breaks.isEmpty, here)
  | c :: rest =>
    if isBlank c then
      if !breaks.isEmpty && here.column < indent && c = '\t' then none
      else
        plain inFlow indent text (if breaks.isEmpty then blanks ++ [c] else blanks) breaks true
          (here.after c rest) rest
    else if isBreak c then
      plain inFlow indent text [] (breaks ++ [c]) true (here.after c rest) rest
    else if atWord && !text.isEmpty && !inFlow && here.column < indent then
      some (text, !breaks.isEmpty, here)
    else if atWord && ((here.column = 0 && isDocumentMark (c :: rest)) || c = '#') then
      some (text, !breaks.isEmpty, here)
    else if inFlow && c = ':' && (rest.head?.any (",?[]\x7b\x7d".toList.contains ·)) then none
    else if (c = ':' && isBlankEnd rest) || (inFlow && ",[]\x7b\x7d".toList.contains c) then
      some (text, !breaks.isEmpty, here)
    else
      plain inFlow indent (text ++ fold blanks breaks ++ [c]) [] [] false (here.after c rest) rest

def escaped? : Char → Option Char
  | '0' => some (Char.ofNat 0)
  | 'a' => some '\x07'
  | 'b' => some '\x08'
  | 't' => some '\t'
  | '\t' => some '\t'
  | 'n' => some '\n'
  | 'v' => some '\x0b'
  | 'f' => some '\x0c'
  | 'r' => some '\r'
  | 'e' => some '\x1b'
  | ' ' => some ' '
  | '"' => some '"'
  | '/' => some '/'
  | '\\' => some '\\'
  | 'N' => some '\u0085'
  | '_' => some '\u00a0'
  | 'L' => some '\u2028'
  | 'P' => some '\u2029'
  | _ => none

def escapeDigits? : Char → Option Nat
  | 'x' => some 2
  | 'u' => some 4
  | 'U' => some 8
  | _ => none

def charOf? (digits : List Char) : Option Char :=
  match digitsNat? 16 digits with
  | some n => if (0xD800 ≤ n && n ≤ 0xDFFF) || n > 0x10FFFF then none else some (Char.ofNat n)
  | none => none

/-- Reads a scalar in single quotes, after the first quote. -/
def single (text blanks breaks : List Char) (here : Cursor) :
    List Char → Option (List Char × Cursor)
  | [] => none
  | '\'' :: '\'' :: rest =>
    single (text ++ fold blanks breaks ++ ['\'']) [] []
      ((here.after '\'' ('\'' :: rest)).after '\'' rest) rest
  | c :: rest =>
    if isBlank c then
      single text (if breaks.isEmpty then blanks ++ [c] else blanks) breaks (here.after c rest) rest
    else if isBreak c then single text [] (breaks ++ [c]) (here.after c rest) rest
    else if here.column = 0 && isDocumentMark (c :: rest) then none
    else if c = '\'' then some (text ++ fold blanks breaks, here.after c rest)
    else single (text ++ fold blanks breaks ++ [c]) [] [] (here.after c rest) rest

/-- White space in a scalar in double quotes. -/
inductive Gap where
  | line (blanks : List Char)
  | lines (breaks : List Char)
  /-- After an escaped line end. -/
  | joined (breaks : List Char)
deriving Inhabited

def Gap.text : Gap → List Char
  | .line blanks => blanks
  | .lines breaks => fold [] breaks
  | .joined breaks => breaks

def Gap.blank (gap : Gap) (c : Char) : Gap :=
  match gap with
  | .line blanks => .line (blanks ++ [c])
  | gap => gap

def Gap.lineEnd (gap : Gap) (c : Char) : Gap :=
  match gap with
  | .line _ => .lines [c]
  | .lines breaks => .lines (breaks ++ [c])
  | .joined breaks => .joined (breaks ++ [c])

/-- Reads a scalar in double quotes, after the first quote. `wanted` counts the digits that are
missing of an escape by number, `digits` are those it has. -/
def double (text : List Char) (gap : Gap) (wanted : Nat) (digits : List Char) (escaping : Bool)
    (here : Cursor) : List Char → Option (List Char × Cursor)
  | [] => none
  | c :: rest =>
    let next := here.after c rest
    if wanted = 1 then
      match charOf? (digits ++ [c]) with
      | some e => double (text ++ [e]) (.line []) 0 [] false next rest
      | none => none
    else if wanted > 1 then
      if (digitsNat? 16 [c]).isSome then
        double text gap (wanted - 1) (digits ++ [c]) false next rest
      else none
    else if escaping then
      if isBreak c then double (text ++ gap.text) (.joined []) 0 [] false next rest
      else
        match escapeDigits? c with
        | some count => double (text ++ gap.text) (.line []) count [] false next rest
        | none =>
          match escaped? c with
          | some e => double (text ++ gap.text ++ [e]) (.line []) 0 [] false next rest
          | none => none
    else if isBlank c then double text (gap.blank c) 0 [] false next rest
    else if isBreak c then double text (gap.lineEnd c) 0 [] false next rest
    else if here.column = 0 && isDocumentMark (c :: rest) then none
    else if c = '"' then some (text ++ gap.text, next)
    else if c = '\\' then double text gap 0 [] true next rest
    else double (text ++ gap.text ++ [c]) (.line []) 0 [] false next rest

/-- What becomes of the line ends after a block scalar. -/
inductive Chomping where
  | strip
  | clip
  | keep
deriving DecidableEq, Repr, Inhabited

structure Block where
  isLiteral : Bool
  chomping : Chomping
  /-- The column of the text; none before it is known. -/
  indent : Option Nat
  /-- The least column the text may have. -/
  least : Nat
  text : List Char := []
  lineEnd : List Char := []
  /-- The ends of the empty lines since. -/
  emptyLines : List Char := []
  /-- Whether the last line began with a blank. -/
  wasBlank : Bool := false
  /-- The largest column reached by an empty line. -/
  deepest : Nat := 0
deriving Inhabited

/-- Adds the white space before a new line of text, which begins with `c`. -/
def Block.join (b : Block) (c : Char) : Block :=
  let folds := !b.isLiteral && b.lineEnd == ['\n'] && !b.wasBlank && !isBlank c
  let between :=
    if folds then (if b.emptyLines.isEmpty then [' '] else []) else b.lineEnd
  { b with
    text := b.text ++ between ++ b.emptyLines
    lineEnd := []
    emptyLines := []
    wasBlank := isBlank c }

def Block.finish (b : Block) : List Char :=
  match b.chomping with
  | .strip => b.text
  | .clip => b.text ++ b.lineEnd
  | .keep => b.text ++ b.lineEnd ++ b.emptyLines

/-- Reads a block scalar, after its header; `inLine` tells that the text of a line has begun. -/
def block (b : Block) (inLine : Bool) (here : Cursor) : List Char → Option (List Char × Cursor)
  | [] => some (b.finish, here)
  | c :: rest =>
    let next := here.after c rest
    if inLine then
      if isBreak c then block { b with lineEnd := [c] } false next rest
      else block { b with text := b.text ++ [c] } true next rest
    else if c = ' ' && b.indent.all (here.column < ·) then block b false next rest
    else
      let deepest := max b.deepest here.column
      if c = '\t' && b.indent.all (here.column < ·) then none
      else if isBreak c then
        block { b with emptyLines := b.emptyLines ++ [c], deepest := deepest } false next rest
      else
        let indent := b.indent.getD (max deepest b.least)
        if here.column = indent then
          let b := { b with indent := some indent }.join c
          block { b with text := b.text ++ [c] } true next rest
        else some (b.finish, here)

/-- Reads the header of a block scalar: how it is chomped, and by how much it is indented. -/
def blockHeader : List Char → Option (Chomping × Nat × List Char)
  | cs =>
    let chomp : List Char → Chomping × List Char
      | '+' :: rest => (.keep, rest)
      | '-' :: rest => (.strip, rest)
      | rest => (.clip, rest)
    let depth : List Char → Option (Nat × List Char)
      | c :: rest =>
        if c = '0' then none
        else if c.isDigit then some (digitValue c, rest)
        else some (0, c :: rest)
      | [] => some (0, [])
    match chomp cs with
    | (.clip, rest) =>
      (depth rest).map fun (n, rest) =>
        if n = 0 then (.clip, 0, rest) else ((chomp rest).1, n, (chomp rest).2)
    | (chomping, rest) => (depth rest).map fun (n, rest) => (chomping, n, rest)

/-! ## The scanner -/

/-- Where a key without a mark of its own may have begun. -/
structure SimpleKey where
  /-- Whether the line would have to be a key. -/
  required : Bool
  /-- How many tokens came before. -/
  tokens : Nat
  place : Cursor
deriving Inhabited

structure State where
  /-- The tokens found, the last first. -/
  tokens : List Token := []
  count : Nat := 0
  place : Cursor
  /-- The column of the innermost block, or -1. -/
  indent : Int := -1
  /-- The columns of the blocks around it, the nearest first. -/
  outer : List Int := []
  keyAllowed : Bool := true
  /-- The possible key of the block and of every open flow collection, the innermost first. -/
  keys : List (Option SimpleKey) := [none]
deriving Inhabited

namespace State

def flowLevel (s : State) : Nat := s.keys.length - 1

def inFlow (s : State) : Bool := s.flowLevel > 0

def column (s : State) : Int := s.place.column

def emit (s : State) (token : Token) : State :=
  { s with tokens := token :: s.tokens, count := s.count + 1 }

/-- Puts a token where an earlier number of tokens had been found. -/
def insert (s : State) (place : Nat) (token : Token) : State :=
  let later := s.count - place
  { s with
    tokens := s.tokens.take later ++ token :: s.tokens.drop later
    count := s.count + 1 }

/-- Forgets the possible key; fails if the line had to be one. -/
def dropKey (s : State) : Option State :=
  match s.keys with
  | some key :: rest => if key.required then none else some { s with keys := none :: rest }
  | _ => some s

def saveKey (s : State) : Option State :=
  if s.keyAllowed then
    (s.dropKey).map fun s =>
      { s with
        keys := some ⟨!s.inFlow && s.indent == s.column, s.count, s.place⟩ :: s.keys.drop 1 }
  else some s

/-- Forgets keys that began on an earlier line or too long ago; fails if one had to be a key. -/
def dropStale (s : State) : Option State :=
  let isStale (key : SimpleKey) : Bool :=
    key.place.line < s.place.line || key.place.index + 1024 < s.place.index
  if s.keys.any fun key => key.any fun key => isStale key && key.required then none
  else some { s with keys := s.keys.map fun key => key.filter fun key => !isStale key }

/-- Opens a block at a column, unless one is open there or a flow collection is. -/
def openBlock (s : State) (column : Int) (place : Nat) (token : Token) : State :=
  if !s.inFlow && s.indent < column then
    { s with indent := column, outer := s.indent :: s.outer }.insert place token
  else s

def closeBlocks (s : State) (column : Int) : State :=
  if s.inFlow then s else go s s.outer
where
  go (s : State) : List Int → State
    | [] => s
    | outer :: rest =>
      if s.indent > column then go ({ s with indent := outer, outer := rest }.emit .blockEnd) rest
      else s

/-- Skips white space, comments and line ends. A tab is white space unless a key could begin. -/
def skipSpace (s : State) : List Char → Bool → State
  | [], _ => s
  | c :: rest, inComment =>
    let next := { s with place := s.place.after c rest }
    if isBreak c then
      skipSpace { next with keyAllowed := next.keyAllowed || !s.inFlow } rest false
    else if inComment then skipSpace next rest true
    else if c = '#' then skipSpace next rest true
    else if c = ' ' || (c = '\t' && (s.inFlow || !s.keyAllowed)) ||
        (c = '\ufeff' && s.place.column = 0) then skipSpace next rest false
    else s

def mark (s : State) (token : Token) : State :=
  { s with place := s.place.advance 1 }.emit token

def openFlow (s : State) (token : Token) : Option State :=
  s.saveKey.map fun s => { s with keys := none :: s.keys, keyAllowed := true }.mark token

def closeFlow (s : State) (token : Token) : Option State :=
  s.dropKey.map fun s =>
    { s with keys := if s.inFlow then s.keys.drop 1 else s.keys, keyAllowed := false }.mark token

def flowEntry (s : State) : Option State :=
  s.dropKey.map fun s => { s with keyAllowed := true }.mark .flowEntry

def blockEntry (s : State) : Option State :=
  if !s.inFlow && !s.keyAllowed then none
  else
    (s.openBlock s.column s.count .blockSequenceStart).dropKey.map fun s =>
      { s with keyAllowed := true }.mark .blockEntry

def keyMark (s : State) : Option State :=
  if !s.inFlow && !s.keyAllowed then none
  else
    (s.openBlock s.column s.count .blockMappingStart).dropKey.map fun s =>
      { s with keyAllowed := !s.inFlow }.mark .key

def valueMark (s : State) : Option State :=
  match s.keys with
  | some key :: rest =>
    let s := (s.insert key.tokens .key).openBlock key.place.column key.tokens .blockMappingStart
    some ({ s with keys := none :: rest, keyAllowed := false }.mark .value)
  | _ =>
    if !s.inFlow && !s.keyAllowed then none
    else
      let s := s.openBlock s.column s.count .blockMappingStart
      some ({ s with keyAllowed := !s.inFlow }.mark .value)

/-- Reads an anchor or an alias, which `make` turns into a token. -/
def anchor (s : State) (make : String → Token) : Option State :=
  s.saveKey.bind fun s =>
    let (name, place) := (s.place.advance 1).span isName
    let ends := isBlankEnd place.rest || place.rest.head?.any ("?:,]\x7d%@`".toList.contains ·)
    if name.isEmpty || !ends then none
    else some ({ s with keyAllowed := false, place := place }.emit (make (String.ofList name)))

def isTagChar (inUri : Bool) (c : Char) : Bool :=
  isName c || ";/?:@&=+$.!~*'()%".toList.contains c || (inUri && ",[]".toList.contains c)

/-- The text of a tag; characters by number are read as bytes. -/
def tagText? : List Char → Option (List UInt8)
  | [] => some []
  | '%' :: a :: b :: rest =>
    (digitsNat? 16 [a, b]).bind fun n => (tagText? rest).map (n.toUInt8 :: ·)
  | '%' :: _ => none
  | c :: rest => (tagText? rest).map ((String.singleton c).toUTF8.toList ++ ·)

def tagString? (cs : List Char) : Option String :=
  (tagText? cs).bind fun bytes => String.fromUTF8? ⟨bytes.toArray⟩

/-- Reads a tag: in angle brackets, by a handle between exclamation marks, or by a single one. -/
def tag (s : State) : Option State :=
  s.saveKey.bind fun s =>
    let finish (handle suffix : String) (place : Cursor) : Option State :=
      let ends := isBlankEnd place.rest || (s.inFlow && place.rest.head? == some ',')
      if ends then some ({ s with keyAllowed := false, place := place }.emit (.tag handle suffix))
      else none
    match s.place.rest with
    | '!' :: '<' :: _ =>
      let (uri, place) := (s.place.advance 2).span (isTagChar true)
      if uri.isEmpty || place.rest.head? != some '>' then none
      else (tagString? uri).bind fun uri => finish "" uri (place.advance 1)
    | _ =>
      let (name, place) := (s.place.advance 1).span isName
      match place.rest with
      | '!' :: _ =>
        let (suffix, place) := (place.advance 1).span (isTagChar false)
        if suffix.isEmpty then none
        else
          (tagString? suffix).bind fun suffix =>
            finish ("!" ++ String.ofList name ++ "!") suffix place
      | _ =>
        let (more, place) := place.span (isTagChar false)
        (tagString? more).bind fun more =>
          let suffix := String.ofList name ++ more
          if suffix.isEmpty then finish "" "!" place else finish "!" suffix place

def blockScalar (s : State) (isLiteral : Bool) : Option State :=
  s.dropKey.bind fun s =>
    let start := s.place.advance 1
    (blockHeader start.rest).bind fun (chomping, depth, rest) =>
      let place := (start.move (start.rest.take (start.rest.length - rest.length))).skip isBlank
      let place := if place.rest.head? == some '#' then place.skip (!isBreak ·) else place
      if !isLineEnd place.rest then none
      else
        let place := place.advance 1
        let indent : Option Nat :=
          if depth = 0 then none
          else some (if s.indent ≥ 0 then s.indent.toNat + depth else depth)
        let least := max 1 (s.indent + 1).toNat
        (block { isLiteral, chomping, indent, least } false place place.rest).map
          fun (text, place) =>
            { s with keyAllowed := true, place := place }.emit
              (.scalar (String.ofList text) false)

def quoted (s : State) (isSingle : Bool) : Option State :=
  s.saveKey.bind fun s =>
    let start := s.place.advance 1
    let read :=
      if isSingle then single [] [] [] start start.rest
      else double [] (.line []) 0 [] false start start.rest
    read.map fun (text, place) =>
      { s with keyAllowed := false, place := place }.emit (.scalar (String.ofList text) false)

/-- Reads a plain scalar. A key may follow if a line has ended. -/
def plainScalar (s : State) : Option State :=
  s.saveKey.bind fun s =>
    (plain s.inFlow (s.indent + 1) [] [] [] true s.place s.place.rest).map
      fun (text, ended, place) =>
        { s with keyAllowed := ended, place := place }.emit (.scalar (String.ofList text) true)

/-- Leaves all blocks, before a mark between documents. -/
def leave (s : State) : Option State :=
  (s.closeBlocks (-1)).dropKey.map fun s => { s with keyAllowed := false }

/-- The value of a directive: a version, or a handle and what it stands for. -/
def directive? (name : List Char) (place : Cursor) : Option (Token × Cursor) :=
  let place := place.skip isBlank
  if name = "YAML".toList then
    let (major, place) := place.span Char.isDigit
    if major.isEmpty || major.length > 9 || place.rest.head? != some '.' then none
    else
      let (minor, place) := (place.advance 1).span Char.isDigit
      if minor.isEmpty || minor.length > 9 then none
      else some (.versionDirective (digitsNat major) (digitsNat minor), place)
  else if name = "TAG".toList then
    if place.rest.head? != some '!' then none
    else
      let (handle, place) := (place.advance 1).span isName
      let isClosed := place.rest.head? == some '!'
      if !isClosed && !handle.isEmpty then none
      else
        let place := if isClosed then place.advance 1 else place
        let handle := "!" ++ String.ofList handle ++ (if isClosed then "!" else "")
        if !(place.rest.head?.any isBlank) then none
        else
          let (lead, place) := (place.skip isBlank).span (isTagChar true)
          if lead.isEmpty || !isBlankEnd place.rest then none
          else (tagString? lead).map fun lead => (.tagDirective handle lead, place)
  else none

def directive (s : State) : Option State :=
  s.leave.bind fun s =>
    let (name, place) := (s.place.advance 1).span isName
    if name.isEmpty || !isBlankEnd place.rest then none
    else
      (directive? name place).bind fun (token, place) =>
        let place := place.skip isBlank
        let place := if place.rest.head? == some '#' then place.skip (!isBreak ·) else place
        if !isLineEnd place.rest then none
        else some ({ s with place := place.advance 1 }.emit token)

def documentMark (s : State) (token : Token) : Option State :=
  s.leave.map fun s => { s with place := s.place.advance 3 }.emit token

def isIndicator (c : Char) : Bool := "-?:,[]\x7b\x7d#&*!|>'\"%@`".toList.contains c

/-- Reads the token that begins with `c`. -/
def fetch (s : State) (c : Char) (rest : List Char) : Option State :=
  let blankNext := isBlankEnd rest
  if s.place.column = 0 && c = '%' then s.directive
  else if s.place.column = 0 && isDocumentMark (c :: rest) then
    s.documentMark (if c = '-' then .documentStart else .documentEnd)
  else if c = '[' then s.openFlow .flowSequenceStart
  else if c = '\x7b' then s.openFlow .flowMappingStart
  else if c = ']' then s.closeFlow .flowSequenceEnd
  else if c = '\x7d' then s.closeFlow .flowMappingEnd
  else if c = ',' then s.flowEntry
  else if c = '-' && blankNext then s.blockEntry
  else if c = '?' && (s.inFlow || blankNext) then s.keyMark
  else if c = ':' && (s.inFlow || blankNext) then s.valueMark
  else if c = '*' then s.anchor .alias
  else if c = '&' then s.anchor .anchor
  else if c = '!' then s.tag
  else if c = '|' && !s.inFlow then s.blockScalar true
  else if c = '>' && !s.inFlow then s.blockScalar false
  else if c = '\'' then s.quoted true
  else if c = '"' then s.quoted false
  else if (!isBlank c && !isIndicator c) || (c = '-' && !(rest.head?.any isBlank)) ||
      (!s.inFlow && (c = '?' || c = ':') && !blankNext) then s.plainScalar
  else none

/-- Reads tokens to the end, at most `limit` of them. -/
def run (s : State) : Nat → Option State
  | 0 => none
  | limit + 1 =>
    (s.skipSpace s.place.rest false).dropStale.bind fun s =>
      let s := s.closeBlocks s.column
      match s.place.rest with
      | [] => (s.closeBlocks (-1)).dropKey
      | c :: rest => (s.fetch c rest).bind (run · limit)

end State
end Scanner

/-- The tokens of a text. Every token takes at least one character. -/
def Token.scan? (text : String) : Option (List Token) :=
  let cs := text.toList
  let cs := if cs.head? == some '\ufeff' then cs.drop 1 else cs
  if cs.all Scanner.isAllowed then
    let cs := Scanner.unifyLines cs
    (Scanner.State.run { place := { rest := cs } } (cs.length + 1)).map (·.tokens.reverse)
  else none

end Yaml
end ImportMacros
