import ImportMacros.Data.Yaml.Token

/-!
# ImportMacros.Data.Yaml.Event

What the tokens of a YAML text say: scalars, aliases, and the starts and ends of sequences and
mappings. The grammar is read by a machine with a stack, `Reader.step`; a state names the rule
that goes on when the current one is done. `Event.ofTokens?` gives the events of a text that holds
at most one document.
-/

namespace ImportMacros
namespace Yaml

structure Mark where
  anchor : Option String := none
  tag : Option String := none
deriving DecidableEq, Repr, Inhabited

inductive Event where
  | scalar (mark : Mark) (text : String) (isPlain : Bool)
  | alias (name : String)
  | sequenceStart (mark : Mark)
  | sequenceEnd
  | mappingStart (mark : Mark)
  | mappingEnd
deriving DecidableEq, Repr, Inhabited

namespace Reader

inductive Rule where
  /-- A node; whether it may be a block, and a sequence without an indentation of its own. -/
  | node (isBlock mayDedent : Bool)
  | blockEntry
  | dedentedEntry
  | blockKey
  | blockValue
  | flowEntry (isFirst : Bool)
  | flowKey (isFirst : Bool)
  | flowValue
  /-- After a key of a flow mapping that no question mark announced. -/
  | flowLoneValue
  /-- The key, the value and the end of a pair that stands in a flow sequence. -/
  | pairKey
  | pairValue
  | pairEnd
deriving DecidableEq, Repr, Inhabited

/-- A reader under way: the tokens to come, the rules to follow, and the events found, the last
first. -/
structure State where
  tokens : List Token
  rules : List Rule
  events : List Event
  /-- What the tag handles of the document stand for. -/
  handles : List (String × String)
deriving Inhabited

namespace State

def emit (s : State) (event : Event) : State := { s with events := event :: s.events }

/-- A scalar where nothing is written. -/
def empty (s : State) (mark : Mark) : State := s.emit (.scalar mark "" true)

def follow (s : State) (rules : List Rule) : State := { s with rules := rules ++ s.rules }

def next (s : State) : State := { s with tokens := s.tokens.drop 1 }

/-- The tag that a handle and a suffix stand for. -/
def resolve (s : State) (handle suffix : String) : Option String :=
  if handle.isEmpty then some suffix else (s.handles.lookup handle).map (· ++ suffix)

def marks (s : State) : Option (Mark × State) :=
  match s.tokens with
  | .anchor name :: .tag handle suffix :: rest =>
    (s.resolve handle suffix).map (⟨⟨some name, some ·⟩, { s with tokens := rest }⟩)
  | .anchor name :: rest => some (⟨some name, none⟩, { s with tokens := rest })
  | .tag handle suffix :: .anchor name :: rest =>
    (s.resolve handle suffix).map (⟨⟨some name, some ·⟩, { s with tokens := rest }⟩)
  | .tag handle suffix :: rest =>
    (s.resolve handle suffix).map (⟨⟨none, some ·⟩, { s with tokens := rest }⟩)
  | _ => some ({}, s)

def node (s : State) (isBlock mayDedent : Bool) : Option State :=
  match s.tokens with
  | .alias name :: _ => some (s.next.emit (.alias name))
  | _ =>
    s.marks.bind fun (mark, s) =>
      match s.tokens with
      | .blockEntry :: _ =>
        if mayDedent then some ((s.emit (.sequenceStart mark)).follow [.dedentedEntry])
        else if mark == {} then none
        else some (s.empty mark)
      | .scalar text isPlain :: _ => some (s.next.emit (.scalar mark text isPlain))
      | .flowSequenceStart :: _ =>
        some ((s.next.emit (.sequenceStart mark)).follow [.flowEntry true])
      | .flowMappingStart :: _ =>
        some ((s.next.emit (.mappingStart mark)).follow [.flowKey true])
      | token :: _ =>
        if isBlock && token = .blockSequenceStart then
          some ((s.next.emit (.sequenceStart mark)).follow [.blockEntry])
        else if isBlock && token = .blockMappingStart then
          some ((s.next.emit (.mappingStart mark)).follow [.blockKey])
        else if mark == {} then none
        else some (s.empty mark)
      | [] => if mark == {} then none else some (s.empty mark)

/-- Reads a node, or nothing if one of some tokens follows. -/
def nodeUnless (s : State) (isBlock mayDedent : Bool) (stops : List Token) : State :=
  if s.tokens.head?.any (stops.contains ·) then s.empty {}
  else s.follow [.node isBlock mayDedent]

def blockEntry (s : State) : Option State :=
  match s.tokens with
  | .blockEntry :: _ =>
    some ((s.next.follow [.blockEntry]).nodeUnless true false [.blockEntry, .blockEnd])
  | .blockEnd :: _ => some (s.next.emit .sequenceEnd)
  | _ => none

/-- Reads the next entry of a block sequence without an indentation of its own. -/
def dedentedEntry (s : State) : Option State :=
  match s.tokens with
  | .blockEntry :: _ =>
    some ((s.next.follow [.dedentedEntry]).nodeUnless true false
      [.blockEntry, .key, .value, .blockEnd])
  | _ => some (s.emit .sequenceEnd)

def blockKey (s : State) : Option State :=
  match s.tokens with
  | .key :: _ =>
    some ((s.next.follow [.blockValue]).nodeUnless true true [.key, .value, .blockEnd])
  | .blockEnd :: _ => some (s.next.emit .mappingEnd)
  | _ => none

def blockValue (s : State) : Option State :=
  match s.tokens with
  | .value :: _ =>
    some ((s.next.follow [.blockKey]).nodeUnless true true [.key, .value, .blockEnd])
  | _ => some ((s.follow [.blockKey]).empty {})

/-- Goes over the comma before an entry, unless it is the first. -/
def comma (s : State) (isFirst : Bool) : Option State :=
  if isFirst then some s
  else
    match s.tokens with
    | .flowEntry :: _ => some s.next
    | _ => none

def flowEntry (s : State) (isFirst : Bool) : Option State :=
  match s.tokens with
  | .flowSequenceEnd :: _ => some (s.next.emit .sequenceEnd)
  | _ =>
    (s.comma isFirst).bind fun s =>
      match s.tokens with
      | .key :: _ =>
        some ((s.next.emit (.mappingStart {})).follow [.pairKey, .flowEntry false])
      | .flowSequenceEnd :: _ => some (s.next.emit .sequenceEnd)
      | _ => some (s.follow [.node false false, .flowEntry false])

def flowKey (s : State) (isFirst : Bool) : Option State :=
  match s.tokens with
  | .flowMappingEnd :: _ => some (s.next.emit .mappingEnd)
  | _ =>
    (s.comma isFirst).bind fun s =>
      match s.tokens with
      | .key :: _ =>
        some ((s.next.follow [.flowValue]).nodeUnless false false
          [.value, .flowEntry, .flowMappingEnd])
      | .flowMappingEnd :: _ => some (s.next.emit .mappingEnd)
      | _ => some (s.follow [.node false false, .flowLoneValue])

def flowValue (s : State) : Option State :=
  match s.tokens with
  | .value :: _ =>
    some ((s.next.follow [.flowKey false]).nodeUnless false false [.flowEntry, .flowMappingEnd])
  | _ => some ((s.follow [.flowKey false]).empty {})

/-- Reads the key of a pair in a flow sequence. Where it is left out, a token is passed over. -/
def pairKey (s : State) : Option State :=
  if s.tokens.head?.any ([Token.value, .flowEntry, .flowSequenceEnd].contains ·) then
    some ((s.next.follow [.pairValue]).empty {})
  else some (s.follow [.node false false, .pairValue])

def pairValue (s : State) : Option State :=
  match s.tokens with
  | .value :: _ =>
    some ((s.next.follow [.pairEnd]).nodeUnless false false [.flowEntry, .flowSequenceEnd])
  | _ => some ((s.follow [.pairEnd]).empty {})

def step (s : State) : Rule → Option State
  | .node isBlock mayDedent => s.node isBlock mayDedent
  | .blockEntry => s.blockEntry
  | .dedentedEntry => s.dedentedEntry
  | .blockKey => s.blockKey
  | .blockValue => s.blockValue
  | .flowEntry isFirst => s.flowEntry isFirst
  | .flowKey isFirst => s.flowKey isFirst
  | .flowValue => s.flowValue
  | .flowLoneValue => some ((s.follow [.flowKey false]).empty {})
  | .pairKey => s.pairKey
  | .pairValue => s.pairValue
  | .pairEnd => some (s.emit .mappingEnd)

/-- Follows rules until none is left, at most `limit` of them. -/
def run (s : State) : Nat → Option State
  | 0 => none
  | limit + 1 =>
    match s.rules with
    | [] => some s
    | rule :: rules => (step { s with rules := rules } rule).bind (run · limit)

end State

def commonHandles : List (String × String) := [("!", "!"), ("!!", "tag:yaml.org,2002:")]

/-- Reads the directives before a document. A handle is declared once, and the version is. -/
def directives (hasVersion : Bool) (handles : List (String × String)) :
    List Token → Option (List (String × String) × List Token)
  | .versionDirective major minor :: rest =>
    if hasVersion || major ≠ 1 || (minor ≠ 1 && minor ≠ 2) then none
    else directives true handles rest
  | .tagDirective handle lead :: rest =>
    if (handles.lookup handle).isSome then none
    else directives hasVersion (handles ++ [(handle, lead)]) rest
  | tokens => some (handles ++ commonHandles, tokens)

def content (handles : List (String × String)) (tokens : List Token) : Option State :=
  let limit := 4 * tokens.length + 8
  State.run ⟨tokens, [.node true false], [], handles⟩ limit

/-- Whether a document's content is left out before a token. -/
def isBoundary : Token → Bool
  | .versionDirective _ _ | .tagDirective _ _ | .documentStart | .documentEnd => true
  | _ => false

/-- Reads a document that begins with directives or with a mark. -/
def explicitDocument (tokens : List Token) : Option State :=
  (directives false [] tokens).bind fun (handles, tokens) =>
    match tokens with
    | .documentStart :: rest =>
      if rest.head?.all isBoundary then some (State.empty ⟨rest, [], [], handles⟩ {})
      else content handles rest
    | _ => none

end Reader

/-- The events of the only document of a text; none at all if there is no document. -/
def Event.ofTokens? (tokens : List Token) : Option (List Event) :=
  let read : Option (Option Reader.State) :=
    match tokens with
    | [] => some none
    | token :: _ =>
      if Reader.isBoundary token && token ≠ .documentEnd then
        (Reader.explicitDocument tokens).map some
      else (Reader.content Reader.commonHandles tokens).map some
  match read with
  | none => none
  | some none => some []
  | some (some s) =>
    if s.tokens.all (· == .documentEnd) then some s.events.reverse else none

end Yaml
end ImportMacros
