import ImportMacros.Data.Yaml.Event

/-!
# ImportMacros.Data.Yaml

YAML documents as configuration data. `Yaml.read?` cuts a text into tokens, reads the events they
spell, and builds the value. Plain scalars are resolved by the core schema: null, booleans, whole
numbers in four bases, floating-point numbers, and else texts. An alias stands for a copy of what
its anchor marks.
-/

namespace ImportMacros
namespace Yaml

/-! ## Scalars -/

def isNull (text : String) : Bool := ["null", "Null", "NULL", "~"].contains text

def bool? (text : String) : Option Bool :=
  if ["true", "True", "TRUE"].contains text then some true
  else if ["false", "False", "FALSE"].contains text then some false
  else none

/-- Whether a text has a zero before further digits, and nothing else but a sign. -/
def hasLeadingZero (cs : List Char) : Bool :=
  let digits :=
    match cs with
    | '-' :: rest => rest
    | '+' :: rest => rest
    | rest => rest
  digits.length > 1 && digits.head? == some '0' && digits.all Char.isDigit

/-- A whole number with a base mark, without its sign. -/
def based? : List Char → Option Nat
  | '0' :: 'x' :: digits => digitsNat? 16 digits
  | '0' :: 'o' :: digits => digitsNat? 8 digits
  | '0' :: 'b' :: digits => digitsNat? 2 digits
  | _ => none

/-- The whole number that a text spells, of any size. -/
def int? (cs : List Char) : Option Int :=
  let decimal? (digits : List Char) : Option Nat :=
    if hasLeadingZero cs then none else digitsNat? 10 digits
  match cs with
  | '-' :: rest => ((based? rest).or (decimal? rest)).map fun n => -(n : Int)
  | '+' :: rest => ((based? rest).or (decimal? rest)).map Int.ofNat
  | rest => ((based? rest).or (decimal? rest)).map Int.ofNat

inductive Float where
  | finite (x : Double)
  /-- An infinity, or not a number. -/
  | special
deriving Inhabited

def float? (cs : List Char) : Option Float :=
  let text := String.ofList cs
  if [".inf", ".Inf", ".INF", "+.inf", "+.Inf", "+.INF", "-.inf", "-.Inf", "-.INF", ".nan", ".NaN",
      ".NAN"].contains text then some .special
  else
    match Numeral.split? cs with
    | none => none
    | some n => if n.digits.isEmpty then none else n.double?.map .finite

/-- A number that is no finite double is read as null. -/
def Float.value : Float → Value
  | .finite x => .number (.double x)
  | .special => .null

inductive IntReading where
  | fits (n : Number)
  /-- It is beyond 64 bits, but not beyond 128. -/
  | tooLarge
  /-- It is no whole number, or beyond 128 bits. -/
  | none
deriving Inhabited

def readInt (text : String) : IntReading :=
  match int? text.toList with
  | Option.none => .none
  | some n =>
    match Number.ofInt? n with
    | some number => .fits number
    | Option.none => if -(twoPow 127 : Int) ≤ n && n < (twoPow 128 : Int) then .tooLarge else .none

/-- Resolves a scalar without a tag and without quotes. -/
def resolvePlain (text : String) : Option Value :=
  if text.isEmpty || isNull text then some .null
  else
    match bool? text with
    | some b => some (.bool b)
    | none =>
      match readInt text with
      | .fits n => some (.number n)
      | .tooLarge => none
      | .none =>
        if hasLeadingZero text.toList then some (.string text)
        else
          match float? text.toList with
          | some x => some x.value
          | none => some (.string text)

def coreTag (name : String) : String := "tag:yaml.org,2002:" ++ name

/-- Whether a tag is a private one, which no value has. -/
def isPrivate (tag : Option String) : Bool :=
  match tag with
  | some tag => tag.toList.head? == some '!'
  | none => false

def resolve (tag : Option String) (text : String) (isPlain : Bool) : Option Value :=
  match tag with
  | none => if isPlain then resolvePlain text else some (.string text)
  | some tag =>
    if tag = coreTag "bool" then (bool? text).map .bool
    else if tag = coreTag "int" then
      match readInt text with
      | .fits n => some (.number n)
      | _ => none
    else if tag = coreTag "float" then (float? text.toList).map Float.value
    else if tag = coreTag "null" then (if isNull text then some .null else none)
    else some (.string text)

/-! ## Documents -/

/-- A document with its aliases still in place, by the number of their anchor. -/
inductive Node where
  | scalar (tag : Option String) (text : String) (isPlain : Bool)
  | alias (id : Nat)
  | sequence (tag : Option String) (items : List Node)
  | mapping (tag : Option String) (items : List Node)
deriving Inhabited

/-- A collection that is still open, its items last first. -/
structure Frame where
  isMapping : Bool
  tag : Option String
  /-- The number of its anchor, and which event it began with. -/
  anchor : Option (Nat × Nat)
  items : List Node
deriving Inhabited

structure Loader where
  stack : List Frame := []
  root : Option Node := none
  events : Nat := 0
  /-- The number of each anchor name: how many names there were when it was last given. -/
  names : List (String × Nat) := []
  /-- What each number stands for, with the event it began with. -/
  anchors : List (Nat × Nat × Node) := []
deriving Inhabited

namespace Loader

def place (l : Loader) (anchor : Option (Nat × Nat)) (node : Node) : Loader :=
  let l :=
    match anchor with
    | some (id, event) => { l with anchors := (id, event, node) :: l.anchors }
    | none => l
  match l.stack with
  | [] => { l with root := some node }
  | frame :: rest => { l with stack := { frame with items := node :: frame.items } :: rest }

def name (l : Loader) (mark : Mark) : Loader × Option (Nat × Nat) :=
  match mark.anchor with
  | none => (l, none)
  | some name =>
    let id := l.names.length
    ({ l with names := (name, id) :: l.names.filter (·.1 != name) }, some (id, l.events))

def step (l : Loader) (event : Event) : Option Loader :=
  let counted := { l with events := l.events + 1 }
  match event with
  | .scalar mark text isPlain =>
    let (l', anchor) := l.name mark
    some ({ l' with events := l.events + 1 }.place anchor (.scalar mark.tag text isPlain))
  | .alias name => (l.names.lookup name).map fun id => counted.place none (.alias id)
  | .sequenceStart mark =>
    let (l', anchor) := l.name mark
    some { l' with events := l.events + 1, stack := ⟨false, mark.tag, anchor, []⟩ :: l.stack }
  | .mappingStart mark =>
    let (l', anchor) := l.name mark
    some { l' with events := l.events + 1, stack := ⟨true, mark.tag, anchor, []⟩ :: l.stack }
  | .sequenceEnd | .mappingEnd =>
    match l.stack with
    | [] => none
    | frame :: rest =>
      let items := frame.items.reverse
      let node : Node :=
        if frame.isMapping then .mapping frame.tag items else .sequence frame.tag items
      some ({ counted with stack := rest }.place frame.anchor node)

def run (l : Loader) : List Event → Option Loader
  | [] => some l
  | event :: rest => (l.step event).bind (run · rest)

/-- What a number stands for: of those that share it, what began last. -/
def anchored (l : Loader) (id : Nat) : Option Node :=
  let found := l.anchors.filter (·.1 == id)
  (found.foldl (fun best entry =>
    match best with
    | none => some entry
    | some other => if other.2.1 < entry.2.1 then some entry else some other) none).map (·.2.2)

end Loader

/-- How deep collections may nest once aliases are copied. -/
def maxDepth : Nat := 128

/-- How many aliases may be followed for each event of a document. -/
def aliasesPerEvent : Nat := 100

def keyText? (l : Loader) : Node → Option (String × Nat)
  | .scalar _ text _ => some (text, 0)
  | .alias id =>
    match l.anchored id with
    | some (.scalar _ text _) => some (text, 1)
    | _ => none
  | _ => none

def follow (l : Loader) : Node → Option (Node × Nat)
  | .alias id => (l.anchored id).map (·, 1)
  | node => some (node, 0)

mutual

/-- The value of a node, and how many aliases have been followed after `used` of them. -/
def value? (l : Loader) (depth : Nat) (used : Nat) (node : Node) : Option (Value × Nat) :=
  match follow l node with
  | none => none
  | some (target, followed) =>
    let used := used + followed
    if followed > 0 && used > l.events * aliasesPerEvent then none
    else
      match target with
      | .scalar tag text isPlain =>
        if isPrivate tag then none else (resolve tag text isPlain).map (·, used)
      | .alias _ => none
      | .sequence tag items =>
        match depth with
        | 0 => none
        | depth + 1 =>
          if isPrivate tag then none
          else (values? l depth used items).map fun (values, used) => (.array values, used)
      | .mapping tag items =>
        match depth with
        | 0 => none
        | depth + 1 =>
          if isPrivate tag then none
          else (fields? l depth used [] items).map fun (fields, used) => (.object fields, used)
termination_by (depth, 1, 0)

def values? (l : Loader) (depth : Nat) (used : Nat) (items : List Node) :
    Option (List Value × Nat) :=
  match items with
  | [] => some ([], used)
  | item :: rest =>
    match value? l depth used item with
    | none => none
    | some (value, used) =>
      (values? l depth used rest).map fun (values, used) => (value :: values, used)
termination_by (depth, 2, items.length)

/-- The fields of a mapping, whose keys and values take turns. -/
def fields? (l : Loader) (depth : Nat) (used : Nat) (fields : Fields) (items : List Node) :
    Option (Fields × Nat) :=
  match items with
  | key :: item :: rest =>
    match keyText? l key with
    | none => none
    | some (text, followed) =>
      if followed > 0 && used + followed > l.events * aliasesPerEvent then none
      else
        match value? l depth (used + followed) item with
        | none => none
        | some (value, used) => fields? l depth used (fields.put text value) rest
  | _ => some (fields, used)
termination_by (depth, 2, items.length)

end

/-- Reads a text. A text without a document is null. -/
def read? (text : String) : Option Value :=
  match (Token.scan? text).bind Event.ofTokens? with
  | none => none
  | some events =>
    match ({} : Loader).run events with
    | none => none
    | some l =>
      match l.root with
      | none => some .null
      | some root => (value? l maxDepth 0 root).map (·.1)

end Yaml
end ImportMacros
