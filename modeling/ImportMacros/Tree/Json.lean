import ImportMacros.Tree

/-!
# ImportMacros.Tree.Json

The JSON form of trees. `Tree.ofValue` reads it and `Tree.toValue` writes it; a tree that was read
and left alone is written as it came. An object with a `type` is a node. An identifier is a binder
if it has a field for a type ascription, is used if it has only a scope, and is a mere name
without one.

Programs of ECMAScript with JSX are meant. A field without a slot becomes data as it is, so types
and most decorators on a node of a named kind do.
-/

namespace ImportMacros

namespace Span

/-- Reads a span; anything else is the empty one. -/
def ofValue (value : Value) : Span :=
  let place (key : String) : Nat :=
    match value.field? key with
    | some (.number (.int n)) => n.toNat
    | _ => 0
  ⟨place "start", place "end"⟩

def toValue (span : Span) : Value :=
  .object [("start", .number (.int span.start)), ("end", .number (.int span.stop))]

end Span

namespace Kind

/-- A value that holds nodes: an object with a type, or a list of which some item has one. -/
def holdsNodes : Value → Bool
  | .object fields => (Fields.get? fields "type").isSome
  | .array items => items.any fun item => (item.field? "type").isSome
  | _ => false

def ofFields (fields : Fields) : Kind :=
  match fields.get? "type" with
  | some (.string type) =>
    if type = "Identifier" then .name
    else
      match ofTypeName? type with
      | some kind => kind
      | none =>
        .other type ((fields.filter (holdsNodes ·.2)).map (·.1)) (fields.get? "span").isSome
  | _ => if (fields.get? "spread").isSome then .argument else .function

end Kind

namespace Ident

def ofFields (fields : Fields) : Ident where
  name :=
    match fields.get? "value" with
    | some (.string name) => name
    | _ => ""
  scope :=
    match fields.get? "ctxt" with
    | some (.number (.int n)) => n.toNat
    | _ => 0
  span := Span.ofValue ((fields.get? "span").getD .null)
  optional :=
    match fields.get? "optional" with
    | some (.bool b) => b
    | _ => false

def toFields (id : Ident) : Fields :=
  [("type", .string "Identifier"), ("span", id.span.toValue),
    ("ctxt", .number (.int id.scope)), ("value", .string id.name),
    ("optional", .bool id.optional)]

end Ident

namespace Tree

/-- Puts a node together from its fields, which are also given read as trees. -/
def ofFields (fields : Fields) (read : List (String × Tree)) : Tree :=
  let isIdent := match fields.get? "type" with
    | some (.string type) => type == "Identifier"
    | _ => false
  if isIdent && (fields.get? "ctxt").isSome then
    match fields.get? "typeAnnotation" with
    | none => .use (Ident.ofFields fields)
    | some _ => .binder (Ident.ofFields fields) ((read.lookup "typeAnnotation").getD .absent)
  else
    let kind := Kind.ofFields fields
    let slots := kind.slots
    .node kind (Span.ofValue ((fields.get? "span").getD .null))
      (fields.filter fun field =>
        field.1 != "type" && field.1 != "span" && !slots.contains field.1)
      (slots.map fun slot => (read.lookup slot).getD .absent)

mutual

def ofValue : Value → Tree
  | .array items => .seq (ofItems items)
  | .object fields => ofFields fields (ofFieldValues fields)
  | _ => .absent

def ofItems : List Value → List Tree
  | [] => []
  | item :: rest => ofValue item :: ofItems rest

def ofFieldValues : List (String × Value) → List (String × Tree)
  | [] => []
  | (key, value) :: rest => (key, ofValue value) :: ofFieldValues rest

end

mutual

def toValue : Tree → Value
  | .absent => .null
  | .seq items => .array (toValues items)
  | .use id => .object id.toFields
  | .binder id ascription => .object (id.toFields ++ [("typeAnnotation", toValue ascription)])
  | .node kind span data parts =>
    .object <|
      (match kind.typeName? with
        | some type => [("type", .string type)]
        | none => []) ++
      (if kind.isSpanned then [("span", span.toValue)] else []) ++
      data ++ kind.slots.zip (toValues parts)

def toValues : List Tree → List Value
  | [] => []
  | t :: rest => toValue t :: toValues rest

end

end Tree

namespace Program

def ofValue (value : Value) : Program where
  isModule :=
    match value.field? "type" with
    | some (.string type) => type == "Module"
    | _ => false
  span := Span.ofValue ((value.field? "span").getD .null)
  interpreter := (value.field? "interpreter").getD .null
  body :=
    match value.field? "body" with
    | some (.array items) => Tree.ofItems items
    | _ => []

def toValue (p : Program) : Value :=
  .object [("type", .string (if p.isModule then "Module" else "Script")),
    ("span", p.span.toValue), ("interpreter", p.interpreter),
    ("body", .array (Tree.toValues p.body))]

end Program
end ImportMacros
