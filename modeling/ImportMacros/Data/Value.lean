import ImportMacros.Data.Double

/-!
# ImportMacros.Data.Value

Configuration data: what a JSON, JSON5 or YAML document holds. Objects keep the order in which
their keys first came; a later value for a key takes the place of the earlier one.
-/

namespace ImportMacros

/-- A number: a whole number of 64 bits, signed or unsigned, or else a double. -/
inductive Number where
  | int (n : Int)
  | double (x : Double)
deriving DecidableEq, Repr, Inhabited

inductive Value where
  | null
  | bool (b : Bool)
  | number (n : Number)
  | string (s : String)
  | array (items : List Value)
  | object (fields : List (String × Value))
deriving Repr, Inhabited

/-- The fields of an object, in the order of their keys. -/
abbrev Fields := List (String × Value)

namespace Fields

def get? (fields : Fields) (key : String) : Option Value := List.lookup key fields

/-- Sets a key: in its place if it is there, else at the end. -/
def put : Fields → String → Value → Fields
  | [], key, value => [(key, value)]
  | (k, v) :: rest, key, value =>
    if k = key then (k, value) :: rest else (k, v) :: put rest key value

/-- Sets every field of `other` in turn. -/
def merge (fields other : Fields) : Fields :=
  other.foldl (fun fields field => put fields field.1 field.2) fields

end Fields

namespace Value

def field? (value : Value) (key : String) : Option Value :=
  match value with
  | .object fields => Fields.get? fields key
  | _ => none

def typeName : Value → String
  | .null => "null"
  | .bool _ => "boolean"
  | .number _ => "number"
  | .string _ => "string"
  | .array _ => "array"
  | .object _ => "object"

/-- Objects can be merged, and null counts as an empty one. -/
def isMergeable : Value → Bool
  | .null => true
  | .object _ => true
  | _ => false

/-- The fields that a value contributes to a merge. -/
def fields : Value → Fields
  | .object fields => fields
  | _ => []

end Value

namespace Number

/-- A whole number if it fits into 64 bits, signed or unsigned. -/
def ofInt? (n : Int) : Option Number :=
  if -(twoPow 63 : Int) ≤ n && n < (twoPow 64 : Int) then some (.int n) else none

def text : Number → String
  | .int n => toString n
  | .double x => x.text

end Number
end ImportMacros
