import ImportMacros.Module
import ImportMacros.Text.Debug

/-!
# ImportMacros.Module.Debug

Values, macros and modules as they are shown to a programmer: on one line, each with the name of
its kind.
-/

namespace ImportMacros

/-- Something in a record or in parentheses that may be missing. -/
def debugOption (text : Option String) : String :=
  match text with
  | some text => "Some(" ++ text ++ ")"
  | none => "None"

namespace Value

mutual

/-- A value as it is shown to a programmer. -/
def debug : Value → String
  | .null => "Null"
  | .bool b => "Bool(" ++ toString b ++ ")"
  | .number n => "Number(" ++ n.text ++ ")"
  | .string s => "String(" ++ Text.debug s ++ ")"
  | .array items => "Array [" ++ ", ".intercalate (debugItems items) ++ "]"
  | .object fields => "Object \x7b" ++ ", ".intercalate (debugFields fields) ++ "\x7d"

def debugItems : List Value → List String
  | [] => []
  | item :: rest => debug item :: debugItems rest

def debugFields : List (String × Value) → List String
  | [] => []
  | (key, value) :: rest => (Text.debug key ++ ": " ++ debug value) :: debugFields rest

end

end Value

def Macro.debug (m : Macro) : String :=
  "Macro \x7b options: MacroOptions \x7b config_name: " ++
    debugOption (m.configName.map Text.debug) ++ " \x7d, .. \x7d"

def Exports.debug : Exports → String
  | .wrapped m => "Macro(" ++ m.debug ++ ")"
  | .bare => "Function"
  | .value v => "Value(" ++ v.debug ++ ")"
  | .esModule none => "EsModule \x7b default: None \x7d"
  | .esModule (some default) => "EsModule \x7b default: Some(" ++ default.debug ++ ") \x7d"

end ImportMacros
