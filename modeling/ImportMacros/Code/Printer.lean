import ImportMacros.Code.Layout
import ImportMacros.Text.Quoted
import ImportMacros.Tree

/-!
# ImportMacros.Code.Printer

The text of programs. Literals are written as they were read, and a parenthesis only where the tree
has one. A statement ends its line, but a block does not: the statements of a block, in turn, stand
on lines of their own.
-/

namespace ImportMacros
namespace Code

open Layout

def textOf (data : Fields) (field : String) : String :=
  match data.get? field with
  | some (.string s) => s
  | _ => ""

def isSet (data : Fields) (field : String) : Bool :=
  match data.get? field with
  | some (.bool b) => b
  | _ => false

/-- A literal as it was read; a text that was never read is quoted. -/
def literalText (data : Fields) : String :=
  match data.get? "raw" with
  | some (.string raw) => raw
  | _ => Text.quote (textOf data "value")

/-- Kinds of statement that a semicolon ends. -/
def endsWithMark : Tree → Bool
  | .node kind _ _ parts =>
    match kind, parts with
    | .exportDeclaration, [declared] => declared.isKind .variableDeclaration
    | .variableDeclaration, _ | .expressionStatement, _ | .emptyStatement, _
    | .returnStatement, _ | .throwStatement, _ | .breakStatement, _ | .continueStatement, _
    | .doWhileStatement, _ | .importDeclaration, _ | .exportNamed, _
    | .exportDefaultExpression, _ => true
    | _, _ => false
  | _ => false

def asStatement (t : Tree) (inner : Layout) : Layout :=
  if t.isKind .block then inner
  else if endsWithMark t then inner ++ text ";" ++ line
  else inner ++ line

def asStatements (body : Tree) (inner : List Layout) : List Layout :=
  List.zipWith asStatement body.items inner

/-- A layout with a word before it, if there is something. -/
def optional (before : String) (t : Tree) (inner : Layout) : Layout :=
  if t.isAbsent then [] else text before ++ inner

def namesInBraces (names : List Layout) : Layout :=
  if names.isEmpty then text "\x7b \x7d" else text "\x7b " ++ commas names ++ text " \x7d"

/-- The layouts of the items of an array. One that is left out at the end needs a comma. -/
def arrayItems (items : Tree) (inner : List Layout) : List Layout :=
  if items.items.getLast?.any Tree.isAbsent then inner.dropLast ++ [text ","] else inner

/-- Pieces of a template and the expressions between them. -/
def interleave : List Layout → List Layout → Layout
  | quasi :: quasis, value :: values =>
    quasi ++ text "$\x7b" ++ value ++ text "\x7d" ++ interleave quasis values
  | quasi :: quasis, [] => quasi ++ interleave quasis []
  | [], _ => []

def importLayout (specifiers : List Tree) (inner : List Layout) : Layout :=
  let rows := specifiers.zip inner
  let isNamed (row : Tree × Layout) : Bool := row.1.isKind .importSpecifier
  let named := (rows.filter isNamed).map (·.2)
  let others := (rows.filter (!isNamed ·)).map (·.2)
  if rows.isEmpty then []
  else commas (others ++ if named.isEmpty then [] else [namesInBraces named]) ++ text " from "

/-- Whether a point after a tree would belong to its number. -/
def endsInDigits : Tree → Bool
  | .node .numeric _ data _ =>
    match (textOf data "raw").toList with
    | '0' :: _ :: _ => false
    | cs => cs.all Char.isDigit
  | _ => false

/-- What stands between an object and its member. -/
def memberMark (object key : Tree) : String :=
  if key.isKind .computed then "" else if endsInDigits object then ".." else "."

/-- The layout of an attribute; attributes that are spread from an object stand in braces. -/
def attributeLayout (t : Tree) (inner : Layout) : Layout :=
  if t.isKind .spreadElement then text " \x7b" ++ inner ++ text "\x7d" else text " " ++ inner

/-- Whether two signs would run together. -/
def needsBlank (op : String) : Tree → Bool
  | .node .unary _ data _ => textOf data "operator" == op && (op = "+" || op = "-")
  | .node .update _ data _ => isSet data "prefix" && textOf data "operator" == op ++ op
  | _ => false

def unaryText (op : String) (operand : Tree) : String :=
  if op.toList.any Char.isAlpha || needsBlank op operand then op ++ " " else op

mutual

/-- The layout of a tree. A statement comes without what ends it. -/
def layout : Tree → Layout
  | .absent => []
  | .use id => text id.name
  | .binder id _ => text id.name
  | .seq items => commas (layoutAll items)
  | .node kind _ data parts =>
    match kind, parts with
    | .name, _ => text (textOf data "value")
    | .string, _ | .numeric, _ => text (literalText data)
    | .boolean, _ => text (if isSet data "value" then "true" else "false")
    | .nullLiteral, _ => text "null"
    | .thisExpression, _ => text "this"
    | .templateElement, _ | .jsxText, _ => text (textOf data "raw")
    | .templateLiteral, [values, quasis] =>
      text "`" ++ interleave (each quasis) (each values) ++ text "`"
    | .taggedTemplate, [tag, template] => layout tag ++ layout template
    | .array, [items] => stacked "[" "," "]" (arrayItems items (each items))
    | .object, [properties] => stacked "\x7b" "," "\x7d" (each properties)
    | .keyValueProperty, [key, value] => layout key ++ text ": " ++ layout value
    | .spreadElement, [value] => text "..." ++ layout value
    | .argument, [value] =>
      (if (data.get? "spread").any (· matches .object _) then text "..." else []) ++ layout value
    | .computed, [key] => text "[" ++ layout key ++ text "]"
    | .functionExpression, [name, params, body] =>
      text "function" ++ optional " " name (layout name) ++ text "(" ++ layout params ++
        text ") " ++ layout body
    | .functionDeclaration, [name, params, body] =>
      text "function " ++ layout name ++ text "(" ++ layout params ++ text ") " ++ layout body
    | .parameter, [pattern] => layout pattern
    | .arrow, [params, body] => text "(" ++ layout params ++ text ")=>" ++ layout body
    | .call, [callee, args] => layout callee ++ text "(" ++ layout args ++ text ")"
    | .newExpression, [callee, args] =>
      text "new " ++ layout callee ++
        if args.isAbsent then [] else text "(" ++ layout args ++ text ")"
    | .member, [object, key] => layout object ++ text (memberMark object key) ++ layout key
    | .unary, [operand] => text (unaryText (textOf data "operator") operand) ++ layout operand
    | .update, [target] =>
      if isSet data "prefix" then text (textOf data "operator") ++ layout target
      else layout target ++ text (textOf data "operator")
    | .binary, [left, right] | .assignment, [left, right] =>
      layout left ++ text (" " ++ textOf data "operator" ++ " ") ++ layout right
    | .conditional, [test, consequent, alternate] =>
      layout test ++ text " ? " ++ layout consequent ++ text " : " ++ layout alternate
    | .sequence, [items] => layout items
    | .parenthesis, [inner] => text "(" ++ layout inner ++ text ")"
    | .jsxElement, [opening, children, closing] =>
      layout opening ++ (each children).flatten ++ layout closing
    | .jsxFragment, [_, children, _] => text "<>" ++ (each children).flatten ++ text "</>"
    | .jsxOpeningElement, [name, attributes] =>
      text "<" ++ layout name ++
        (List.zipWith attributeLayout attributes.items (each attributes)).flatten ++
        text (if isSet data "selfClosing" then "/>" else ">")
    | .jsxClosingElement, [name] => text "</" ++ layout name ++ text ">"
    | .jsxMemberExpression, [object, name] => layout object ++ text "." ++ layout name
    | .jsxNamespacedName, [space, name] => layout space ++ text ":" ++ layout name
    | .jsxAttribute, [name, value] => layout name ++ optional "=" value (layout value)
    | .jsxExpressionContainer, [value] => text "\x7b" ++ layout value ++ text "\x7d"
    | .jsxSpreadChild, [value] => text "\x7b..." ++ layout value ++ text "\x7d"
    | .assignmentPattern, [target, value] => layout target ++ text " = " ++ layout value
    | .arrayPattern, [items] =>
      text "[" ++ commas (arrayItems items (each items)) ++ text "]"
    | .objectPattern, [properties] =>
      if properties.items.isEmpty then text "\x7b\x7d" else namesInBraces (each properties)
    | .assignmentPatternProperty, [key, value] => layout key ++ optional " = " value (layout value)
    | .keyValuePatternProperty, [key, value] => layout key ++ text ": " ++ layout value
    | .restElement, [target] => text "..." ++ layout target
    | .variableDeclaration, [declarators] =>
      text (textOf data "kind" ++ " ") ++ layout declarators
    | .variableDeclarator, [target, value] => layout target ++ optional " = " value (layout value)
    | .block, [body] => stacked "\x7b" "" "\x7d" (asStatements body (each body))
    | .expressionStatement, [value] => layout value
    | .returnStatement, [value] => text "return" ++ optional " " value (layout value)
    | .throwStatement, [value] => text "throw " ++ layout value
    | .breakStatement, [label] => text "break" ++ optional " " label (layout label)
    | .continueStatement, [label] => text "continue" ++ optional " " label (layout label)
    | .labeledStatement, [label, body] =>
      layout label ++ text ": " ++ asStatement body (layout body)
    | .ifStatement, [test, consequent, alternate] =>
      text "if (" ++ layout test ++ text ") " ++ asStatement consequent (layout consequent) ++
        if alternate.isAbsent then []
        else
          text (if consequent.isKind .block then " else " else "else ") ++
            asStatement alternate (layout alternate)
    | .whileStatement, [test, body] =>
      text "while(" ++ layout test ++ text ")" ++ asStatement body (layout body)
    | .doWhileStatement, [test, body] =>
      text "do " ++ asStatement body (layout body) ++
        text (if body.isKind .block then " while (" else "while (") ++ layout test ++ text ")"
    | .forStatement, [first, test, update, body] =>
      text "for(" ++ layout first ++ text ";" ++ optional " " test (layout test) ++ text ";" ++
        optional " " update (layout update) ++ text ")" ++ asStatement body (layout body)
    | .forInStatement, [head, subject, body] =>
      text "for(" ++ layout head ++ text " in " ++ layout subject ++ text ")" ++
        asStatement body (layout body)
    | .forOfStatement, [head, subject, body] =>
      text "for (" ++ layout head ++ text " of " ++ layout subject ++ text ")" ++
        asStatement body (layout body)
    | .tryStatement, [body, handler, finalizer] =>
      text "try " ++ layout body ++ optional " " handler (layout handler) ++
        optional " finally " finalizer (layout finalizer)
    | .catchClause, [caught, body] =>
      text "catch " ++
        (if caught.isAbsent then [] else text "(" ++ layout caught ++ text ") ") ++ layout body
    | .importDeclaration, [specifiers, source] =>
      text "import " ++ importLayout specifiers.items (each specifiers) ++ layout source
    | .importDefaultSpecifier, [own] => layout own
    | .importNamespaceSpecifier, [own] => text "* as " ++ layout own
    | .importSpecifier, [own, imported] =>
      (if imported.isAbsent then [] else layout imported ++ text " as ") ++ layout own
    | .exportDeclaration, [declared] => text "export " ++ layout declared
    | .exportNamed, [specifiers, source] =>
      text "export " ++ namesInBraces (each specifiers) ++ optional " from " source (layout source)
    | .exportSpecifier, [own, exported] =>
      layout own ++ optional " as " exported (layout exported)
    | .exportDefaultExpression, [value] => text "export default " ++ layout value
    | .exportDefaultDeclaration, [declared] => text "export default " ++ layout declared
    | _, parts => (layoutAll parts).flatten

def each : Tree → List Layout
  | .seq items => layoutAll items
  | _ => []

def layoutAll : List Tree → List Layout
  | [] => []
  | t :: rest => layout t :: layoutAll rest

end

end Code

namespace Program

def toCode (p : Program) : String :=
  (List.zipWith Code.asStatement p.body (Code.layoutAll p.body)).flatten |> Code.Layout.render

end Program
end ImportMacros
