/-!
# ImportMacros.Tree.Kind

The kinds of node of a syntax tree: what each is called in the JSON form of a tree, and which of
its fields hold subtrees, in the order in which they are visited. That order is the order of
`Kind.slots`; it is not always the order of the source text (the test of a do-while loop and the
body of a class come first).

The slots of the named kinds are those of ECMAScript with JSX. Decorators, but for those of a
method, type parameters and arguments, return types and `implements` have no slot: in such a program
there are none, and what stands in their fields is kept as data that is not visited.
-/

namespace ImportMacros

inductive Kind where
  | arrow
  | assignment
  | assignmentPattern
  | assignmentPatternProperty
  | array
  | arrayPattern
  | await
  | binary
  | block
  | boolean
  | breakStatement
  | call
  | catchClause
  | classDeclaration
  | classExpression
  | classMethod
  | classProperty
  | computed
  | conditional
  | constructorMethod
  | continueStatement
  | doWhileStatement
  | emptyStatement
  | exportDeclaration
  | exportDefaultDeclaration
  | exportDefaultExpression
  | exportNamed
  | exportSpecifier
  | expressionStatement
  | forStatement
  | forInStatement
  | forOfStatement
  | functionDeclaration
  | functionExpression
  | getterProperty
  | ifStatement
  | importDeclaration
  | importDefaultSpecifier
  | importNamespaceSpecifier
  | importSpecifier
  | jsxElement
  | jsxFragment
  | jsxOpeningElement
  | jsxClosingElement
  | jsxOpeningFragment
  | jsxClosingFragment
  | jsxAttribute
  | jsxMemberExpression
  | jsxNamespacedName
  | jsxExpressionContainer
  | jsxSpreadChild
  | jsxEmptyExpression
  | jsxText
  | keyValueProperty
  | keyValuePatternProperty
  | labeledStatement
  | member
  | methodProperty
  | newExpression
  | nullLiteral
  | numeric
  | object
  | objectPattern
  | optionalChaining
  | parameter
  | parenthesis
  | privateMethod
  | privateName
  | privateProperty
  | restElement
  | returnStatement
  | sequence
  | setterProperty
  | spreadElement
  | staticBlock
  | string
  | switchStatement
  | switchCase
  | taggedTemplate
  | templateElement
  | templateLiteral
  | thisExpression
  | throwStatement
  | tryStatement
  | typeAssertion
  | moduleDeclaration
  | moduleBlock
  | unary
  | update
  | usingDeclaration
  | variableDeclaration
  | variableDeclarator
  | whileStatement
  | withStatement
  | yieldExpression
  /-- An argument of a call or an item of an array, which may be spread. -/
  | argument
  /-- The function that a method of a class consists of. -/
  | function
  /-- A name that is no identifier: of a property or of an attribute. -/
  | name
  /-- Any other kind, with the fields that hold its subtrees. -/
  | other (type : String) (slots : List String) (isSpanned : Bool)
deriving DecidableEq, Repr, Inhabited

namespace Kind

/-- The kinds that have a type name of their own, with that name and their slots. -/
def table : List (Kind × String × List String) := [
  (.arrow, "ArrowFunctionExpression", ["params", "body"]),
  (.assignment, "AssignmentExpression", ["left", "right"]),
  (.assignmentPattern, "AssignmentPattern", ["left", "right"]),
  (.assignmentPatternProperty, "AssignmentPatternProperty", ["key", "value"]),
  (.array, "ArrayExpression", ["elements"]),
  (.arrayPattern, "ArrayPattern", ["elements"]),
  (.await, "AwaitExpression", ["argument"]),
  (.binary, "BinaryExpression", ["left", "right"]),
  (.block, "BlockStatement", ["stmts"]),
  (.boolean, "BooleanLiteral", []),
  (.breakStatement, "BreakStatement", ["label"]),
  (.call, "CallExpression", ["callee", "arguments"]),
  (.catchClause, "CatchClause", ["param", "body"]),
  (.classDeclaration, "ClassDeclaration", ["identifier", "body", "superClass"]),
  (.classExpression, "ClassExpression", ["identifier", "body", "superClass"]),
  (.classMethod, "ClassMethod", ["key", "function"]),
  (.classProperty, "ClassProperty", ["key", "value"]),
  (.computed, "Computed", ["expression"]),
  (.conditional, "ConditionalExpression", ["test", "consequent", "alternate"]),
  (.constructorMethod, "Constructor", ["key", "params", "body"]),
  (.continueStatement, "ContinueStatement", ["label"]),
  (.doWhileStatement, "DoWhileStatement", ["test", "body"]),
  (.emptyStatement, "EmptyStatement", []),
  (.exportDeclaration, "ExportDeclaration", ["declaration"]),
  (.exportDefaultDeclaration, "ExportDefaultDeclaration", ["decl"]),
  (.exportDefaultExpression, "ExportDefaultExpression", ["expression"]),
  (.exportNamed, "ExportNamedDeclaration", ["specifiers", "source"]),
  (.exportSpecifier, "ExportSpecifier", ["orig", "exported"]),
  (.expressionStatement, "ExpressionStatement", ["expression"]),
  (.forStatement, "ForStatement", ["init", "test", "update", "body"]),
  (.forInStatement, "ForInStatement", ["left", "right", "body"]),
  (.forOfStatement, "ForOfStatement", ["left", "right", "body"]),
  (.functionDeclaration, "FunctionDeclaration", ["identifier", "params", "body"]),
  (.functionExpression, "FunctionExpression", ["identifier", "params", "body"]),
  (.getterProperty, "GetterProperty", ["key", "body"]),
  (.ifStatement, "IfStatement", ["test", "consequent", "alternate"]),
  (.importDeclaration, "ImportDeclaration", ["specifiers", "source"]),
  (.importDefaultSpecifier, "ImportDefaultSpecifier", ["local"]),
  (.importNamespaceSpecifier, "ImportNamespaceSpecifier", ["local"]),
  (.importSpecifier, "ImportSpecifier", ["local", "imported"]),
  (.jsxElement, "JSXElement", ["opening", "children", "closing"]),
  (.jsxFragment, "JSXFragment", ["opening", "children", "closing"]),
  (.jsxOpeningElement, "JSXOpeningElement", ["name", "attributes"]),
  (.jsxClosingElement, "JSXClosingElement", ["name"]),
  (.jsxOpeningFragment, "JSXOpeningFragment", []),
  (.jsxClosingFragment, "JSXClosingFragment", []),
  (.jsxAttribute, "JSXAttribute", ["name", "value"]),
  (.jsxMemberExpression, "JSXMemberExpression", ["object", "property"]),
  (.jsxNamespacedName, "JSXNamespacedName", ["namespace", "name"]),
  (.jsxExpressionContainer, "JSXExpressionContainer", ["expression"]),
  (.jsxSpreadChild, "JSXSpreadChild", ["expression"]),
  (.jsxEmptyExpression, "JSXEmptyExpression", []),
  (.jsxText, "JSXText", []),
  (.keyValueProperty, "KeyValueProperty", ["key", "value"]),
  (.keyValuePatternProperty, "KeyValuePatternProperty", ["key", "value"]),
  (.labeledStatement, "LabeledStatement", ["label", "body"]),
  (.member, "MemberExpression", ["object", "property"]),
  (.methodProperty, "MethodProperty", ["key", "params", "body"]),
  (.newExpression, "NewExpression", ["callee", "arguments"]),
  (.nullLiteral, "NullLiteral", []),
  (.numeric, "NumericLiteral", []),
  (.object, "ObjectExpression", ["properties"]),
  (.objectPattern, "ObjectPattern", ["properties"]),
  (.optionalChaining, "OptionalChainingExpression", ["base"]),
  (.parameter, "Parameter", ["pat"]),
  (.parenthesis, "ParenthesisExpression", ["expression"]),
  (.privateMethod, "PrivateMethod", ["key", "function"]),
  (.privateName, "PrivateName", []),
  (.privateProperty, "PrivateProperty", ["key", "value"]),
  (.restElement, "RestElement", ["argument"]),
  (.returnStatement, "ReturnStatement", ["argument"]),
  (.sequence, "SequenceExpression", ["expressions"]),
  (.setterProperty, "SetterProperty", ["key", "param", "body"]),
  (.spreadElement, "SpreadElement", ["arguments"]),
  (.staticBlock, "StaticBlock", ["body"]),
  (.string, "StringLiteral", []),
  (.switchStatement, "SwitchStatement", ["discriminant", "cases"]),
  (.switchCase, "SwitchCase", ["test", "consequent"]),
  (.taggedTemplate, "TaggedTemplateExpression", ["tag", "template"]),
  (.templateElement, "TemplateElement", []),
  (.templateLiteral, "TemplateLiteral", ["expressions", "quasis"]),
  (.thisExpression, "ThisExpression", []),
  (.throwStatement, "ThrowStatement", ["argument"]),
  (.tryStatement, "TryStatement", ["block", "handler", "finalizer"]),
  (.typeAssertion, "TsAsExpression", ["expression", "typeAnnotation"]),
  (.moduleDeclaration, "TsModuleDeclaration", ["id", "body"]),
  (.moduleBlock, "TsModuleBlock", ["body"]),
  (.unary, "UnaryExpression", ["argument"]),
  (.update, "UpdateExpression", ["argument"]),
  (.usingDeclaration, "UsingDeclaration", ["decls"]),
  (.variableDeclaration, "VariableDeclaration", ["declarations"]),
  (.variableDeclarator, "VariableDeclarator", ["id", "init"]),
  (.whileStatement, "WhileStatement", ["test", "body"]),
  (.withStatement, "WithStatement", ["object", "body"]),
  (.yieldExpression, "YieldExpression", ["argument"])]

/-- The type name of a kind; arguments and functions have none. -/
def typeName? : Kind → Option String
  | .argument => none
  | .function => none
  | .name => some "Identifier"
  | .other type _ _ => some type
  | kind => (table.lookup kind).map (·.1)

def ofTypeName? (type : String) : Option Kind :=
  (table.find? (fun row => row.2.1 == type)).map (·.1)

/-- The fields that hold subtrees, in the order in which they are visited. -/
def slots : Kind → List String
  | .argument => ["expression"]
  | .function => ["params", "decorators", "body"]
  | .name => []
  | .other _ slots _ => slots
  | kind => ((table.lookup kind).map (·.2)).getD []

def isSpanned : Kind → Bool
  | .argument => false
  | .keyValueProperty => false
  | .keyValuePatternProperty => false
  | .spreadElement => false
  | .other _ _ isSpanned => isSpanned
  | _ => true

def isExpression : Kind → Bool
  | .thisExpression | .array | .object | .functionExpression | .unary | .update | .binary
  | .assignment | .member | .conditional | .call | .newExpression | .sequence | .string
  | .boolean | .nullLiteral | .numeric | .templateLiteral | .taggedTemplate | .arrow
  | .classExpression | .yieldExpression | .await | .parenthesis | .jsxElement | .jsxFragment
  | .jsxMemberExpression | .jsxEmptyExpression | .typeAssertion | .privateName
  | .optionalChaining => true
  | _ => false

end Kind
end ImportMacros
