import ImportMacros.Tree

/-!
# ImportMacros.Statement

The statements that bring macros into a program: import declarations, and declarators whose value
is a `require` call with one plain string. A `Statement` is such a statement taken out of the
program, so that the program can change while the statement is handled. `Statement.bindings`
tells what it binds, or why it cannot be handled.
-/

namespace ImportMacros

/-- Whether a source names a macro module: it ends in `/macro` or `.macro`, with `.js`, `.cjs` or
nothing after it. -/
def isMacroName (source : String) : Bool :=
  ["/macro", ".macro", "/macro.js", ".macro.js", "/macro.cjs", ".macro.cjs"].any
    fun ending => ending.toList.reverse.isPrefixOf source.toList.reverse

/-- What a statement is remembered by. -/
structure Key where
  span : Span
  source : String
deriving DecidableEq, Repr, Inhabited

inductive Statement where
  /-- An import declaration, with its specifiers. -/
  | importing (key : Key) (specifiers : List Tree)
  /-- A declarator with a `require` call, with its target. -/
  | requiring (key : Key) (target : Tree)
deriving Repr, Inhabited

namespace Statement

def key : Statement → Key
  | .importing key _ => key
  | .requiring key _ => key

def source (s : Statement) : String := s.key.source

end Statement

/-- What a call passes to `require`, if it passes one plain string and nothing else. -/
def Tree.requiredSource? : Tree → Option String
  | .node .call _ _ [.use callee, .seq [.node .argument _ data [.node .string span literal []]]] =>
    if callee.name = "require" && (data.get? "spread").all (fun v => v.typeName == "null") then
      (Tree.node .string span literal []).text? "value"
    else none
  | _ => none

def Tree.requireKey? : Tree → Option Key
  | .node .variableDeclarator span _ [_, value] => value.requiredSource?.map (⟨span, ·⟩)
  | _ => none

def Tree.importKey? : Tree → Option Key
  | .node .importDeclaration span _ [_, source] => (source.text? "value").map (⟨span, ·⟩)
  | _ => none

/-- The statement that a tree is, subtrees apart, whatever its source. -/
def Tree.statement? (t : Tree) : Option Statement :=
  match t.importKey? with
  | some key => some (.importing key (t.part 0).items)
  | none => t.requireKey?.map fun key => .requiring key (t.part 0)

structure Binding where
  localName : String
  importedName : String
deriving DecidableEq, Repr, Inhabited

def Binding.default (localName : String) : Binding := ⟨localName, "default"⟩

/-- Everything that a statement binds, and the scope that it is looked up in. -/
structure Bindings where
  items : List Binding
  scope : Nat
deriving DecidableEq, Repr, Inhabited

inductive UnsupportedBinding where
  | wholeModule
  /-- An import by a name that is a string. -/
  | stringName
  | remainingProperties
  | unnamedKey
  /-- A property is bound to something that is no name, or has a default. -/
  | unnamedValue
  | otherPattern
deriving DecidableEq, Repr, Inhabited

def UnsupportedBinding.message : UnsupportedBinding → String
  | .wholeModule => "Not sure how to handle this situation"
  | .stringName => "Not sure what to do"
  | .remainingProperties => "Don't know how to handle this"
  | .unnamedKey => "Key is not named"
  | .unnamedValue => "Value is not named"
  | .otherPattern => "Not sure how to handle this"

namespace Binding

/-- What an import specifier binds, and the scope of its name. -/
def ofSpecifier : Tree → Except UnsupportedBinding (Binding × Nat)
  | .node .importDefaultSpecifier _ _ [.use own] => .ok (.default own.name, own.scope)
  | .node .importNamespaceSpecifier _ _ _ => .error .wholeModule
  | .node .importSpecifier _ _ [.use own, .absent] => .ok (⟨own.name, own.name⟩, own.scope)
  | .node .importSpecifier _ _ [.use own, .use imported] =>
    .ok (⟨own.name, imported.name⟩, own.scope)
  | .node .importSpecifier _ _ _ => .error .stringName
  | _ => .error .wholeModule

/-- What a property of an object pattern binds, and the scope of its name. -/
def ofProperty : Tree → Except UnsupportedBinding (Binding × Nat)
  | .node .assignmentPatternProperty _ _ [.binder own _, .absent] =>
    .ok (⟨own.name, own.name⟩, own.scope)
  | .node .assignmentPatternProperty _ _ _ => .error .unnamedValue
  | .node .keyValuePatternProperty _ _ [key, value] =>
    match key with
    | .node .name _ data _ =>
      match value with
      | .binder own _ =>
        match data.get? "value" with
        | some (.string name) => .ok (⟨own.name, name⟩, own.scope)
        | _ => .error .unnamedKey
      | _ => .error .unnamedValue
    | _ => .error .unnamedKey
  | _ => .error .remainingProperties

end Binding

namespace Bindings

/-- The bindings of some trees, each read by `read`; the scope is that of the last one. -/
def collect (read : Tree → Except UnsupportedBinding (Binding × Nat)) (scope : Nat) :
    List Tree → Except UnsupportedBinding Bindings
  | [] => .ok ⟨[], scope⟩
  | t :: rest =>
    match read t with
    | .error e => .error e
    | .ok (binding, scope) =>
      match collect read scope rest with
      | .error e => .error e
      | .ok bindings => .ok { bindings with items := binding :: bindings.items }

end Bindings

/-- What a statement binds. A plain name is bound to the default export. -/
def Statement.bindings : Statement → Except UnsupportedBinding Bindings
  | .importing _ specifiers => Bindings.collect Binding.ofSpecifier 0 specifiers
  | .requiring _ (.binder own _) => .ok ⟨[.default own.name], own.scope⟩
  | .requiring _ (.node .objectPattern _ _ [.seq properties]) =>
    Bindings.collect Binding.ofProperty 0 properties
  | .requiring _ _ => .error .otherPattern

end ImportMacros
