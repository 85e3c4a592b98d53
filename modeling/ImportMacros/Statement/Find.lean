import ImportMacros.Statement

/-!
# ImportMacros.Statement.Find

Where the statements of a program are. `Program.statements` lists those of interest in visiting
order; `Program.firstStatement?` stops at the first one that passes a test. No import declaration
is looked into; every declarator is, also if it is a statement itself.
-/

namespace ImportMacros
namespace Tree

/-- The statement that a tree is by itself, if its source is wanted. -/
def ownStatement? (wanted : String → Bool) (t : Tree) : Option Statement :=
  t.statement?.filter fun s => wanted s.source

mutual

/-- The statements in a tree whose sources are wanted, in visiting order. -/
def statements (wanted : String → Bool) : Tree → List Statement
  | .absent => []
  | .use _ => []
  | .binder _ ascription => statements wanted ascription
  | .seq items => statementsAll wanted items
  | .node kind span data parts =>
    (ownStatement? wanted (.node kind span data parts)).toList ++
      if kind = .importDeclaration then [] else statementsAll wanted parts

def statementsAll (wanted : String → Bool) : List Tree → List Statement
  | [] => []
  | t :: rest => statements wanted t ++ statementsAll wanted rest

end

mutual

/-- The first statement in a tree whose source is wanted and that passes a test. -/
def firstStatement? (wanted : String → Bool) (test : Statement → Bool) : Tree → Option Statement
  | .absent => none
  | .use _ => none
  | .binder _ ascription => firstStatement? wanted test ascription
  | .seq items => firstOfAll? wanted test items
  | .node kind span data parts =>
    match (ownStatement? wanted (.node kind span data parts)).filter test with
    | some s => some s
    | none => if kind = .importDeclaration then none else firstOfAll? wanted test parts

def firstOfAll? (wanted : String → Bool) (test : Statement → Bool) : List Tree → Option Statement
  | [] => none
  | t :: rest =>
    match firstStatement? wanted test t with
    | some s => some s
    | none => firstOfAll? wanted test rest

end

end Tree

namespace Program

def statements (wanted : String → Bool) (p : Program) : List Statement :=
  Tree.statementsAll wanted p.body

/-- The first statement of a program whose source is wanted and whose key is not `handled`. -/
def firstStatement? (wanted : String → Bool) (handled : List Key) (p : Program) :
    Option Statement :=
  Tree.firstOfAll? wanted (fun s => !handled.contains s.key) p.body

end Program
end ImportMacros
