import ComponentQueries.SyntaxTree

/-! Declared names and the nodes that own them. -/
namespace ComponentQueries

/-- The ways in which a name can be declared. -/
inductive BindingKind where
  | single | pattern | imported | required | function | classDefinition | parameter
  deriving DecidableEq, Repr

def BindingKind.label : BindingKind → String
  | single => "variable"
  | pattern => "pattern"
  | imported => "import"
  | required => "require"
  | function => "function"
  | classDefinition => "class"
  | parameter => "param"

/-- A declared name. For a name that comes from a module, `source` is the module
and `imported` is the name there: `default` for the default export and `*` for
the module as a whole, which has no name when it is required. -/
structure Binding where
  name : String
  kind : BindingKind
  site : Cursor
  source : Option String
  imported : Option String

/-- The initial value of a binding, if a declarator gives one. -/
def Binding.value? (binding : Binding) : Option Cursor :=
  if binding.site.kind = .variableDeclarator then binding.site.child? .value else none

def Binding.isFromModule (binding : Binding) : Bool :=
  binding.kind == .imported || binding.kind == .required

namespace Kind

/-- Functions, which own their parameters and the names that are hoisted in
them. -/
def isFunctionScope : Kind → Bool
  | arrowFunction | function | functionDeclaration | functionExpression | generatorFunction
  | generatorFunctionDeclaration | methodDefinition => true
  | _ => false

/-- Blocks, which own the names declared in them. -/
def isBlockScope : Kind → Bool
  | statementBlock | forStatement | forInStatement | classBody | switchBody => true
  | _ => false

def isScope (kind : Kind) : Bool :=
  kind.isFunctionScope || kind.isBlockScope || kind == program

end Kind

namespace Cursor

mutual

/-- The identifiers that a pattern binds, in document order. A default value, a
property key and a type bind nothing. -/
def boundNode (trail : List Crumb) : Node → List Cursor
  | ⟨kind, named, missing, hasError, start, stop, field, children⟩ =>
    let node : Node := ⟨kind, named, missing, hasError, start, stop, field, children⟩
    match kind with
    | .identifier | .shorthandPattern => [⟨node, trail⟩]
    | .assignmentPattern | .objectAssignmentPattern => boundField .left node trail 0 children
    | .pairPattern => boundField .value node trail 0 children
    | .requiredParameter | .optionalParameter => boundField .pattern node trail 0 children
    | _ => boundList node trail 0 children

/-- The identifiers that the first child in a role binds. -/
def boundField (field : Field) (parent : Node) (trail : List Crumb) (index : Nat) :
    List Node → List Cursor
  | [] => []
  | child :: others =>
    if child.field = some field then boundNode (⟨parent, index⟩ :: trail) child
    else boundField field parent trail (index + 1) others

/-- The identifiers that the named children bind, types and modifiers apart. -/
def boundList (parent : Node) (trail : List Crumb) (index : Nat) : List Node → List Cursor
  | [] => []
  | child :: others =>
    let inner :=
      if child.named ∧ child.kind ≠ .typeClause ∧ child.kind ≠ .accessibilityModifier then
        boundNode (⟨parent, index⟩ :: trail) child
      else []
    inner ++ boundList parent trail (index + 1) others

end

/-- The identifiers that a pattern binds, in document order. -/
def boundIdentifiers (pattern : Cursor) : List Cursor :=
  boundNode pattern.trail pattern.node

end Cursor

end ComponentQueries
