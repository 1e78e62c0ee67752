import ComponentQueries.SyntaxTree

/-! The named exports of a component file, and the capabilities that they give it. -/
namespace ComponentQueries

namespace Cursor

/-- Export statements without the keyword for the default export. -/
def isNamedExport (cursor : Cursor) : Bool :=
  cursor.kind == .exportStatement && !cursor.children.any (·.kind == .defaultKeyword)

def exportSpecifiers (statement : Cursor) : List Cursor :=
  let clauses := statement.namedChildren.filter (·.kind = .exportClause)
  clauses.flatMap fun clause => clause.namedChildren.filter (·.kind = .exportSpecifier)

def firstDeclarator? (declaration : Cursor) : Option Cursor :=
  declaration.namedChildren.find? (·.kind = .variableDeclarator)

def isAsync (cursor : Cursor) : Bool :=
  cursor.children.any (·.kind == .asyncKeyword)

def isFunctionValue (cursor : Cursor) : Bool :=
  cursor.kind == .arrowFunction || cursor.kind == .function || cursor.kind == .functionExpression

end Cursor

namespace SyntaxTree

def nameText? (tree : SyntaxTree) (cursor : Cursor) : Option String :=
  (cursor.child? .name).map tree.textOf

/-- The name of the first declarator, if that is no pattern. -/
def declaratorName? (tree : SyntaxTree) (declaration : Cursor) : Option String := do
  let declarator ← declaration.firstDeclarator?
  let name ← declarator.child? .name
  guard (name.kind = .identifier)
  some (tree.textOf name)

def exportedName? (tree : SyntaxTree) (statement : Cursor) : Option String :=
  match statement.child? .declaration with
  | none => none
  | some declaration =>
    match declaration.kind with
    | .functionDeclaration | .generatorFunctionDeclaration => tree.nameText? declaration
    | .lexicalDeclaration | .variableDeclaration => tree.declaratorName? declaration
    | _ => none

/-- Tests whether an export statement declares an asynchronous function. -/
def isAsyncExport (statement : Cursor) : Bool :=
  match statement.child? .declaration with
  | none => false
  | some declaration =>
    if declaration.kind = .functionDeclaration then declaration.isAsync
    else (declaration.firstDeclarator?.bind (·.child? .value)).any fun value =>
      value.isFunctionValue && value.isAsync

/-- The named exports at the top of a file, exports from another module apart. -/
def namedExports (tree : SyntaxTree) : List Cursor :=
  tree.top.namedChildren.filter fun statement =>
    statement.isNamedExport && (statement.child? .source).isNone

/-- The name under which a name in braces is exported. -/
def specifierName? (tree : SyntaxTree) (specifier : Cursor) : Option String :=
  ((specifier.child? .aliasName).or (specifier.child? .name)).map tree.textOf

/-- The name that an export statement declares, generators apart. -/
def declaredApi? (tree : SyntaxTree) (statement : Cursor) : Option String :=
  match statement.child? .declaration with
  | none => none
  | some declaration =>
    match declaration.kind with
    | .functionDeclaration => tree.nameText? declaration
    | .lexicalDeclaration | .variableDeclaration => tree.declaratorName? declaration
    | _ => none

/-- Tests whether a file has a named export, its own or from another module. -/
def exportsName (tree : SyntaxTree) (name : String) : Bool :=
  (tree.top.namedChildren.filter Cursor.isNamedExport).any fun statement =>
    statement.exportSpecifiers.any (tree.specifierName? · == some name) ||
      tree.declaredApi? statement == some name

end SyntaxTree

/-- The capabilities that a component has by its exports. -/
structure Features where
  serverData : Bool
  config : Bool
  head : Bool
  deriving DecidableEq, Repr

def Features.none : Features := ⟨false, false, false⟩

def configExport : String := "config"

def Features.ofTree (tree : SyntaxTree) : Features :=
  ⟨tree.exportsName "getServerData", tree.exportsName configExport, tree.exportsName "Head"⟩

end ComponentQueries
