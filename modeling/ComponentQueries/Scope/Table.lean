import ComponentQueries.Scope.Binding
import ComponentQueries.Text.Blank

/-! The table of declarations. It is built in one walk, and a name refers to the
declaration in the innermost enclosing scope that has it. -/
namespace ComponentQueries

namespace SyntaxTree

/-- The scope that owns what a node declares: the nearest enclosing scope, or
the nearest function for a name that is hoisted, and the program if there is
none. -/
def ownerOf (tree : SyntaxTree) (hoisted : Bool) (cursor : Cursor) : Cursor :=
  let owns (scope : Cursor) : Bool :=
    scope.kind == .program || if hoisted then scope.kind.isFunctionScope else scope.kind.isScope
  (cursor.ancestors.find? owns).getD tree.top

def isQuote (c : Char) : Bool :=
  c == '\x27' || c == '"'

def specifierBinding? (tree : SyntaxTree) (source : Option String) (specifier : Cursor) :
    Option Binding :=
  (specifier.child? .name).map fun name =>
    let imported := String.ofList (Text.trim isQuote (tree.textOf name).toList)
    let bound := match specifier.child? .aliasName with
      | some localName => tree.textOf localName
      | none => imported
    ⟨bound, .imported, specifier, source, some imported⟩

/-- The bindings of one part of an import: the default export, the module as a
whole, or names in braces. -/
def importedIn (tree : SyntaxTree) (source : Option String) (part : Cursor) : List Binding :=
  match part.kind with
  | .identifier => [⟨tree.textOf part, .imported, part, source, some "default"⟩]
  | .namespaceImport =>
    (part.namedChildren.filter (·.kind = .identifier)).map fun name =>
      ⟨tree.textOf name, .imported, part, source, some "*"⟩
  | .namedImports =>
    (part.namedChildren.filter (·.kind = .importSpecifier)).filterMap
      (tree.specifierBinding? source)
  | _ => []

def importBindings (tree : SyntaxTree) (statement : Cursor) : List Binding :=
  let source := (statement.child? .source).bind tree.stringValue?
  let clauses := statement.namedChildren.filter (·.kind = .importClause)
  clauses.flatMap fun clause => clause.namedChildren.flatMap (tree.importedIn source)

def requiredModule? (tree : SyntaxTree) (value : Cursor) : Option String := do
  guard (value.kind = .callExpression)
  let callee ← value.child? .function
  guard (callee.kind = .identifier ∧ tree.textOf callee = "require")
  let arguments ← value.child? .arguments
  let argument ← arguments.namedChildren.head?
  tree.stringValue? argument

def requiredProperty? (tree : SyntaxTree) (declarator : Cursor) (source : String)
    (property : Cursor) : Option Binding :=
  match property.kind with
  | .shorthandPattern =>
    let name := tree.textOf property
    some ⟨name, .required, declarator, some source, some name⟩
  | .pairPattern => do
    let key ← property.child? .key
    let value ← property.child? .value
    guard (value.kind = .identifier)
    some ⟨tree.textOf value, .required, declarator, some source, some (tree.textOf key)⟩
  | _ => none

def declaratorBindings (tree : SyntaxTree) (declarator : Cursor) : List Binding :=
  match declarator.child? .name with
  | none => []
  | some name =>
    match name.kind, (declarator.child? .value).bind tree.requiredModule? with
    | .identifier, some source =>
      [⟨tree.textOf name, .required, declarator, some source, none⟩]
    | .identifier, none => [⟨tree.textOf name, .single, declarator, none, none⟩]
    | .objectPattern, some source =>
      name.namedChildren.filterMap (tree.requiredProperty? declarator source)
    | _, _ =>
      name.boundIdentifiers.map fun identifier =>
        ⟨tree.textOf identifier, .pattern, declarator, none, none⟩

/-- The binding of a function or class by its own name. -/
def definitionBindings (tree : SyntaxTree) (kind : BindingKind) (definition : Cursor) :
    List Binding :=
  match definition.child? .name with
  | some name => [⟨tree.textOf name, kind, definition, none, none⟩]
  | none => []

/-- The bindings of the parameters of a function. A single parameter may stand
without parentheses. -/
def parameterBindings (tree : SyntaxTree) (function : Cursor) : List Binding :=
  match (function.child? .parameters).or (function.child? .parameter) with
  | none => []
  | some parameters =>
    parameters.boundIdentifiers.map fun identifier =>
      ⟨tree.textOf identifier, .parameter, identifier, none, none⟩

/-- Tests whether a declarator belongs to a hoisted declaration. -/
def isHoisted (declarator : Cursor) : Bool :=
  declarator.parent?.any (·.kind == .variableDeclaration)

/-- The scope of what a node declares in the scopes around it, and the
bindings. -/
def outerDeclarations (tree : SyntaxTree) (cursor : Cursor) : Cursor × List Binding :=
  match cursor.kind with
  | .importStatement => (tree.top, tree.importBindings cursor)
  | .variableDeclarator =>
    (tree.ownerOf (isHoisted cursor) cursor, tree.declaratorBindings cursor)
  | .functionDeclaration | .generatorFunctionDeclaration =>
    (tree.ownerOf false cursor, tree.definitionBindings .function cursor)
  | .classDeclaration =>
    (tree.ownerOf false cursor, tree.definitionBindings .classDefinition cursor)
  | _ => (tree.top, [])

/-- What a node declares, each with the scope that owns it: names in the scopes
around it, and the parameters of a function in its own. -/
def declarations (tree : SyntaxTree) (cursor : Cursor) : List (Cursor × Binding) :=
  let (owner, outer) := tree.outerDeclarations cursor
  let own := if cursor.kind.isFunctionScope then tree.parameterBindings cursor else []
  outer.map (owner, ·) ++ own.map (cursor, ·)

end SyntaxTree

/-- The declarations of a tree in document order, each under the key of the
scope that owns it. -/
structure ScopeTable where
  program : NodeKey
  entries : List (NodeKey × Binding)

namespace ScopeTable

def ofTree (tree : SyntaxTree) : ScopeTable :=
  let declared := tree.walk.flatMap tree.declarations
  ⟨tree.top.key, declared.map fun (owner, binding) => (owner.key, binding)⟩

/-- The binding of a name in a scope. The first declaration counts. -/
def lookup? (table : ScopeTable) (scope : NodeKey) (name : String) : Option Binding :=
  (table.entries.find? fun entry => entry.1 = scope ∧ entry.2.name = name).map Prod.snd

/-- The binding that a name refers to at a node: the one in the innermost
enclosing scope that has it. -/
def resolve? (table : ScopeTable) (name : String) (cursor : Cursor) : Option Binding :=
  (cursor :: cursor.ancestors).findSome? fun scope =>
    if scope.kind.isScope then table.lookup? scope.key name else none

/-- The binding of a name at the top of the file. -/
def moduleBinding? (table : ScopeTable) (name : String) : Option Binding :=
  table.lookup? table.program name

/-- Tests whether a name at a node comes from a module. -/
def refersToModule (table : ScopeTable) (name : String) (cursor : Cursor) (source : String) :
    Bool :=
  (table.resolve? name cursor).any fun binding =>
    binding.isFromModule && binding.source == some source

/-- The keys of the scopes that own a binding. -/
def scopes (table : ScopeTable) : List NodeKey :=
  (table.entries.map Prod.fst).eraseDups

/-- The bindings of a scope, one for each name. -/
def bindingsOf (table : ScopeTable) (scope : NodeKey) : List Binding :=
  let owned := table.entries.filterMap fun entry =>
    if entry.1 = scope then some entry.2.name else none
  owned.eraseDups.filterMap (table.lookup? scope)

end ScopeTable

end ComponentQueries
