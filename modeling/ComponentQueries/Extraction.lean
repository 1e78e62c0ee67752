import ComponentQueries.Export
import ComponentQueries.Scope.Alias
import ComponentQueries.Tag

/-! Queries are found in three passes: attributes of elements, arguments of hook calls,
and exports. A template that several passes reach counts for the first. -/
namespace ComponentQueries

inductive QueryType where
  | page | static | config
  deriving DecidableEq, Repr

def QueryType.label : QueryType → String
  | page => "page"
  | static => "static"
  | config => "config"

/-- A query that was found in a component file. -/
structure Fragment where
  path : String
  name : String
  document : GraphQL.Document
  text : String
  hash : String
  templateRange : Range
  locationKey : Int × Int
  queryType : QueryType
  isHook : Bool
  isAutoNamed : Bool

/-- A variable that is used as a query and holds none. -/
structure UnresolvedVariable where
  name : String
  path : String
  usage : String
  deriving DecidableEq, Repr

def UnresolvedVariable.message (warning : UnresolvedVariable) : String :=
  "We were unable to find the declaration of variable \"" ++ warning.name ++
    "\", which you passed as the \"query\" prop into the " ++ warning.usage ++
    " declaration in \"" ++ warning.path ++ "\".\n\n" ++
    "Perhaps the variable name has a typo?\n\n" ++
    "Also note that queries defined in files other than the file where the " ++
    warning.usage ++ " is defined are not supported. If you are importing the query, move it " ++
    "into \"" ++ warning.path ++ "\"."

/-- The ways to a template: the query of an element, the argument of a hook, or
an export. -/
inductive Route where
  | element | hook | exported
  deriving DecidableEq, Repr

/-- A tagged template and the way to it. -/
structure Visit where
  template : Cursor
  route : Route

/-- What is found in the place of a query: a template, or a variable that holds
none. -/
inductive Finding where
  | template (visit : Visit)
  | unresolved (warning : UnresolvedVariable)

def Finding.visit? : Finding → Option Visit
  | template visit => some visit
  | unresolved _ => none

def Finding.warning? : Finding → Option UnresolvedVariable
  | template _ => none
  | unresolved warning => some warning

namespace Source

def variableTemplate? (source : Source) (identifier : Cursor) : Option Cursor := do
  let binding ← source.table.resolve? (source.tree.textOf identifier) identifier
  guard (binding.kind = .single)
  let value ← binding.value?
  guard value.isTaggedTemplate
  some value

/-- What is found when an expression is used as a query: the template itself or
that of a variable. A variable with the name of the tag or the hook is passed
over, and so is any other expression. -/
def target? (source : Source) (path usage : String) (route : Route) (expression : Cursor) :
    Option Finding :=
  if expression.isTaggedTemplate then some (.template ⟨expression, route⟩)
  else if expression.kind = .identifier then
    let name := source.tree.textOf expression
    if name = source.settings.tagName ∨ name = source.settings.hookName then none
    else match source.variableTemplate? expression with
      | some template => some (.template ⟨template, route⟩)
      | none => some (.unresolved ⟨name, path, usage⟩)
  else none

/-- Tests whether a node begins an element that takes a query. -/
def isQueryElement (source : Source) (cursor : Cursor) : Bool :=
  (cursor.kind == .jsxOpeningElement || cursor.kind == .jsxSelfClosingElement) &&
    (cursor.child? .name).any (source.tree.textOf · == source.settings.elementName)

def queryAttribute? (source : Source) (entry : Cursor) : Option Cursor :=
  match entry.kind, entry.namedChildren with
  | .jsxAttribute, name :: second :: others =>
    let value := (second :: others).getLastD second
    if source.tree.textOf name = "query" ∧ value.kind = .jsxExpression then
      value.firstExpression?
    else none
  | _, _ => none

/-- What is found in the query attributes of elements, in document order. -/
def elementFindings (source : Source) (path : String) : List Finding :=
  let usage := "<" ++ source.settings.elementName ++ ">"
  (source.tree.walk.filter source.isQueryElement).flatMap fun element =>
    (element.namedChildren.filterMap source.queryAttribute?).filterMap
      (source.target? path usage .element)

def isHook (source : Source) (callee : Cursor) : Bool :=
  let hook := source.settings.hookName
  let package := source.settings.packageName
  match callee.kind with
  | .identifier =>
    source.tree.textOf callee == hook && source.table.refersToModule hook callee package
  | .memberExpression =>
    (source.member? callee).any fun (object, property) =>
      property == hook && source.table.refersToModule object callee package
  | _ => false

def isHookCall (source : Source) (cursor : Cursor) : Bool :=
  cursor.kind == .callExpression && !cursor.isTaggedTemplate &&
    (cursor.child? .function).any source.isHook

/-- What is found in the first arguments of hook calls, in document order. -/
def hookFindings (source : Source) (path : String) : List Finding :=
  let argument? (call : Cursor) : Option Cursor :=
    (call.child? .arguments).bind Cursor.firstExpression?
  ((source.tree.walk.filter source.isHookCall).filterMap argument?).filterMap
    (source.target? path source.settings.hookName .hook)

/-- The tagged templates in a subtree, in document order. -/
def templatesIn (cursor : Cursor) : List Cursor :=
  cursor.walk.filter Cursor.isTaggedTemplate

/-- The declaration that a name in braces of an export leads to. -/
def exportedBinding? (source : Source) (specifier : Cursor) : Option Binding :=
  (specifier.child? .name).bind fun name =>
    source.table.followAliases source.tree
      (source.table.moduleBinding? (source.tree.textOf name))

/-- The templates that an export statement leads to: those in it, and those in
the declarations of the names in its braces. -/
def exportTemplates (source : Source) (statement : Cursor) : List Cursor :=
  templatesIn statement ++
    (statement.exportSpecifiers.filterMap source.exportedBinding?).flatMap fun binding =>
      templatesIn binding.site

def exportVisits (source : Source) : List Visit :=
  source.tree.namedExports.flatMap fun statement =>
    (source.exportTemplates statement).map fun template => ⟨template, .exported⟩

def findings (source : Source) (path : String) : List Finding :=
  let elements := if source.settings.staticQueryElements then source.elementFindings path else []
  elements ++ source.hookFindings path

/-- The templates in the order in which they are read: those of elements, of
hook calls and of exports. One template may come up several times. -/
def visits (source : Source) (path : String) : List Visit :=
  (source.findings path).filterMap Finding.visit? ++ source.exportVisits

def enclosingExport? (cursor : Cursor) : Option Cursor :=
  cursor.ancestors.find? (·.kind = .exportStatement)

/-- The purpose of a query by the way to its template. An export that configures
a page has to be asynchronous. -/
def queryTypeOf (source : Source) (visit : Visit) : Except Fault QueryType :=
  match visit.route with
  | .element | .hook => .ok .static
  | .exported =>
    match enclosingExport? visit.template with
    | none => .ok .page
    | some statement =>
      if source.tree.exportedName? statement = some configExport then
        if SyntaxTree.isAsyncExport statement then .ok .config
        else
          let start := statement.node.start
          .error (.exportNotAsync configExport (Text.rangeBetween source.tree.text start start))
      else .ok .page

def fragmentOf (path : String) (route : Route) (queryType : QueryType) (tag : Tag) : Fragment :=
  let named := NamedDocument.ofDocument tag.document queryType.label path tag.hash
  { path
    name := named.name
    document := named.document
    text := tag.text
    hash := tag.hash
    templateRange := tag.templateRange
    locationKey := tag.locationKey
    queryType
    isHook := route = .hook
    isAutoNamed := named.autoNamed }

def readVisit (source : Source) (path : String) (visit : Visit) :
    Except Fault (Option Fragment) :=
  match source.readTag visit.template with
  | .error fault => .error fault
  | .ok none => .ok none
  | .ok (some tag) =>
    match source.queryTypeOf visit with
    | .error fault => .error fault
    | .ok queryType => .ok (some (fragmentOf path visit.route queryType tag))

/-- Reads templates one after another, up to the first fault. -/
def readVisits (source : Source) (path : String) : List Visit → Except Fault (List Fragment)
  | [] => .ok []
  | visit :: others =>
    match source.readVisit path visit with
    | .error fault => .error fault
    | .ok fragment? => (source.readVisits path others).map (fragment?.toList ++ ·)

end Source

/-- The fragments whose keys are new, where `seen` holds the keys of earlier
ones. -/
def keepFirst (seen : List (Int × Int)) : List Fragment → List Fragment
  | [] => []
  | fragment :: others =>
    if seen.contains fragment.locationKey then keepFirst seen others
    else fragment :: keepFirst (fragment.locationKey :: seen) others

structure Extraction where
  fragments : List Fragment
  warnings : List UnresolvedVariable

/-- Finds the queries of a component file. A template that comes up several
times counts as it does the first time. -/
def Extraction.ofTree (tree : SyntaxTree) (path : String) (settings : Settings) :
    Except Fault Extraction :=
  let source := Source.ofTree tree settings
  match source.readVisits path (source.visits path) with
  | .error fault => .error fault
  | .ok fragments =>
    .ok ⟨keepFirst [] fragments, (source.findings path).filterMap Finding.warning?⟩

end ComponentQueries
