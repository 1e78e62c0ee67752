import ComponentQueries.Fault
import ComponentQueries.GraphQL.Document.Parse
import ComponentQueries.GraphQL.Minify
import ComponentQueries.Naming
import ComponentQueries.Scope.Table
import ComponentQueries.Settings

/-! Tagged templates that hold a query. A tag counts by its declaration, whatever its
name in the file is. -/
namespace ComponentQueries

def Cursor.isTaggedTemplate (cursor : Cursor) : Bool :=
  cursor.kind == .callExpression && (cursor.child? .arguments).any (·.kind == .templateString)

/-- Whose tag a template has: that of queries, that of queries without a
declaration, or another. -/
inductive TagOrigin where
  | query | ambient | other
  deriving DecidableEq, Repr

/-- What extraction looks at in a file. -/
structure Source where
  tree : SyntaxTree
  table : ScopeTable
  settings : Settings

def Source.ofTree (tree : SyntaxTree) (settings : Settings) : Source :=
  ⟨tree, ScopeTable.ofTree tree, settings⟩

namespace Source

/-- The origin of a tag that is a plain name. -/
def nameOrigin (source : Source) (tag : Cursor) : TagOrigin :=
  let name := source.tree.textOf tag
  match source.table.resolve? name tag with
  | none => if name = source.settings.tagName then .ambient else .other
  | some binding =>
    if binding.isFromModule ∧ binding.source = some source.settings.packageName ∧
        binding.imported = some source.settings.tagName then .query
    else .other

/-- Bindings of a module as a whole. -/
def isWholeModule (binding : Binding) : Bool :=
  (binding.kind == .imported && binding.imported == some "*") ||
    (binding.kind == .required && binding.imported == none)

/-- The name of an object and the text of its property, if the object is a
plain name. -/
def member? (source : Source) (expression : Cursor) : Option (String × String) := do
  let object ← expression.child? .object
  let property ← expression.child? .property
  guard (object.kind = .identifier)
  some (source.tree.textOf object, source.tree.textOf property)

def memberOrigin (source : Source) (tag : Cursor) : TagOrigin :=
  match source.member? tag with
  | none => .other
  | some (object, property) =>
    match source.table.resolve? object tag with
    | none => .other
    | some binding =>
      if property = source.settings.tagName ∧
          binding.source = some source.settings.packageName ∧ isWholeModule binding then .query
      else .other

def tagOrigin (source : Source) (tag : Cursor) : TagOrigin :=
  match tag.kind with
  | .identifier => source.nameOrigin tag
  | .memberExpression => source.memberOrigin tag
  | _ => .other

end Source

/-- A query in a tagged template. Its key is the offset of the template and that
of the document in its text. -/
structure Tag where
  document : GraphQL.Document
  text : String
  hash : String
  templateRange : Range
  locationKey : Int × Int

namespace Source

def templateBody (source : Source) (template : Cursor) : List Char :=
  Text.slice source.tree.text (template.node.start + 1) (template.node.stop - 1)

/-- The place of the text between the delimiters of a template. -/
def templateRange (source : Source) (template : Cursor) : Range :=
  Text.rangeBetween source.tree.text (template.node.start + 1) (template.node.stop - 1)

/-- The first expression that is put into a template. -/
def substitution? (template : Cursor) : Option Cursor :=
  template.namedChildren.find? (·.kind = .templateSubstitution)

/-- The minified text and the document of a query. A text without any token is
an empty query. -/
def readBody (body : List Char) (range : Range) : Except Fault (String × GraphQL.Document) :=
  let faultOf (error : GraphQL.SyntaxError) : Fault :=
    .fragmentSyntax (String.ofList body) (.ofSyntaxError body error) range
  match GraphQL.minify body with
  | .error error => .error (faultOf error)
  | .ok [] => .error (.emptyFragment (some range))
  | .ok stripped =>
    match GraphQL.Document.parse body with
    | .error error => .error (faultOf error)
    | .ok document => .ok (String.ofList stripped, document)

/-- Reads the query of a template whose tag is that of queries. -/
def readTemplate (source : Source) (call template : Cursor) : Except Fault Tag :=
  match substitution? template with
  | some substitution => .error (.interpolation (source.tree.rangeOf substitution.node))
  | none =>
    let range := source.templateRange template
    match readBody (source.templateBody template) range with
    | .error fault => .error fault
    | .ok (text, document) =>
      let start := Text.positionAt source.tree.text call.node.start
      .ok ⟨document, text, fragmentHash text, range, (start.offset, 0)⟩

/-- Reads the query of a tagged template. A template with another tag has none,
and a tag of queries has to be declared. -/
def readTag (source : Source) (call : Cursor) : Except Fault (Option Tag) :=
  if call.isTaggedTemplate then
    match call.child? .function, call.child? .arguments with
    | some tag, some template =>
      match source.tagOrigin tag with
      | .other => .ok none
      | .ambient => .error (.ambientTag source.tree.path)
      | .query => (source.readTemplate call template).map some
    | _, _ => .ok none
  else .ok none

end Source

end ComponentQueries
