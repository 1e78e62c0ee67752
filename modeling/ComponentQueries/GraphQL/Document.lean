/-! Abstract syntax of GraphQL documents, with operations, fragments and definitions of
the type system. -/
namespace ComponentQueries.GraphQL

inductive TypeRef where
  | named (name : String)
  | list (element : TypeRef)
  | nonNull (type : TypeRef)

inductive Value where
  | reference (name : String)
  | int (digits : String)
  | float (digits : String)
  | string (value : String) (block : Bool)
  | boolean (value : Bool)
  | null
  | enum (name : String)
  | list (elements : List Value)
  | object (fields : List (String × Value))

/-- A named argument of a field or a directive. -/
structure Argument where
  name : String
  value : Value

/-- A directive on some part of a document. -/
structure Directive where
  name : String
  arguments : List Argument

inductive Selection where
  | field (label : Option String) (name : String) (arguments : List Argument)
      (directives : List Directive) (selections : Option (List Selection))
  | spread (name : String) (directives : List Directive)
  | inline (condition : Option String) (directives : List Directive)
      (selections : List Selection)

inductive OperationType where
  | query | mutation | subscription
  deriving DecidableEq, Repr

def OperationType.ofName? : String → Option OperationType
  | "query" => some query
  | "mutation" => some mutation
  | "subscription" => some subscription
  | _ => none

structure VariableDefinition where
  description : Option String
  name : String
  type : TypeRef
  default : Option Value
  directives : List Directive

/-- An argument of a field or directive definition, or a field of an input
object. -/
structure InputDefinition where
  description : Option String
  name : String
  type : TypeRef
  default : Option Value
  directives : List Directive

/-- A field of an object or interface type. -/
structure FieldDefinition where
  description : Option String
  name : String
  arguments : List InputDefinition
  type : TypeRef
  directives : List Directive

structure EnumValueDefinition where
  description : Option String
  name : String
  directives : List Directive

/-- The parts of a type system that a document can define or extend. -/
inductive SystemPart where
  | schema | scalar | object | interface | union | enum | inputObject | directive
  deriving DecidableEq, Repr

def SystemPart.ofKeyword? : String → Option SystemPart
  | "schema" => some schema
  | "scalar" => some scalar
  | "type" => some object
  | "interface" => some interface
  | "union" => some union
  | "enum" => some enum
  | "input" => some inputObject
  | "directive" => some directive
  | _ => none

/-- The kinds of definitions of a document. -/
inductive DefinitionKind where
  | operation
  | fragment
  | definition (part : SystemPart)
  | extension (part : SystemPart)
  deriving DecidableEq, Repr

/-- The kinds whose definitions have a place for a name. -/
def DefinitionKind.isNamed : DefinitionKind → Bool
  | definition .schema | extension .schema => false
  | _ => true

/-- What a definition says apart from its name and description. -/
inductive Content where
  | operation (type : OperationType) (inputs : List VariableDefinition)
      (directives : List Directive) (selections : List Selection)
  | fragment (condition : String) (directives : List Directive) (selections : List Selection)
  | schema (directives : List Directive) (operations : List (OperationType × String))
  | scalar (directives : List Directive)
  | fields (interfaces : List String) (directives : List Directive)
      (fields : List FieldDefinition)
  | union (directives : List Directive) (members : List String)
  | enum (directives : List Directive) (values : List EnumValueDefinition)
  | inputObject (directives : List Directive) (fields : List InputDefinition)
  | directive (arguments : List InputDefinition) (directives : List Directive)
      (repeatable : Bool) (locations : List String)

structure Definition where
  kind : DefinitionKind
  description : Option String
  name : Option String
  content : Content

structure Document where
  definitions : List Definition

end ComponentQueries.GraphQL
