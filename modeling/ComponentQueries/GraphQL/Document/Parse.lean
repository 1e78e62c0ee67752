import ComponentQueries.GraphQL.Document
import ComponentQueries.GraphQL.Token.Scan

/-! The grammar of documents. Nested parts take the number of levels that are left, so
a parser for them recurses on that number and never on the text. -/
namespace ComponentQueries.GraphQL

/-- The tokens that a parser has still to read. The current one stays when
there is no other behind it. -/
structure TokenStream where
  current : Token
  others : List Token

def TokenStream.next (stream : TokenStream) : TokenStream :=
  match stream.others with
  | [] => stream
  | token :: others => ⟨token, others⟩

abbrev Parser (α : Type) := StateT TokenStream (Except SyntaxError) α

namespace Parser

variable {α : Type}

/-- How deeply selection sets, list and object values and list types can be
nested in one another. -/
def nestingLimit : Nat := 200

def peek : Parser Token :=
  return (← get).current

def peekNext : Parser Token :=
  return (← get).next.current

def advance : Parser Unit :=
  modify TokenStream.next

def failAt (token : Token) (cause : Cause) : Parser α :=
  throw ⟨cause, token.start⟩

/-- Fails since a token stands where none like it can. -/
def unexpected (token : Token) : Parser α :=
  failAt token (.unexpectedToken token)

def expect (kind : TokenKind) : Parser Token := do
  let token ← peek
  if token.kind = kind then
    advance
    return token
  else failAt token (.expected (.token kind) token)

def accept (kind : TokenKind) : Parser Bool := do
  if (← peek).kind = kind then
    advance
    return true
  else return false

/-- Tests whether a token is a name with a certain text. -/
def isKeyword (token : Token) (word : String) : Bool :=
  token.kind == .name && token.value == some word

def expectKeyword (word : String) : Parser Unit := do
  let token ← peek
  if isKeyword token word then advance
  else failAt token (.expected (.keyword word) token)

def acceptKeyword (word : String) : Parser Bool := do
  if isKeyword (← peek) word then
    advance
    return true
  else return false

/-- Reads items up to a closing token. An item that reads no token ends the
list as an unexpected one, so the number of tokens left decreases. -/
def itemsUntil (close : TokenKind) (item : Parser α) (stream : TokenStream) :
    Except SyntaxError (List α × TokenStream) :=
  if stream.current.kind = close then .ok ([], stream.next)
  else
    match item stream with
    | .error error => .error error
    | .ok (first, rest) =>
      if rest.others.length < stream.others.length then
        match itemsUntil close item rest with
        | .error error => .error error
        | .ok (others, final) => .ok (first :: others, final)
      else .error ⟨.unexpectedToken rest.current, rest.current.start⟩
termination_by stream.others.length

def enclosed (openKind : TokenKind) (item : Parser α) (close : TokenKind) : Parser (List α) := do
  let _ ← expect openKind
  itemsUntil close item

def someUntil (item : Parser α) (close : TokenKind) : Parser (List α) := do
  let first ← item
  let others ← itemsUntil close item
  return first :: others

def enclosedSome (openKind : TokenKind) (item : Parser α) (close : TokenKind) :
    Parser (List α) := do
  let _ ← expect openKind
  someUntil item close

/-- Reads one or more items between two tokens, or nothing. -/
def optionalSome (openKind : TokenKind) (item : Parser α) (close : TokenKind) :
    Parser (List α) := do
  if ← accept openKind then someUntil item close else return []

/-- Reads items as long as the current token is of a kind. An item that reads
no token ends the list as an unexpected one. -/
def itemsWhile (kind : TokenKind) (item : Parser α) (stream : TokenStream) :
    Except SyntaxError (List α × TokenStream) :=
  if stream.current.kind = kind then
    match item stream with
    | .error error => .error error
    | .ok (first, rest) =>
      if rest.others.length < stream.others.length then
        match itemsWhile kind item rest with
        | .error error => .error error
        | .ok (others, final) => .ok (first :: others, final)
      else .error ⟨.unexpectedToken rest.current, rest.current.start⟩
  else .ok ([], stream)
termination_by stream.others.length

/-- Reads one or more items between which, and perhaps before which, a
delimiter stands. -/
def delimited (delimiter : TokenKind) (item : Parser α) : Parser (List α) := do
  let _ ← accept delimiter
  let first ← item
  let others ← itemsWhile delimiter do
    let _ ← accept delimiter
    item
  return first :: others

def name : Parser String := do
  return (← expect .name).value.getD ""

def description : Parser (Option String) := do
  let token ← peek
  if token.kind = .string ∨ token.kind = .blockString then
    advance
    return token.value
  else return none

def variableName : Parser String := do
  let _ ← expect .dollar
  name

/-- Reads a reference to a type, where `nested` reads the element of a list. -/
def typeWith (nested : Parser TypeRef) : Parser TypeRef := do
  let type ← if ← accept .bracketOpen then
      let element ← nested
      let _ ← expect .bracketClose
      pure (TypeRef.list element)
    else TypeRef.named <$> name
  if ← accept .bang then return .nonNull type else return type

/-- Reads a reference to a type, where `room` nested lists are left. -/
def typeRef : (room : Nat) → Parser TypeRef
  | 0 => typeWith do failAt (← peek) .nestedTooDeeply
  | room + 1 => typeWith (typeRef room)

/-- Reads a variable as a value. A constant value has none. -/
def reference (constant : Bool) : Parser Value := do
  if constant then
    let dollar ← expect .dollar
    let token ← peek
    if token.kind = .name then
      failAt dollar (.variableInConstant (token.value.getD ""))
    else unexpected dollar
  else return .reference (← variableName)

def namedValue : String → Value
  | "true" => .boolean true
  | "false" => .boolean false
  | "null" => .null
  | name => .enum name

def listValue (nested : Parser Value) : Parser Value :=
  return .list (← enclosed .bracketOpen nested .bracketClose)

/-- Reads an object value whose field values `nested` reads. -/
def objectValue (nested : Parser Value) : Parser Value :=
  let field : Parser (String × Value) := do
    let key ← name
    let _ ← expect .colon
    return (key, ← nested)
  return .object (← enclosed .braceOpen field .braceClose)

/-- Reads a value, where `nested` reads the parts of a list or object, unless
none can be nested any more. -/
def valueWith (constant : Bool) (nested : Option (Parser Value)) : Parser Value := do
  let token ← peek
  let text := token.value.getD ""
  match token.kind, nested with
  | .bracketOpen, some nested => listValue nested
  | .braceOpen, some nested => objectValue nested
  | .bracketOpen, none | .braceOpen, none => failAt token .nestedTooDeeply
  | .int, _ => advance; return .int text
  | .float, _ => advance; return .float text
  | .string, _ => advance; return .string text false
  | .blockString, _ => advance; return .string text true
  | .name, _ => advance; return namedValue text
  | .dollar, _ => reference constant
  | _, _ => unexpected token

/-- Reads a value, where `room` nested values are left. -/
def value (constant : Bool) : (room : Nat) → Parser Value
  | 0 => valueWith constant none
  | room + 1 => valueWith constant (some (value constant room))

def arguments (constant : Bool) (room : Nat) : Parser (List Argument) :=
  let argument : Parser Argument := do
    let key ← name
    let _ ← expect .colon
    return ⟨key, ← value constant room⟩
  optionalSome .parenOpen argument .parenClose

def directives (constant : Bool) (room : Nat) : Parser (List Directive) :=
  itemsWhile .atSign do
    let _ ← expect .atSign
    return ⟨← name, ← arguments constant room⟩

/-- Reads the name of a fragment, which is not the word `on`. -/
def fragmentName : Parser String := do
  let token ← peek
  if token.value = some "on" then unexpected token else name

/-- Reads what follows the name of a field, where `nested` reads a selection
set. -/
def fieldSelection (room : Nat) (nested : Parser (List Selection)) : Parser Selection := do
  let first ← name
  let second ← if ← accept .colon then some <$> name else pure none
  let arguments ← arguments false room
  let directives ← directives false room
  let selections ← if (← peek).kind = .braceOpen then some <$> nested else pure none
  match second with
  | some name => return .field (some first) name arguments directives selections
  | none => return .field none first arguments directives selections

def fragmentSelection (room : Nat) (nested : Parser (List Selection)) : Parser Selection := do
  let _ ← expect .spread
  let hasCondition ← acceptKeyword "on"
  if !hasCondition ∧ (← peek).kind = .name then
    return .spread (← fragmentName) (← directives false room)
  else
    let condition ← if hasCondition then some <$> name else pure none
    return .inline condition (← directives false room) (← nested)

def selection (room : Nat) (nested : Parser (List Selection)) : Parser Selection := do
  if (← peek).kind = .spread then fragmentSelection room nested
  else fieldSelection room nested

/-- Reads a selection set, where `room` nested ones are left. -/
def selectionSet : (room : Nat) → Parser (List Selection)
  | 0 => do failAt (← peek) .nestedTooDeeply
  | room + 1 => enclosed .braceOpen (selection room (selectionSet room)) .braceClose

def defaultValue : Parser (Option Value) := do
  if ← accept .equals then some <$> value true nestingLimit else return none

def constantDirectives : Parser (List Directive) :=
  directives true nestingLimit

def variableDefinition : Parser VariableDefinition := do
  let description ← description
  let name ← variableName
  let _ ← expect .colon
  return ⟨description, name, ← typeRef nestingLimit, ← defaultValue, ← constantDirectives⟩

def operationType : Parser OperationType := do
  let token ← expect .name
  match OperationType.ofName? (token.value.getD "") with
  | some type => return type
  | none => unexpected token

def operation : Parser Definition := do
  if (← peek).kind = .braceOpen then
    return ⟨.operation, none, none, .operation .query [] [] (← selectionSet nestingLimit)⟩
  else
    let description ← description
    let type ← operationType
    let name ← if (← peek).kind = .name then some <$> name else pure none
    let inputs ← optionalSome .parenOpen variableDefinition .parenClose
    let directives ← directives false nestingLimit
    let selections ← selectionSet nestingLimit
    return ⟨.operation, description, name, .operation type inputs directives selections⟩

def fragment : Parser Definition := do
  let description ← description
  expectKeyword "fragment"
  let name ← fragmentName
  expectKeyword "on"
  let condition ← Parser.name
  let directives ← directives false nestingLimit
  let selections ← selectionSet nestingLimit
  return ⟨.fragment, description, some name, .fragment condition directives selections⟩

/-- Reads an operation type of a schema with its object type. -/
def schemaOperation : Parser (OperationType × String) := do
  let type ← operationType
  let _ ← expect .colon
  return (type, ← name)

def inputDefinition : Parser InputDefinition := do
  let description ← description
  let name ← name
  let _ ← expect .colon
  return ⟨description, name, ← typeRef nestingLimit, ← defaultValue, ← constantDirectives⟩

/-- Reads the argument definitions of a field or a directive. -/
def argumentDefinitions : Parser (List InputDefinition) :=
  optionalSome .parenOpen inputDefinition .parenClose

def fieldDefinition : Parser FieldDefinition := do
  let description ← description
  let name ← name
  let arguments ← argumentDefinitions
  let _ ← expect .colon
  return ⟨description, name, arguments, ← typeRef nestingLimit, ← constantDirectives⟩

def interfaces : Parser (List String) := do
  if ← acceptKeyword "implements" then delimited .ampersand name else return []

def enumValueDefinition : Parser EnumValueDefinition := do
  let description ← description
  let token ← peek
  if token.value = some "true" ∨ token.value = some "false" ∨ token.value = some "null" then
    failAt token (.reservedEnumValue token)
  else return ⟨description, ← name, ← constantDirectives⟩

def directiveLocations : List String :=
  ["QUERY", "MUTATION", "SUBSCRIPTION", "FIELD", "FRAGMENT_DEFINITION", "FRAGMENT_SPREAD",
   "INLINE_FRAGMENT", "VARIABLE_DEFINITION", "FRAGMENT_VARIABLE_DEFINITION", "SCHEMA", "SCALAR",
   "OBJECT", "FIELD_DEFINITION", "ARGUMENT_DEFINITION", "INTERFACE", "UNION", "ENUM",
   "ENUM_VALUE", "INPUT_OBJECT", "INPUT_FIELD_DEFINITION", "DIRECTIVE_DEFINITION"]

def directiveLocation : Parser String := do
  let token ← peek
  let location ← name
  if directiveLocations.contains location then return location else unexpected token

/-- Reads the object types of a schema, which an extension can leave out. -/
def schemaOperations (extending : Bool) : Parser (List (OperationType × String)) :=
  if extending then optionalSome .braceOpen schemaOperation .braceClose
  else enclosedSome .braceOpen schemaOperation .braceClose

/-- Reads the arguments, directives and places of a directive definition. An
extension of a directive has directives only. -/
def directiveContent (extending : Bool) : Parser Content := do
  if extending then return .directive [] (← constantDirectives) false []
  else
    let arguments ← argumentDefinitions
    let directives ← constantDirectives
    let repeatable ← acceptKeyword "repeatable"
    expectKeyword "on"
    return .directive arguments directives repeatable (← delimited .pipe directiveLocation)

/-- Reads what follows the name of a definition or extension of a part of the
type system. -/
def systemContent (extending : Bool) : SystemPart → Parser Content
  | .schema => return .schema (← constantDirectives) (← schemaOperations extending)
  | .scalar => return .scalar (← constantDirectives)
  | .object | .interface => do
    let interfaces ← interfaces
    let directives ← constantDirectives
    return .fields interfaces directives (← optionalSome .braceOpen fieldDefinition .braceClose)
  | .union => do
    let directives ← constantDirectives
    let members ← if ← accept .equals then delimited .pipe name else pure []
    return .union directives members
  | .enum =>
    return .enum (← constantDirectives)
      (← optionalSome .braceOpen enumValueDefinition .braceClose)
  | .inputObject =>
    return .inputObject (← constantDirectives)
      (← optionalSome .braceOpen inputDefinition .braceClose)
  | .directive => directiveContent extending

/-- Reads the name of a part of the type system. A schema has none, and the
name of a directive follows an at sign. -/
def systemName : SystemPart → Parser (Option String)
  | .schema => return none
  | .directive => do
    let _ ← expect .atSign
    some <$> name
  | _ => some <$> name

def addsNothing : Content → Bool
  | .schema directives operations => directives.isEmpty && operations.isEmpty
  | .scalar directives => directives.isEmpty
  | .fields interfaces directives fields =>
    interfaces.isEmpty && directives.isEmpty && fields.isEmpty
  | .union directives members => directives.isEmpty && members.isEmpty
  | .enum directives values => directives.isEmpty && values.isEmpty
  | .inputObject directives fields => directives.isEmpty && fields.isEmpty
  | .directive _ directives _ _ => directives.isEmpty
  | .operation .. | .fragment .. => false

def systemDefinition (part : SystemPart) : Parser Definition := do
  let description ← description
  advance
  let name ← systemName part
  return ⟨.definition part, description, name, ← systemContent false part⟩

/-- Reads the extension of a part of the type system, which has to add
something. -/
def systemExtension : Parser Definition := do
  let keyword ← peekNext
  match if keyword.kind = .name then SystemPart.ofKeyword? (keyword.value.getD "") else none with
  | none => unexpected keyword
  | some part =>
    advance
    advance
    let name ← systemName part
    let content ← systemContent true part
    if addsNothing content then unexpected (← peek)
    else return ⟨.extension part, none, name, content⟩

def keywordDefinition (described : Bool) (keyword : Token) : Parser Definition := do
  let word := keyword.value.getD ""
  match SystemPart.ofKeyword? word, OperationType.ofName? word with
  | some part, _ => systemDefinition part
  | none, some _ => operation
  | none, none =>
    if word = "fragment" then fragment
    else if described then failAt (← peek) .strayDescription
    else if word = "extend" then systemExtension
    else unexpected keyword

def definition : Parser Definition := do
  let token ← peek
  if token.kind = .braceOpen then operation
  else
    let described := token.kind = .string ∨ token.kind = .blockString
    let keyword ← if described then peekNext else pure token
    if described ∧ keyword.kind = .braceOpen then failAt token .describedShorthand
    else if keyword.kind = .name then keywordDefinition described keyword
    else unexpected keyword

def document : Parser Document := do
  return ⟨← someUntil definition .endOfText⟩

end Parser

def Document.parse (text : List Char) : Except SyntaxError Document :=
  match scan text with
  | .error error => .error error
  | .ok [] => .ok ⟨[]⟩
  | .ok (first :: others) => (Parser.document.run ⟨first, others⟩).map Prod.fst

end ComponentQueries.GraphQL
