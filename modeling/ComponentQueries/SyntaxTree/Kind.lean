/-! Kinds of nodes, and the roles that nodes play in their parents. -/
namespace ComponentQueries

/-- The kinds of syntax nodes. Those that extraction tells apart have a name
here; any other goes by its label in the grammar. A token without a kind of its
own, such as a keyword, has its text as label. -/
inductive Kind where
  | program | identifier | comment | error | callExpression | memberExpression | templateString
  | templateSubstitution | string | importStatement | importClause | namespaceImport
  | namedImports | importSpecifier | exportStatement | exportClause | exportSpecifier
  | defaultKeyword | asyncKeyword | variableDeclarator | variableDeclaration | lexicalDeclaration
  | functionDeclaration | generatorFunctionDeclaration | classDeclaration | arrowFunction
  | function | functionExpression | generatorFunction | methodDefinition | statementBlock
  | forStatement | forInStatement | classBody | switchBody | objectPattern | arrayPattern
  | restPattern | formalParameters | shorthandPattern | pairPattern | assignmentPattern
  | objectAssignmentPattern | requiredParameter | optionalParameter | typeClause
  | accessibilityModifier | jsxOpeningElement | jsxSelfClosingElement | jsxAttribute
  | jsxExpression
  | other (label : String)
  deriving DecidableEq, Repr

namespace Kind

def label : Kind → String
  | program => "program"
  | identifier => "identifier"
  | comment => "comment"
  | error => "ERROR"
  | callExpression => "call_expression"
  | memberExpression => "member_expression"
  | templateString => "template_string"
  | templateSubstitution => "template_substitution"
  | string => "string"
  | importStatement => "import_statement"
  | importClause => "import_clause"
  | namespaceImport => "namespace_import"
  | namedImports => "named_imports"
  | importSpecifier => "import_specifier"
  | exportStatement => "export_statement"
  | exportClause => "export_clause"
  | exportSpecifier => "export_specifier"
  | defaultKeyword => "default"
  | asyncKeyword => "async"
  | variableDeclarator => "variable_declarator"
  | variableDeclaration => "variable_declaration"
  | lexicalDeclaration => "lexical_declaration"
  | functionDeclaration => "function_declaration"
  | generatorFunctionDeclaration => "generator_function_declaration"
  | classDeclaration => "class_declaration"
  | arrowFunction => "arrow_function"
  | function => "function"
  | functionExpression => "function_expression"
  | generatorFunction => "generator_function"
  | methodDefinition => "method_definition"
  | statementBlock => "statement_block"
  | forStatement => "for_statement"
  | forInStatement => "for_in_statement"
  | classBody => "class_body"
  | switchBody => "switch_body"
  | objectPattern => "object_pattern"
  | arrayPattern => "array_pattern"
  | restPattern => "rest_pattern"
  | formalParameters => "formal_parameters"
  | shorthandPattern => "shorthand_property_identifier_pattern"
  | pairPattern => "pair_pattern"
  | assignmentPattern => "assignment_pattern"
  | objectAssignmentPattern => "object_assignment_pattern"
  | requiredParameter => "required_parameter"
  | optionalParameter => "optional_parameter"
  | typeClause => "type_annotation"
  | accessibilityModifier => "accessibility_modifier"
  | jsxOpeningElement => "jsx_opening_element"
  | jsxSelfClosingElement => "jsx_self_closing_element"
  | jsxAttribute => "jsx_attribute"
  | jsxExpression => "jsx_expression"
  | other label => label

def known : List Kind :=
  [program, identifier, comment, error, callExpression, memberExpression, templateString,
   templateSubstitution, string, importStatement, importClause, namespaceImport, namedImports,
   importSpecifier, exportStatement, exportClause, exportSpecifier, defaultKeyword, asyncKeyword,
   variableDeclarator, variableDeclaration, lexicalDeclaration, functionDeclaration,
   generatorFunctionDeclaration, classDeclaration, arrowFunction, function, functionExpression,
   generatorFunction, methodDefinition, statementBlock, forStatement, forInStatement, classBody,
   switchBody, objectPattern, arrayPattern, restPattern, formalParameters, shorthandPattern,
   pairPattern, assignmentPattern, objectAssignmentPattern, requiredParameter, optionalParameter,
   typeClause, accessibilityModifier, jsxOpeningElement, jsxSelfClosingElement, jsxAttribute,
   jsxExpression]

def ofLabel (label : String) : Kind :=
  (known.find? fun kind => kind.label == label).getD (other label)

end Kind

/-- The roles that a node can play in its parent. Those that extraction looks
at have a name here. -/
inductive Field where
  | name | value | source | aliasName | declaration | arguments | function | parameters
  | parameter | left | pattern | key | object | property
  | other (label : String)
  deriving DecidableEq, Repr

namespace Field

def label : Field → String
  | name => "name"
  | value => "value"
  | source => "source"
  | aliasName => "alias"
  | declaration => "declaration"
  | arguments => "arguments"
  | function => "function"
  | parameters => "parameters"
  | parameter => "parameter"
  | left => "left"
  | pattern => "pattern"
  | key => "key"
  | object => "object"
  | property => "property"
  | other label => label

def known : List Field :=
  [name, value, source, aliasName, declaration, arguments, function, parameters, parameter, left,
   pattern, key, object, property]

def ofLabel (label : String) : Field :=
  (known.find? fun field => field.label == label).getD (other label)

end Field

end ComponentQueries
