import ComponentQueries.Command.Literal.Clauses
import ComponentQueries.Command.Literal.Formatted

/-! The rules of expressions. Each has rules for mistakes beside it, which describe what is
wrong with a text that is no expression. -/
namespace ComponentQueries.Literal

open ComponentQueries.Literal.Parser

def chain (operand : Parser Expression)
    (operators : List (Parser Unit × (Expression → Expression → Expression))) :
    Parser Expression := do
  let first ← operand
  let step := firstOf (operators.map fun (operator, join) => do
    operator
    let right ← operand
    return (join · right))
  return (← many step).foldl (fun left join => join left) first

/-- Operands with one of some signs between, whose order does not matter. -/
def operations (operand : Parser Expression) (signs : List String) : Parser Expression :=
  chain operand (signs.map fun text => (sign text, fun _ _ => .operation))

/-- Two or more operands with a keyword between, or one operand. -/
def junction (operand : Parser Expression) (word : String) : Parser Expression :=
  chain operand [(keyword word, fun _ _ => .operation)]

/-- A name with a value: the value stands behind a colon and an equals sign. -/
def naming (rules : Rules) : Parser Expression := do
  let _ ← name
  sign ":="
  let _ ← rules .expression
  return .naming

def namedExpression (rules : Rules) : Parser Expression :=
  firstOf [
    naming rules,
    mistake (rules .namingMistake),
    do
      let expression ← rules .expression
      notAhead (sign ":=")
      return expression]

/-- An expression that is unpacked, or one that may name its value. -/
def starNamedExpression (rules : Rules) : Parser Expression :=
  orElse (do sign "*"; return .starred (← rules .bitwiseOr)) (namedExpression rules)

/-- Expressions with commas between, of which each may be unpacked or name its
value. -/
def starNamedExpressions (rules : Rules) : Parser (List Expression) := do
  let elements ← separated (starNamedExpression rules)
  let _ ← optional (sign ",")
  return elements

/-- An expression that is unpacked. A star alone is a mistake in every reading. -/
def starredExpression (rules : Rules) : Parser Expression :=
  orElse (do sign "*"; return .starred (← rules .expression)) (do sign "*"; raise .emptyStar)

def yieldExpression (rules : Rules) : Parser Expression := do
  keyword "yield"
  orElse (do keyword "from"; let _ ← rules .expression)
    (do let _ ← optional (starExpressions rules))
  return .yield

/-- Elements in brackets with at least one comma, or empty brackets. -/
def tuple (rules : Rules) : Parser Expression := do
  sign "("
  let elements ← optional (do
    let first ← starNamedExpression rules
    sign ","
    return first :: ((← optional (starNamedExpressions rules)).getD []))
  sign ")"
  return .tuple (elements.getD [])

def group (rules : Rules) : Parser Expression :=
  firstOf [
    do
      sign "("
      let expression ← orElse (yieldExpression rules) (namedExpression rules)
      sign ")"
      return expression,
    mistake (do
      sign "("
      let _ ← starredExpression rules
      sign ")"
      raise .starred),
    mistake (do
      sign "("
      sign "**"
      let _ ← rules .expression
      sign ")"
      raise .doublyStarred)]

def comprehensionMistake (rules : Rules) : Parser Expression :=
  firstOf [
    do
      orElse (sign "(") (sign "\x7b")
      let _ ← starredExpression rules
      clauses rules
      raise .unpackingInComprehension,
    do
      sign "\x7b"
      let _ ← starNamedExpression rules
      sign ","
      let _ ← starNamedExpressions rules
      clauses rules
      raise .bareTarget,
    do
      sign "\x7b"
      let _ ← starNamedExpression rules
      sign ","
      clauses rules
      raise .bareTarget]

/-- A value without an equals sign behind its name, and not itself a naming in
progress. -/
def unnamedExpression (rules : Rules) : Parser Expression :=
  orElse (naming rules) (do
    let expression ← rules .expression
    notAhead (sign ":=")
    return expression)

def generator (rules : Rules) : Parser Expression :=
  firstOf [
    do
      sign "("
      let _ ← unnamedExpression rules
      clauses rules
      sign ")"
      return .generator,
    mistake (comprehensionMistake rules)]

def entry (rules : Rules) : Parser (Option Expression × Expression) := do
  let key ← rules .expression
  sign ":"
  return (some key, ← rules .expression)

/-- A key and its value, or a dictionary that is unpacked. -/
def anyEntry (rules : Rules) : Parser (Option Expression × Expression) :=
  orElse (do sign "**"; return (none, ← rules .bitwiseOr)) (entry rules)

def valueMistakes (rules : Rules) : List (Parser Unit) :=
  [do
    let _ ← rules .expression
    sign ":"
    sign "*"
    let _ ← rules .bitwiseOr
    raise .starredValue,
   do
    let _ ← rules .expression
    sign ":"
    ahead (orElse (sign "\x7d") (sign ","))
    raise .missingValue]

/-- Mistakes in entries. They are looked for in every reading. -/
def entriesMistake (rules : Rules) : Parser Unit :=
  let keyMistake : Parser Unit := do
    let _ ← rules .expression
    notAhead (sign ":")
    raise .missingColon
  firstOf ((do
    let _ ← separated (anyEntry rules)
    sign ","
    firstOf (keyMistake :: valueMistakes rules)) :: valueMistakes rules)

def dictionary (rules : Rules) : Parser Expression :=
  orElse
    (do
      sign "\x7b"
      let entries ← optional (do
        let entries ← separated (anyEntry rules)
        let _ ← optional (sign ",")
        return entries)
      sign "\x7d"
      return .dict (entries.getD []))
    (do
      sign "\x7b"
      entriesMistake rules
      sign "\x7d"
      return .dict [])

def braced (rules : Rules) : Parser Expression :=
  firstOf [
    dictionary rules,
    do
      sign "\x7b"
      let elements ← starNamedExpressions rules
      sign "\x7d"
      return .set elements,
    do
      sign "\x7b"
      let _ ← entry rules
      clauses rules
      sign "\x7d"
      return .dictComprehension,
    mistake (do
      sign "\x7b"
      sign "**"
      let _ ← rules .bitwiseOr
      clauses rules
      sign "\x7d"
      raise .dictUnpackingInComprehension),
    do
      sign "\x7b"
      let _ ← namedExpression rules
      clauses rules
      sign "\x7d"
      return .setComprehension,
    mistake (comprehensionMistake rules)]

/-- The expressions that begin with the tokens that they are made of. -/
def atom (rules : Rules) : Parser Expression :=
  let isQuotation (kind : TokenKind) : Option Unit := match kind with
    | .quotation _ => some ()
    | _ => none
  let number (kind : TokenKind) : Option Expression := match kind with
    | .number imaginary => some (.atom (if imaginary then .imaginary else .real))
    | _ => none
  firstOf [
    name,
    do keyword "True"; return .atom .truth,
    do keyword "False"; return .atom .falsity,
    do keyword "None"; return .atom .nothing,
    do ahead (token isQuotation); rules .quotations,
    token number,
    do ahead (sign "("); firstOf [tuple rules, group rules, generator rules],
    do ahead (sign "\x7b"); braced rules,
    do sign "..."; return .atom .ellipsis]

/-- Tests quotations that follow one another: each for itself, and whether all are
texts or all are bytes. -/
def checkQuotations (source : Source) (first : Quotation) : List Quotation → Except FormatError Unit
  | [] => .ok ()
  | quotation :: others => do
    let body := quotation.body
    if quotation.bytes then
      if body.any fun c => 0x80 ≤ c.toNat then throw (.own .wideBytes)
      unless quotation.raw do (checkByteEscapes 0 body).mapError .own
    else unless quotation.raw || quotation.formatted do
      (checkEscapes 0 body).mapError .own
    if quotation.bytes ≠ first.bytes then throw (.own .mixedQuotations)
    if quotation.formatted then
      checkFormatted ⟨quotation.raw, source.testField⟩ body
    checkQuotations source first others

def quotations : Parser Expression := do
  let parts ← many1 (token fun kind => match kind with
    | .quotation quotation => some quotation
    | _ => none)
  match parts with
  | [] => mismatch
  | first :: _ =>
    match checkQuotations (← read) first parts with
    | .error (.own error) => raise error
    | .error (.nested error) => throw (.nested error)
    | .ok () =>
      if parts.any Quotation.formatted then return .formatted
      else return .atom (if first.bytes then .bytes else .text)

/-- What arguments of a call are: how many have a position, how many have a keyword,
and whether keywords are unpacked. -/
structure Arguments where
  positional : Nat := 0
  keywords : Nat := 0
  unpacks : Bool := false

def Arguments.join (first second : Arguments) : Arguments :=
  ⟨first.positional + second.positional, first.keywords + second.keywords,
    first.unpacks || second.unpacks⟩

def Arguments.ofList (parts : List Arguments) : Arguments :=
  parts.foldl Arguments.join {}

def keywordMistake (rules : Rules) : Parser Arguments :=
  let word (text : String) : Parser String := do keyword text; return text
  firstOf [
    do
      let text ← firstOf [word "True", word "False", word "None"]
      sign "="
      raise (.assignmentTo text),
    do
      let _ ← name
      sign "="
      let _ ← rules .expression
      clauses rules
      raise .namingMeant,
    do
      notAhead (do let _ ← name; sign "=")
      let _ ← rules .expression
      sign "="
      raise .assignmentInArgument]

def keywordArgument (rules : Rules) : Parser Arguments := do
  let _ ← name
  sign "="
  let _ ← rules .expression
  return { keywords := 1 }

def keywordArguments (rules : Rules) : Parser Arguments :=
  let starred : Parser Arguments := do
    let _ ← starredExpression rules
    return { positional := 1 }
  let unpacked : Parser Arguments := do
    sign "**"
    let _ ← rules .expression
    return { keywords := 1, unpacks := true }
  let early := firstOf [mistake (keywordMistake rules), keywordArgument rules, starred]
  let late := firstOf [mistake (keywordMistake rules), keywordArgument rules, unpacked]
  firstOf [
    do
      let first ← separated early
      sign ","
      return .ofList (first ++ (← separated late)),
    do return .ofList (← separated early),
    do return .ofList (← separated late)]

def positionalArgument (rules : Rules) : Parser Arguments := do
  orElse (do let _ ← starredExpression rules)
    (do let _ ← unnamedExpression rules; notAhead (sign "="))
  return { positional := 1 }

def someArguments (rules : Rules) : Parser Arguments :=
  orElse
    (do
      let first ← separated (positionalArgument rules)
      let rest ← optional (do sign ","; keywordArguments rules)
      return .ofList (first ++ rest.toList))
    (keywordArguments rules)

def argumentsMistake (rules : Rules) : Parser Expression :=
  let generated := do let _ ← rules .expression; clauses rules
  firstOf [
    do
      let _ ← orElse
        (do let _ ← separated (positionalArgument rules); sign ","; keywordArguments rules)
        (keywordArguments rules)
      sign ","
      let _ ← separated (do let _ ← starredExpression rules; notAhead (sign "="))
      raise .unpackingBehindKeywords,
    do
      generated
      sign ","
      let _ ← optional (orElse (do let _ ← someArguments rules) generated)
      raise .bareGenerator,
    do
      let _ ← name
      sign "="
      generated
      raise .namingMeant,
    do
      let arguments ← someArguments rules
      clauses rules
      if arguments.positional ≤ 1 then mismatch else raise .bareGenerator,
    do
      let _ ← someArguments rules
      sign ","
      generated
      raise .bareGenerator,
    do
      let arguments ← someArguments rules
      sign ","
      let _ ← someArguments rules
      raise (if arguments.unpacks then .positionBehindUnpacking else .positionBehindKeyword)]

/-- The arguments of a call up to its closing bracket, as a call of an unknown
function. -/
def arguments (rules : Rules) : Parser Expression :=
  orElse
    (do
      let arguments ← someArguments rules
      let _ ← optional (sign ",")
      ahead (sign ")")
      return .call .operation arguments.positional arguments.keywords arguments.unpacks)
    (mistake (argumentsMistake rules))

/-- What can follow an expression directly: a member or a call. -/
def suffix (rules : Rules) : Parser (Expression → Expression) :=
  firstOf [
    do
      sign "."
      let _ ← name
      return fun _ => .member,
    do
      let _ ← generator rules
      return (.call · 1 0 false),
    do
      sign "("
      let arguments ← optional (rules .arguments)
      sign ")"
      match arguments with
      | some (.call _ positional keywords unpacks) =>
        return (.call · positional keywords unpacks)
      | _ => return (.call · 0 0 false)]

def primary (rules : Rules) : Parser Expression := do
  let first ← atom rules
  return (← many (suffix rules)).foldl (fun expression step => step expression) first

def targetPrimary (rules : Rules) : Parser Expression := do
  let more := ahead (orElse (sign "(") (sign "."))
  let first ← atom rules
  more
  let steps ← many (do let step ← suffix rules; more; return step)
  return steps.foldl (fun expression step => step expression) first

def targetWithStar (rules : Rules) : Parser Expression :=
  firstOf [
    do
      let _ ← rules .targetPrimary
      sign "."
      let _ ← name
      notAhead (orElse (sign "(") (sign "."))
      return .member,
    name,
    do
      sign "("
      let target ← rules .targetWithStar
      sign ")"
      return target,
    do
      sign "("
      let _ ← optional (do
        let _ ← rules .starTarget
        sign ","
        let _ ← optional (do
          let _ ← separated (rules .starTarget)
          let _ ← optional (sign ",")))
      sign ")"
      return .tuple []]

def starTarget (rules : Rules) : Parser Expression :=
  orElse (do sign "*"; notAhead (sign "*"); return .starred (← rules .starTarget))
    (rules .targetWithStar)

/-- An expression with an operator that compares it, and its operand. The answer
tells whether the operator asks for a member. -/
def comparisonStep (rules : Rules) : Parser Bool :=
  let step (operator : Parser Unit) (membership : Bool) : Parser Bool := do
    operator
    let _ ← rules .bitwiseOr
    return membership
  firstOf ((["==", "!=", "<=", "<", ">=", ">"].map fun text => step (sign text) false) ++
    [step (do keyword "not"; keyword "in") false, step (keyword "in") true,
     step (do keyword "is"; keyword "not") false, step (keyword "is") false])

def comparison (rules : Rules) : Parser Expression := do
  let left ← rules .bitwiseOr
  match ← many (comparisonStep rules) with
  | [] => return left
  | membership :: _ => return .comparison left membership

def lambda (rules : Rules) : Parser Expression := do
  keyword "lambda"
  let _ ← optional (parameters rules)
  sign ":"
  let _ ← rules .expression
  return .lambda

def plainExpression (rules : Rules) : Parser Expression :=
  firstOf [
    do
      let _ ← rules .disjunction
      keyword "if"
      let _ ← rules .disjunction
      keyword "else"
      let _ ← rules .expression
      return .conditional,
    rules .disjunction,
    lambda rules]

/-- The words that are names except in some places, and the beginnings of these. -/
def isSoftKeyword (word : List Char) : Bool :=
  ["_", "case", "match"].any fun keyword => word.isPrefixOf keyword.toList

/-- Mistakes in expressions. Two expressions without a comma between are one only
inside of brackets. -/
def expressionMistake (rules : Rules) : Parser Expression :=
  let quotation (kind : TokenKind) : Option Unit := match kind with
    | .quotation _ => some ()
    | _ => none
  let soft (kind : TokenKind) : Option Unit := match kind with
    | .name text => if isSoftKeyword text then some () else none
    | _ => none
  firstOf [
    do
      notAhead (orElse (do let _ ← name; token quotation) (token soft))
      let first ← rules .disjunction
      let _ ← lenient (plainExpression rules)
      let last := (← read).tokens.getD ((← get).position - 1) ⟨.finish, 0, 0⟩
      if first.isOldCommand ∨ last.depth = 0 then mismatch else raise .missingComma,
    do
      let _ ← rules .disjunction
      keyword "if"
      let _ ← rules .disjunction
      notAhead (orElse (keyword "else") (sign ":"))
      raise .missingElse,
    do
      let first ← name
      notAhead (sign "(")
      let _ ← starExpressions rules
      match first with
      | .name text => if first.isOldCommand then raise (.missingBrackets text) else mismatch
      | _ => mismatch]

/-- Mistakes in namings, and equals signs that should be something else. -/
def namingMistake (rules : Rules) : Parser Expression :=
  let ended := notAhead (orElse (sign "=") (sign ":="))
  firstOf [
    do
      let expression ← rules .expression
      sign ":="
      let _ ← rules .expression
      raise (.namingOf expression.kind),
    do
      let _ ← name
      sign "="
      let _ ← rules .bitwiseOr
      ended
      raise .namingMeant,
    do
      notAhead (firstOf [
        do let _ ← tuple rules, do let _ ← generator rules,
        keyword "True", keyword "None", keyword "False"])
      let expression ← rules .bitwiseOr
      sign "="
      let _ ← rules .bitwiseOr
      ended
      raise (.comparisonMeant expression.kind)]

/-- The bodies of the rules whose answers are remembered. -/
def ruleBody (rules : Rules) : Rule → Parser Expression
  | .expression => orElse (mistake (expressionMistake rules)) (plainExpression rules)
  | .starExpression =>
    orElse (do sign "*"; return .starred (← rules .bitwiseOr)) (rules .expression)
  | .disjunction => junction (rules .conjunction) "or"
  | .conjunction => junction (rules .inversion) "and"
  | .inversion =>
    orElse (do keyword "not"; let _ ← rules .inversion; return .operation) (comparison rules)
  | .bitwiseOr => operations (rules .bitwiseXor) ["|"]
  | .bitwiseXor => operations (rules .bitwiseAnd) ["^"]
  | .bitwiseAnd => operations (rules .shift) ["&"]
  | .shift => operations (rules .sum) ["<<", ">>"]
  | .sum => chain (rules .term) [(sign "+", .sum), (sign "-", .sum)]
  | .term => operations (rules .factor) ["*", "/", "//", "%", "@"]
  | .factor =>
    firstOf [
      do sign "+"; return .signed (← rules .factor),
      do sign "-"; return .signed (← rules .factor),
      do sign "~"; let _ ← rules .factor; return .operation,
      do
        let _ ← rules .awaitPrimary
        sign "**"
        let _ ← rules .factor
        return .operation,
      rules .awaitPrimary]
  | .awaitPrimary =>
    orElse (do keyword "await"; let _ ← rules .primary; return .await) (rules .primary)
  | .primary => primary rules
  | .quotations => quotations
  | .arguments => arguments rules
  | .starTarget => starTarget rules
  | .targetWithStar => targetWithStar rules
  | .targetPrimary => targetPrimary rules
  | .namingMistake => namingMistake rules

/-- The rules whose answers are remembered, with a limit for how deep they use one
another. -/
def rulesWithin : Nat → Rules
  | 0, _ => mismatch
  | fuel + 1, rule => remembered rule (ruleBody (rulesWithin fuel) rule)

end ComponentQueries.Literal
