import ComponentQueries.Command.Literal.Parser

/-! Rules for the parts of comprehensions and for the parameters of functions without a
name. -/
namespace ComponentQueries.Literal

open ComponentQueries.Literal.Parser

abbrev Rules := Rule → Parser Expression

/-- Expressions with commas between, some of which may be unpacked. -/
def starExpressions (rules : Rules) : Parser Expression := do
  let first ← rules .starExpression
  let others ← many (do sign ","; rules .starExpression)
  let comma ← optional (sign ",")
  if others.isEmpty ∧ comma.isNone then return first else return .tuple (first :: others)

def starTargets (rules : Rules) : Parser Unit := do
  let _ ← separated (rules .starTarget)
  let _ ← optional (sign ",")

/-- What follows the targets of a loop. Behind the word `in` it has to match. -/
def clauseTail (rules : Rules) : Parser (Option Unit) := do
  keyword "in"
  optional (do
    let _ ← rules .disjunction
    let _ ← many (do keyword "if"; rules .disjunction)
    return ())

def targetMistake (rules : Rules) : Parser (Option Unit) := do
  let _ ← optional (keyword "async")
  keyword "for"
  match (← starExpressions rules).invalidTarget? with
  | some target => raise (.assignmentTo target.kind)
  | none => mismatch

def clause (rules : Rules) : Parser Unit := do
  let loop := do keyword "for"; starTargets rules; clauseTail rules
  let matched ← firstOf [do keyword "async"; loop, loop, mistake (targetMistake rules)]
  if matched.isNone then mismatch

def clauses (rules : Rules) : Parser Unit := do
  let _ ← many1 (clause rules)

def defaultValue (rules : Rules) : Parser Unit :=
  orElse (do sign "="; let _ ← rules .expression)
    (mistake (do
      sign "="
      ahead (orElse (sign ")") (sign ","))
      raise .defaultExpected))

def plainParameter : Parser Unit :=
  orElse (do let _ ← name; sign ",") (do let _ ← name; ahead (sign ":"))

def defaultParameter (rules : Rules) : Parser Unit :=
  let head := do let _ ← name; defaultValue rules
  orElse (do head; sign ",") (do head; ahead (sign ":"))

def anyParameter (rules : Rules) : Parser Unit :=
  let head := do let _ ← name; let _ ← optional (defaultValue rules)
  orElse (do head; sign ",") (do head; ahead (sign ":"))

def plainUpToSlash : Parser Unit :=
  let head := do let _ ← many1 plainParameter; sign "/"
  orElse (do head; sign ",") (do head; ahead (sign ":"))

/-- Parameters of which the last have defaults, up to a slash. -/
def defaultUpToSlash (rules : Rules) : Parser Unit :=
  let head := do
    let _ ← many plainParameter
    let _ ← many1 (defaultParameter rules)
    sign "/"
  orElse (do head; sign ",") (do head; ahead (sign ":"))

/-- Mistakes in the parameter that takes further keywords. -/
def keywordsMistake : Parser Unit :=
  let head := do sign "**"; let _ ← name
  firstOf [
    do head; sign "="; raise .doubleStarWithDefault,
    do head; sign ","; let _ ← name; raise .behindDoubleStar,
    do head; sign ","; firstOf [sign "*", sign "**", sign "/"]; raise .behindDoubleStar]

def keywordsParameter : Parser Unit :=
  orElse (mistake keywordsMistake) (do sign "**"; plainParameter)

def starMistake (rules : Rules) : Parser Unit :=
  firstOf [
    do
      sign "*"
      orElse (sign ":") (do sign ","; orElse (sign ":") (sign "**"))
      raise .bareStar,
    do sign "*"; let _ ← name; sign "="; raise .starWithDefault,
    do
      sign "*"
      orElse plainParameter (sign ",")
      let _ ← many (anyParameter rules)
      sign "*"
      orElse plainParameter (sign ",")
      raise .secondStar]

def starParameters (rules : Rules) : Parser Unit :=
  firstOf [
    mistake (starMistake rules),
    do
      sign "*"
      plainParameter
      let _ ← many (anyParameter rules)
      let _ ← optional keywordsParameter,
    do
      sign "*"
      sign ","
      let _ ← many1 (anyParameter rules)
      let _ ← optional keywordsParameter,
    keywordsParameter]

def parametersMistake (rules : Rules) : Parser Unit :=
  let slashed := orElse plainUpToSlash (defaultUpToSlash rules)
  firstOf [
    do
      let _ ← many plainParameter
      orElse (defaultUpToSlash rules) (do let _ ← many1 (defaultParameter rules))
      plainParameter
      raise .defaultMissing,
    do
      let _ ← many plainParameter
      sign "("
      let _ ← separated name
      let _ ← optional (sign ",")
      sign ")"
      raise .bracketedParameters,
    do sign "/"; sign ","; raise .nothingBeforeSlash,
    do
      slashed
      let _ ← many (anyParameter rules)
      sign "/"
      raise .secondSlash,
    do
      let _ ← optional slashed
      let _ ← many (anyParameter rules)
      sign "*"
      orElse (sign ",") plainParameter
      let _ ← many (anyParameter rules)
      sign "/"
      raise .slashBehindStar,
    do
      let _ ← many1 (anyParameter rules)
      sign "/"
      sign "*"
      raise .commaBeforeStar]

def parameters (rules : Rules) : Parser Unit :=
  let rest := do let _ ← optional (starParameters rules)
  firstOf [
    mistake (parametersMistake rules),
    do
      plainUpToSlash
      let _ ← many plainParameter
      let _ ← many (defaultParameter rules)
      rest,
    do
      defaultUpToSlash rules
      let _ ← many (defaultParameter rules)
      rest,
    do
      let _ ← many1 plainParameter
      let _ ← many (defaultParameter rules)
      rest,
    do
      let _ ← many1 (defaultParameter rules)
      rest,
    starParameters rules]

end ComponentQueries.Literal
