import ComponentQueries.Command.Literal.Grammar
import ComponentQueries.Command.Literal.Scan

/-! Texts as expressions. A text is read once as it should be. If that fails it is read again
with the rules for mistakes, to find the best description of what is wrong. -/
namespace ComponentQueries.Literal

open ComponentQueries.Literal.Parser

/-- What a text is read as: a whole value, or a field of a formatted text. -/
inductive Scope where
  | value | field
  deriving DecidableEq, Repr

def expressions (rules : Rules) : Parser Expression := do
  let elements ← separated (rules .expression)
  let comma ← optional (sign ",")
  match elements, comma with
  | [only], none => return only
  | elements, _ => return .tuple elements

def whole (scope : Scope) (rules : Rules) : Parser Expression :=
  match scope with
  | .field => starExpressions rules
  | .value => do
    let expression ← expressions rules
    let _ ← many (token fun kind => if kind = .newline then some () else none)
    token fun kind => if kind = .finish then some () else none
    return expression

/-- The error of a scope. Inside a formatted text it says so. -/
def Scope.error (scope : Scope) (error : Error) : Error :=
  match scope with
  | .value => error
  | .field => .inField error

/-- The error for a text with the given tokens, where a reading that looked at the
token `reached` found `found`. An error of the scan wins. So does a bracket that was opened
on an earlier line, unless the reading failed at it, or described a mistake in front of it
with no quotation between. -/
def settle (scope : Scope) (tokens : List Token) (found : Error) (described : Bool)
    (reached : Nat) : Error :=
  match tokens.drop reached with
  | [] => found
  | token :: rest =>
    match (token :: rest).getLast?.map Token.kind with
    | some (.broken error) => error
    | some (.obstacle _ (some (bracket, opened))) =>
      if rest = [] ∨ (described ∧ rest.length = 1 ∧ ¬ token.isQuotation) ∨ token.line ≤ opened then
        found
      else scope.error (.neverClosed bracket)
    | _ => found

/-- The error for a text with the given tokens if no rule for mistakes describes what is
wrong, where the first reading looked at the token `first` and the second at `reached`. -/
def plainError (scope : Scope) (tokens : List Token) (first reached : Nat) : Error :=
  if (tokens[first]?.map Token.kind) = some .indent then scope.error .unexpectedIndent
  else settle scope tokens (scope.error .syntactic) false reached

/-- The error for a text with the given tokens that a reading stopped at, unless it stopped
because no rule matches. -/
def describedError? (scope : Scope) (tokens : List Token) (stop : Stop) (reached : Nat) :
    Option Error :=
  match stop with
  | .mismatch => none
  | .error error => some (settle scope tokens (scope.error error) true reached)
  | .nested error => some (settle scope tokens error true reached)

/-- The expression that a text is. The fuel limits how deep formatted texts are nested. -/
def readWithin : Nat → Scope → List Char → Except Error Expression
  | 0, _, _ => .error .syntactic
  | fuel + 1, scope, text =>
    let tokens := scan text
    let source : Source := ⟨tokens.toArray, fun field =>
      (readWithin fuel .field field).map fun _ => ()⟩
    let rules := rulesWithin (64 * (tokens.length + 1))
    let read (reading : Reading) := ((whole scope rules).run source).run reading
    match read { strict := false } with
    | (.ok expression, _) => .ok expression
    | (.error stop, first) =>
      match describedError? scope tokens stop first.reached with
      | some error => .error error
      | none =>
        match read { strict := true, reached := first.reached } with
        | (.ok _, second) => .error (plainError scope tokens first.reached second.reached)
        | (.error stop, second) =>
          .error ((describedError? scope tokens stop second.reached).getD
            (plainError scope tokens first.reached second.reached))

def readExpression (text : List Char) : Except Error Expression :=
  readWithin (text.length + 1) .value text

end ComponentQueries.Literal
