import ComponentQueries.Command.Literal.Expression
import ComponentQueries.Command.Literal.Token
import Std.Data.HashMap

/-! Rules that read tokens. A rule either reads an expression, does not match, or ends the
whole reading with an error. -/
namespace ComponentQueries.Literal

/-- The rules whose answers are remembered. -/
inductive Rule where
  | expression | starExpression | disjunction | conjunction | inversion | bitwiseOr | bitwiseXor
  | bitwiseAnd | shift | sum | term | factor | awaitPrimary | primary | quotations | arguments
  | starTarget | targetWithStar | targetPrimary | namingMistake
  deriving DecidableEq, Repr, Hashable

/-- What a reading is about: the tokens, and how a text inside a formatted text is
tested. -/
structure Source where
  tokens : Array Token
  testField : List Char → Except Error Unit

/-- The point that a reading has reached. -/
structure Reading where
  position : Nat := 0
  /-- The last token that was looked at. -/
  reached : Nat := 0
  /-- Whether the rules for mistakes are tried. -/
  strict : Bool
  /-- The answers of rules, with the position behind what they read. -/
  known : Std.HashMap (Nat × Rule) (Option (Expression × Nat)) := {}

inductive Stop where
  | mismatch
  | error (error : Error)
  /-- An error of a text inside a formatted text. -/
  | nested (error : Error)

abbrev Parser := ReaderT Source (ExceptT Stop (StateM Reading))

namespace Parser

def mismatch {α : Type} : Parser α := throw .mismatch

def raise {α : Type} (error : Error) : Parser α := throw (.error error)

def next : Parser Token := do
  let reading ← get
  let token := (← read).tokens.getD reading.position ⟨.finish, 0, 0⟩
  set { reading with reached := max reading.reached reading.position }
  match token.kind with
  | .obstacle error _ | .broken error => raise error
  | _ => return token

def advance : Parser Unit :=
  modify fun reading => { reading with position := reading.position + 1 }

def goTo (position : Nat) : Parser Unit :=
  modify fun reading => { reading with position }

def token {α : Type} (answer? : TokenKind → Option α) : Parser α := do
  match answer? (← next).kind with
  | some answer => advance; return answer
  | none => mismatch

def sign (text : String) : Parser Unit :=
  token fun kind => if kind = .sign text then some () else none

def keyword (text : String) : Parser Unit :=
  token fun kind => if kind = .keyword text then some () else none

def name : Parser Expression :=
  token fun kind => match kind with
    | .name text => some (.name text)
    | _ => none

def orElse {α : Type} (first : Parser α) (second : Parser α) : Parser α := do
  let start := (← get).position
  tryCatch first fun stop => match stop with
    | .mismatch => do goTo start; second
    | other => throw other

def firstOf {α : Type} : List (Parser α) → Parser α
  | [] => mismatch
  | [only] => only
  | first :: others => orElse first (firstOf others)

/-- What a rule reads, or nothing if it does not match. -/
def optional {α : Type} (rule : Parser α) : Parser (Option α) :=
  orElse (some <$> rule) (pure none)

/-- Matches where a rule does, and reads nothing. -/
def ahead {α : Type} (rule : Parser α) : Parser Unit := do
  let start := (← get).position
  let _ ← rule
  goTo start

/-- Matches where a rule does not, and reads nothing. -/
def notAhead {α : Type} (rule : Parser α) : Parser Unit := do
  let start := (← get).position
  match ← optional rule with
  | some _ => goTo start; mismatch
  | none => return ()

/-- What a rule reads again and again, at most as often as the fuel allows. -/
def repeated {α : Type} (rule : Parser α) : Nat → Parser (List α)
  | 0 => return []
  | fuel + 1 => do
    match ← optional rule with
    | none => return []
    | some first => return first :: (← repeated rule fuel)

def many {α : Type} (rule : Parser α) : Parser (List α) := do
  repeated rule (← read).tokens.size

def many1 {α : Type} (rule : Parser α) : Parser (List α) := do
  let first ← rule
  return first :: (← many rule)

/-- What a rule reads at least once, with commas between. -/
def separated {α : Type} (rule : Parser α) : Parser (List α) := do
  let first ← rule
  return first :: (← many (do sign ","; rule))

/-- A rule for a mistake. It is tried only in a strict reading. -/
def mistake {α : Type} (rule : Parser α) : Parser α := do
  if (← get).strict then rule else mismatch

/-- A rule in which no mistakes are looked for. -/
def lenient {α : Type} (rule : Parser α) : Parser α := do
  let strict := (← get).strict
  modify fun reading => { reading with strict := false }
  let answer ← tryCatch (some <$> rule) fun stop => match stop with
    | .mismatch => return none
    | other => throw other
  modify fun reading => { reading with strict }
  match answer with
  | some answer => return answer
  | none => mismatch

/-- The answer of a rule, which is remembered. -/
def remembered (rule : Rule) (body : Parser Expression) : Parser Expression := do
  let start := (← get).position
  match (← get).known[(start, rule)]? with
  | some (some (answer, position)) => goTo position; return answer
  | some none => mismatch
  | none =>
    let answer ← optional body
    let position := (← get).position
    modify fun reading =>
      { reading with known := reading.known.insert (start, rule) (answer.map (·, position)) }
    match answer with
    | some answer => return answer
    | none => mismatch

end Parser

end ComponentQueries.Literal
