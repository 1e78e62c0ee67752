import ComponentQueries.Command.Literal.Reading

/-! Values that a text can spell out: numbers, texts in quotes, a few words, and groups of
values in brackets. Only whether a text spells out a value is of interest. -/
namespace ComponentQueries.Literal

/-- A value, as far as it matters for what holds it. -/
inductive Value where
  | scalar
  | tuple (elements : List Value)
  | set
  | dict

inductive Failure where
  /-- It is no expression. -/
  | syntactic (error : Error)
  /-- It is an expression for something else. -/
  | malformed
  /-- A dictionary is unpacked in it. -/
  | unpacked
  /-- A value that can change is an element of a set or a key. -/
  | unhashable (kind : String)
  deriving DecidableEq, Repr

def Failure.message : Failure → String
  | syntactic error => error.message
  | malformed => "malformed node or string"
  | unpacked => "malformed node or string: None"
  | unhashable kind => "unhashable type: '" ++ kind ++ "'"

mutual

/-- The kind of the first part of a value that can change. -/
def Value.changing? : Value → Option String
  | .scalar => none
  | .tuple elements => Value.changingIn? elements
  | .set => some "set"
  | .dict => some "dict"

/-- The kind of the first part of values that can change. -/
def Value.changingIn? : List Value → Option String
  | [] => none
  | first :: others => first.changing?.or (Value.changingIn? others)

end

/-- Tests that a value can be an element of a set or a key. -/
def Value.checkFixed (value : Value) : Except Failure Unit :=
  match value.changing? with
  | some kind => .error (.unhashable kind)
  | none => .ok ()

def isNumber : Expression → Bool
  | .atom .real | .atom .imaginary => true
  | _ => false

def isReal : Expression → Bool
  | .atom .real | .signed (.atom .real) => true
  | _ => false

mutual

/-- The value that an expression spells out. A sum spells out a value only if it adds an
imaginary number to a real one. -/
def valueOf : Expression → Except Failure Value
  | .atom _ => .ok .scalar
  | .tuple elements => do return .tuple (← valuesOf elements)
  | .set elements => do checkElements elements; return .set
  | .dict entries => do checkEntries entries; return .dict
  | .call (.name function) 0 0 _ =>
    if function = "set".toList then .ok .set else .error .malformed
  | .signed operand => if isNumber operand then .ok .scalar else .error .malformed
  | .sum left (.atom .imaginary) => if isReal left then .ok .scalar else .error .malformed
  | _ => .error .malformed

def valuesOf : List Expression → Except Failure (List Value)
  | [] => .ok []
  | first :: others => do
    let value ← valueOf first
    return value :: (← valuesOf others)

def checkElements : List Expression → Except Failure Unit
  | [] => .ok ()
  | first :: others => do
    (← valueOf first).checkFixed
    checkElements others

def checkEntries : List (Option Expression × Expression) → Except Failure Unit
  | [] => .ok ()
  | (none, _) :: _ => .error .unpacked
  | (some key, value) :: others => do
    let key ← valueOf key
    let _ ← valueOf value
    key.checkFixed
    checkEntries others

end

def check (text : List Char) : Except Failure Unit := do
  let expression ← (readExpression text).mapError .syntactic
  let _ ← valueOf expression

end ComponentQueries.Literal
