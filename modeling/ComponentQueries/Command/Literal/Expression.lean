/-! Expressions, as far as their form matters: for the value that they spell out, and for
the words in which a mistake is described. -/
namespace ComponentQueries.Literal

inductive Atom where
  | truth | falsity | nothing | ellipsis | real | imaginary | text | bytes
  deriving DecidableEq, Repr

/-- An expression. Parts that never matter are left out. -/
inductive Expression where
  | name (text : List Char)
  | atom (atom : Atom)
  | formatted
  | tuple (elements : List Expression)
  | set (elements : List Expression)
  /-- Keys and values. What is unpacked stands without a key. -/
  | dict (entries : List (Option Expression × Expression))
  /-- A plus or minus in front of an operand. -/
  | signed (operand : Expression)
  /-- A sum or a difference. -/
  | sum (left right : Expression)
  /-- Any other operation. -/
  | operation
  /-- A comparison, and whether it first asks for a member. -/
  | comparison (left : Expression) (membership : Bool)
  | conditional
  | lambda
  /-- A call with numbers of arguments, and whether keywords are unpacked. -/
  | call (function : Expression) (positional keywords : Nat) (unpacks : Bool)
  | member
  | starred (operand : Expression)
  | naming
  | await
  | yield
  | generator
  | setComprehension
  | dictComprehension

namespace Expression

def kind : Expression → String
  | name _ => "name"
  | atom .truth => "True"
  | atom .falsity => "False"
  | atom .nothing => "None"
  | atom .ellipsis => "ellipsis"
  | atom _ => "literal"
  | formatted => "f-string expression"
  | tuple _ => "tuple"
  | set _ => "set display"
  | dict _ => "dict literal"
  | signed _ | sum _ _ | operation => "expression"
  | comparison _ _ => "comparison"
  | conditional => "conditional expression"
  | lambda => "lambda"
  | call _ _ _ _ => "function call"
  | member => "attribute"
  | starred _ => "starred"
  | naming => "named expression"
  | await => "await expression"
  | yield => "yield expression"
  | generator => "generator expression"
  | setComprehension => "set comprehension"
  | dictComprehension => "dict comprehension"

mutual

/-- The first part of an expression to which a loop cannot assign. What follows the
word `in` is no part of the target. -/
def invalidTarget? : Expression → Option Expression
  | tuple elements => invalidTargetIn? elements
  | starred operand => invalidTarget? operand
  | comparison left true => invalidTarget? left
  | comparison _ false | name _ | member => none
  | other => some other

/-- The first part of expressions to which a loop cannot assign. -/
def invalidTargetIn? : List Expression → Option Expression
  | [] => none
  | first :: others => (invalidTarget? first).or (invalidTargetIn? others)

end

/-- Tests for the names of two commands that are no functions in old texts. -/
def isOldCommand : Expression → Bool
  | name text => text == "print".toList || text == "exec".toList
  | _ => false

end Expression

end ComponentQueries.Literal
