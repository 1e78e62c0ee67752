import ComponentQueries.Proofs.SyntaxTree.Places
import ComponentQueries.Scope.Binding

/-! The names of a pattern. A pattern is a name itself, has its names in one of its roles, or
has those of its parts. -/
namespace ComponentQueries

namespace Kind

/-- Patterns that are names. -/
def isPatternName : Kind → Bool
  | identifier | shorthandPattern => true
  | _ => false

/-- The role in which a pattern has all its names: what a default value is for, the value of
a property, or what a parameter is. -/
def patternRole? : Kind → Option Field
  | assignmentPattern | objectAssignmentPattern => some .left
  | pairPattern => some .value
  | requiredParameter | optionalParameter => some .pattern
  | _ => none

end Kind

namespace Cursor

/-- Parts of a pattern that may have names. -/
def mayBind (part : Cursor) : Bool :=
  part.kind ≠ .typeClause ∧ part.kind ≠ .accessibilityModifier

theorem boundField_eq (field : Field) (parent : Node) (trail : List Crumb) (nodes : List Node)
    (index : Nat) :
    boundField field parent trail index nodes =
      ((childrenFrom parent trail index nodes).find?
        (·.node.field = some field)).toList.flatMap boundIdentifiers := by
  induction nodes generalizing index with
  | nil => simp [boundField, childrenFrom]
  | cons node others ih =>
      rw [boundField, childrenFrom]
      by_cases hField : node.field = some field
      · simp [hField, boundIdentifiers]
      · simp [hField, ih]

theorem boundList_eq (parent : Node) (trail : List Crumb) (nodes : List Node) (index : Nat) :
    boundList parent trail index nodes =
      (((childrenFrom parent trail index nodes).filter (·.node.named)).filter
        mayBind).flatMap boundIdentifiers := by
  induction nodes generalizing index with
  | nil => simp [boundList, childrenFrom]
  | cons node others ih =>
      rw [boundList, childrenFrom, ih]
      by_cases hNamed : node.named = true
      · by_cases hMay : node.kind ≠ .typeClause ∧ node.kind ≠ .accessibilityModifier
        · simp [hNamed, hMay, mayBind, kind, boundIdentifiers]
        · simp [hNamed, hMay, mayBind, kind]
      · simp [hNamed]

/-- A name is the only name that it has. -/
theorem boundIdentifiers_of_name {pattern : Cursor} (h : pattern.kind.isPatternName = true) :
    pattern.boundIdentifiers = [pattern] := by
  obtain ⟨⟨kind, named, missing, hasError, start, stop, field, children⟩, trail⟩ := pattern
  rw [boundIdentifiers, boundNode.eq_def]
  cases kind <;> simp_all [Cursor.kind, Kind.isPatternName]

/-- A pattern with a role for names has those of what plays the role. -/
theorem boundIdentifiers_of_role {pattern : Cursor} {field : Field}
    (h : pattern.kind.patternRole? = some field) :
    pattern.boundIdentifiers = (pattern.child? field).toList.flatMap boundIdentifiers := by
  obtain ⟨⟨kind, named, missing, hasError, start, stop, role, children⟩, trail⟩ := pattern
  rw [boundIdentifiers, boundNode.eq_def]
  cases kind <;> simp_all [Cursor.kind, Kind.patternRole?, boundField_eq, child?, Cursor.children]

/-- Any other pattern has the names of its parts. -/
theorem boundIdentifiers_of_parts {pattern : Cursor} (hName : pattern.kind.isPatternName = false)
    (hRole : pattern.kind.patternRole? = none) :
    pattern.boundIdentifiers = (pattern.namedChildren.filter mayBind).flatMap boundIdentifiers := by
  obtain ⟨⟨kind, named, missing, hasError, start, stop, field, children⟩, trail⟩ := pattern
  rw [boundIdentifiers, boundNode.eq_def]
  cases kind <;>
    simp_all [Cursor.kind, Kind.isPatternName, Kind.patternRole?, boundList_eq, namedChildren,
      Cursor.children]

end Cursor

end ComponentQueries
