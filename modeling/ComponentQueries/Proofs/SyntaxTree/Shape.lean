import ComponentQueries.Proofs.SyntaxTree.Places
import ComponentQueries.Proofs.Text.Boundaries

/-! What a parser promises about the ranges of a tree. Nothing is assumed about which
texts have which trees. Calls with a plain tag begin at different places. -/
namespace ComponentQueries

namespace Cursor

/-- What a parser promises about a node and its children. A call begins with what is
called and a property with its object, and an identifier is a leaf that covers something. -/
structure Shaped (text : List Char) (cursor : Cursor) : Prop where
  startBoundary : Text.IsBoundary text cursor.node.start
  stopBoundary : Text.IsBoundary text cursor.node.stop
  inside : ∀ child ∈ cursor.children,
    cursor.node.start ≤ child.node.start ∧ child.node.stop ≤ cursor.node.stop
  apart : cursor.children.Pairwise fun left right => left.node.stop ≤ right.node.start
  callee : cursor.kind = .callExpression →
    ∀ callee ∈ cursor.child? .function, callee.node.start = cursor.node.start
  object : cursor.kind = .memberExpression →
    ∀ object ∈ cursor.child? .object, object.node.start = cursor.node.start
  leaf : cursor.kind = .identifier →
    cursor.children = [] ∧ cursor.node.start < cursor.node.stop

instance (text : List Char) (cursor : Cursor) : Decidable (cursor.Shaped text) :=
  decidable_of_iff
    (Text.IsBoundary text cursor.node.start ∧ Text.IsBoundary text cursor.node.stop ∧
      (∀ child ∈ cursor.children,
        cursor.node.start ≤ child.node.start ∧ child.node.stop ≤ cursor.node.stop) ∧
      (cursor.children.Pairwise fun left right => left.node.stop ≤ right.node.start) ∧
      (cursor.kind = .callExpression →
        ∀ callee ∈ cursor.child? .function, callee.node.start = cursor.node.start) ∧
      (cursor.kind = .memberExpression →
        ∀ object ∈ cursor.child? .object, object.node.start = cursor.node.start) ∧
      (cursor.kind = .identifier →
        cursor.children = [] ∧ cursor.node.start < cursor.node.stop))
    ⟨fun ⟨hStart, hStop, hInside, hApart, hCallee, hObject, hLeaf⟩ =>
      ⟨hStart, hStop, hInside, hApart, hCallee, hObject, hLeaf⟩,
    fun h => ⟨h.startBoundary, h.stopBoundary, h.inside, h.apart, h.callee, h.object, h.leaf⟩⟩

/-- All nodes of a subtree keep the promise. -/
def WellShaped (text : List Char) (top : Cursor) : Prop :=
  ∀ cursor, top.Below cursor → cursor.Shaped text

instance (text : List Char) (top : Cursor) : Decidable (top.WellShaped text) :=
  decidable_of_iff (∀ cursor ∈ top.walk, cursor.Shaped text) <| by
    simp only [mem_walk_iff, WellShaped]

variable {text : List Char}

theorem WellShaped.of_below {top cursor : Cursor} (shape : top.WellShaped text)
    (h : top.Below cursor) : cursor.WellShaped text :=
  fun lower hLower => shape lower (h.trans hLower)

theorem WellShaped.child {cursor child : Cursor} (shape : cursor.WellShaped text)
    (h : child ∈ cursor.children) : child.WellShaped text :=
  shape.of_below (below_of_mem_children h)

/-- What is below a node lies in its range. -/
theorem WellShaped.range {top cursor : Cursor} (shape : top.WellShaped text)
    (h : top.Below cursor) :
    top.node.start ≤ cursor.node.start ∧ cursor.node.stop ≤ top.node.stop := by
  induction h with
  | self => exact ⟨Nat.le_refl _, Nat.le_refl _⟩
  | down above step ih =>
      have hInside := (shape _ above).inside _ step
      omega

/-- Of two nodes of an ordered list one comes first, unless they are the same. -/
theorem eq_or_apart {children : List Cursor} {left right : Cursor}
    (apart : children.Pairwise fun left right => left.node.stop ≤ right.node.start)
    (hLeft : left ∈ children) (hRight : right ∈ children) :
    left = right ∨ left.node.stop ≤ right.node.start ∨ right.node.stop ≤ left.node.start := by
  induction apart with
  | nil => cases hLeft
  | cons hFirst _ ih =>
      rcases List.mem_cons.mp hLeft with rfl | hLeft'
      · rcases List.mem_cons.mp hRight with rfl | hRight'
        · exact Or.inl rfl
        · exact Or.inr (Or.inl (hFirst right hRight'))
      · rcases List.mem_cons.mp hRight with rfl | hRight'
        · exact Or.inr (Or.inr (hFirst left hLeft'))
        · exact ih hLeft' hRight'

/-- Nodes that cover something and begin at one place lie below the same child. -/
theorem WellShaped.same_child {cursor left right first second : Cursor}
    (shape : cursor.WellShaped text) (hLeft : left ∈ cursor.children)
    (hRight : right ∈ cursor.children) (hFirst : left.Below first) (hSecond : right.Below second)
    (hFirstSize : first.node.start < first.node.stop)
    (hSecondSize : second.node.start < second.node.stop)
    (hStart : first.node.start = second.node.start) : left = right := by
  have hFirstRange := (shape.child hLeft).range hFirst
  have hSecondRange := (shape.child hRight).range hSecond
  rcases eq_or_apart (shape cursor .self).apart hLeft hRight with hSame | hApart
  · exact hSame
  · omega

/-- Tags that are a name, or a property of a name. -/
def IsPlainTag (tag : Cursor) : Prop :=
  tag.kind = .identifier ∨
    tag.kind = .memberExpression ∧
      ∃ object, tag.child? .object = some object ∧ object.kind = .identifier

/-- Calls of a plain tag. -/
def IsPlainCall (call : Cursor) : Prop :=
  call.kind = .callExpression ∧ ∃ tag, call.child? .function = some tag ∧ tag.IsPlainTag

theorem eq_of_below_identifier {identifier cursor : Cursor}
    (shape : identifier.WellShaped text) (hKind : identifier.kind = .identifier)
    (h : identifier.Below cursor) : cursor = identifier := by
  rcases below_iff.mp h with rfl | ⟨child, hChild, _⟩
  · rfl
  · rw [((shape identifier .self).leaf hKind).1] at hChild
    cases hChild

theorem IsPlainTag.covers {tag : Cursor} (plain : tag.IsPlainTag) (shape : tag.WellShaped text) :
    tag.node.start < tag.node.stop := by
  rcases plain with hName | ⟨hMember, object, hObject, hName⟩
  · exact ((shape tag .self).leaf hName).2
  · have hBelow := Below.self.role hObject
    have hStart := (shape tag .self).object hMember object hObject
    have hSize := ((shape object hBelow).leaf hName).2
    have hRange := shape.range hBelow
    omega

/-- At its beginning a plain tag has nothing but itself and a name. -/
theorem IsPlainTag.kind_of_below {tag cursor : Cursor} (plain : tag.IsPlainTag)
    (shape : tag.WellShaped text) (h : tag.Below cursor)
    (hSize : cursor.node.start < cursor.node.stop)
    (hStart : cursor.node.start = tag.node.start) :
    cursor.kind = .identifier ∨ cursor.kind = .memberExpression := by
  rcases plain with hName | ⟨hMember, object, hObject, hName⟩
  · rw [eq_of_below_identifier shape hName h]
    exact Or.inl hName
  · rcases below_iff.mp h with rfl | ⟨child, hChild, h⟩
    · exact Or.inr hMember
    · have hBelow := Below.self.role hObject
      have hObjectStart := (shape tag .self).object hMember object hObject
      have hObjectSize := ((shape object hBelow).leaf hName).2
      have hSame : child = object :=
        shape.same_child hChild (mem_children_of_child? hObject) h .self hSize hObjectSize
          (by omega)
      subst hSame
      rw [eq_of_below_identifier (shape.child hChild) hName h]
      exact Or.inl hName

theorem IsPlainCall.covers {call : Cursor} (plain : call.IsPlainCall)
    (shape : call.WellShaped text) : call.node.start < call.node.stop := by
  obtain ⟨hKind, tag, hTag, hPlain⟩ := plain
  have hBelow := Below.self.role hTag
  have hSize := hPlain.covers (shape.of_below hBelow)
  have hStart := (shape call .self).callee hKind tag hTag
  have hRange := shape.range hBelow
  omega

/-- The tag of a plain call stands at the beginning, so no other plain call begins there. -/
theorem IsPlainCall.start_ne {call child lower : Cursor} (plain : call.IsPlainCall)
    (shape : call.WellShaped text) (hChild : child ∈ call.children) (h : child.Below lower)
    (hLower : lower.IsPlainCall) : lower.node.start ≠ call.node.start := by
  intro hStart
  obtain ⟨hKind, tag, hTag, hPlain⟩ := plain
  have hMem := mem_children_of_child? hTag
  have hTagSize := hPlain.covers (shape.child hMem)
  have hTagStart := (shape call .self).callee hKind tag hTag
  have hSize := hLower.covers ((shape.child hChild).of_below h)
  have hSame : child = tag :=
    shape.same_child hChild hMem h .self hSize hTagSize (by omega)
  subst hSame
  rcases hPlain.kind_of_below (shape.child hChild) h hSize (by omega) with hOther | hOther
  · simp [hLower.1] at hOther
  · simp [hLower.1] at hOther

/-- The place where it begins tells a plain call from all others of the tree. -/
theorem IsPlainCall.eq_of_start {top first second : Cursor} (shape : top.WellShaped text)
    (hFirst : top.Below first) (hSecond : top.Below second) (plain : first.IsPlainCall)
    (plain' : second.IsPlainCall) (hStart : first.node.start = second.node.start) :
    first = second := by
  induction top using induction_down with
  | step top ih =>
      rcases below_iff.mp hFirst with rfl | ⟨left, hLeft, hFirst'⟩
      · rcases below_iff.mp hSecond with rfl | ⟨right, hRight, hSecond'⟩
        · rfl
        · exact absurd hStart.symm (plain.start_ne shape hRight hSecond' plain')
      · rcases below_iff.mp hSecond with rfl | ⟨right, hRight, hSecond'⟩
        · exact absurd hStart (plain'.start_ne shape hLeft hFirst' plain)
        · have hSame : left = right :=
            shape.same_child hLeft hRight hFirst' hSecond'
              (plain.covers ((shape.child hLeft).of_below hFirst'))
              (plain'.covers ((shape.child hRight).of_below hSecond')) hStart
          subst hSame
          exact ih left hLeft (shape.child hLeft) hFirst' hSecond'

end Cursor

namespace SyntaxTree

/-- All nodes of a tree keep the promise of the parser. -/
def WellShaped (tree : SyntaxTree) : Prop :=
  tree.top.WellShaped tree.text

instance (tree : SyntaxTree) : Decidable tree.WellShaped :=
  inferInstanceAs (Decidable (tree.top.WellShaped tree.text))

/-- The ranges of all nodes lie between characters of the text. -/
def OnBoundaries (tree : SyntaxTree) : Prop :=
  ∀ cursor, tree.top.Below cursor →
    Text.IsBoundary tree.text cursor.node.start ∧ Text.IsBoundary tree.text cursor.node.stop

instance (tree : SyntaxTree) : Decidable tree.OnBoundaries :=
  decidable_of_iff (∀ cursor ∈ tree.top.walk,
      Text.IsBoundary tree.text cursor.node.start ∧
        Text.IsBoundary tree.text cursor.node.stop) <| by
    simp only [Cursor.mem_walk_iff, OnBoundaries]

end SyntaxTree

end ComponentQueries
