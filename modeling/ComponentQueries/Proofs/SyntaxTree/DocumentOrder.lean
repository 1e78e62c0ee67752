import ComponentQueries.Proofs.SyntaxTree.Places

/-! The order of a document. A place is known by its address, which is the way from the root
down to it, and the walk goes through the places in the order of their addresses. -/
namespace ComponentQueries

namespace Cursor

/-- The way from the root down to a node, by the indices of the children to take. -/
def address (cursor : Cursor) : List Nat :=
  (cursor.trail.map Crumb.index).reverse

/-- One node comes before another in the document: it is above it, or it is in an earlier
branch. -/
def Precedes (first second : Cursor) : Prop :=
  first.address < second.address

theorem trail_of_mem_childrenFrom {parent : Node} {trail : List Crumb} {child : Cursor}
    (nodes : List Node) (index : Nat) (h : child ∈ childrenFrom parent trail index nodes) :
    ∃ position, index ≤ position ∧ child.trail = ⟨parent, position⟩ :: trail := by
  induction nodes generalizing index with
  | nil => simp [childrenFrom] at h
  | cons node others ih =>
      rcases List.mem_cons.mp h with rfl | h
      · exact ⟨index, Nat.le_refl _, rfl⟩
      · obtain ⟨position, hPosition, hTrail⟩ := ih (index + 1) h
        exact ⟨position, by omega, hTrail⟩

theorem address_of_mem_children {cursor child : Cursor} (h : child ∈ cursor.children) :
    ∃ position, child.address = cursor.address ++ [position] := by
  obtain ⟨position, -, hTrail⟩ := trail_of_mem_childrenFrom _ 0 h
  exact ⟨position, by simp [address, hTrail]⟩

/-- Siblings are numbered in their order. -/
theorem childrenFrom_in_order (parent : Node) (trail : List Crumb) (nodes : List Node)
    (index : Nat) :
    (childrenFrom parent trail index nodes).Pairwise fun left right =>
      ∃ first second, first < second ∧ left.trail = ⟨parent, first⟩ :: trail ∧
        right.trail = ⟨parent, second⟩ :: trail := by
  induction nodes generalizing index with
  | nil => exact .nil
  | cons node others ih =>
      rw [childrenFrom, List.pairwise_cons]
      refine ⟨fun right hRight => ?_, ih (index + 1)⟩
      obtain ⟨position, hPosition, hTrail⟩ := trail_of_mem_childrenFrom others (index + 1) hRight
      exact ⟨index, position, by omega, rfl, hTrail⟩

/-- Whatever is below a node has an address that goes on from that of the node. -/
theorem Below.address {top cursor : Cursor} (h : top.Below cursor) :
    ∃ rest, cursor.address = top.address ++ rest := by
  induction h with
  | self => exact ⟨[], (List.append_nil _).symm⟩
  | down _ step ih =>
      obtain ⟨rest, hRest⟩ := ih
      obtain ⟨position, hPosition⟩ := address_of_mem_children step
      exact ⟨rest ++ [position], by rw [hPosition, hRest, List.append_assoc]⟩

theorem precedes_of_below_child {cursor child lower : Cursor} (hChild : child ∈ cursor.children)
    (h : child.Below lower) : cursor.Precedes lower := by
  obtain ⟨position, hPosition⟩ := address_of_mem_children hChild
  obtain ⟨rest, hRest⟩ := h.address
  have hOrder : cursor.address ++ [] < cursor.address ++ (position :: rest) :=
    List.append_left_lt (List.nil_lt_cons _ _)
  rw [List.append_nil] at hOrder
  rw [Precedes, hRest, hPosition, List.append_assoc]
  exact hOrder

/-- All that is below one child comes before all that is below a later one. -/
theorem children_in_order (cursor : Cursor) :
    cursor.children.Pairwise fun left right =>
      ∀ lower, left.Below lower → ∀ other, right.Below other → lower.Precedes other := by
  refine (childrenFrom_in_order cursor.node cursor.trail cursor.node.children 0).imp ?_
  rintro left right ⟨first, second, hOrder, hLeft, hRight⟩ lower hLower other hOther
  obtain ⟨rest, hRest⟩ := hLower.address
  obtain ⟨rest', hRest'⟩ := hOther.address
  have hLeftAddress : left.address = cursor.address ++ [first] := by simp [address, hLeft]
  have hRightAddress : right.address = cursor.address ++ [second] := by simp [address, hRight]
  rw [Precedes, hRest, hRest', hLeftAddress, hRightAddress, List.append_assoc, List.append_assoc]
  exact List.append_left_lt (List.cons_lt_cons_iff.mpr (Or.inl hOrder))

theorem namedChildren_in_order (cursor : Cursor) :
    cursor.namedChildren.Pairwise fun left right =>
      ∀ lower, left.Below lower → ∀ other, right.Below other → lower.Precedes other :=
  (children_in_order cursor).filter _

/-- The walk lists the nodes of a subtree in the order of the document. A node comes before
what is below it, and one child with all below it comes before the next. -/
theorem walk_in_order (cursor : Cursor) : cursor.walk.Pairwise Precedes := by
  induction cursor using induction_down with
  | step cursor ih =>
      rw [walk_eq, List.pairwise_cons, List.pairwise_flatMap]
      refine ⟨fun lower hLower => ?_, ih, ?_⟩
      · obtain ⟨child, hChild, hLower⟩ := List.mem_flatMap.mp hLower
        exact precedes_of_below_child hChild (mem_walk_iff.mp hLower)
      · refine (children_in_order cursor).imp fun h lower hLower other hOther => ?_
        exact h lower (mem_walk_iff.mp hLower) other (mem_walk_iff.mp hOther)

theorem Precedes.asymm {first second : Cursor} (h : first.Precedes second) :
    ¬second.Precedes first :=
  List.lt_asymm h

/-- The walk lists no node twice. -/
theorem walk_nodup (cursor : Cursor) : cursor.walk.Nodup := by
  apply (walk_in_order cursor).imp
  rintro first second hBefore rfl
  exact hBefore.asymm hBefore

/-- What is ordered by a node first, and by something else under the same node. -/
theorem Precedes.lex_asymm {first second : Cursor} {further further' : Prop}
    (h : first.Precedes second ∨ first = second ∧ further) (hFurther : further → ¬further') :
    ¬(second.Precedes first ∨ second = first ∧ further') := by
  rintro (h' | ⟨rfl, h'⟩)
  · rcases h with h | ⟨rfl, -⟩
    · exact h.asymm h'
    · exact h'.asymm h'
  · rcases h with h | ⟨-, h⟩
    · exact h.asymm h
    · exact hFurther h h'

theorem parent?_of_mem_children {cursor child : Cursor} (h : child ∈ cursor.children) :
    child.parent? = some cursor := by
  obtain ⟨position, -, hTrail⟩ := trail_of_mem_childrenFrom _ 0 h
  simp only [parent?, hTrail]

theorem ancestors_of_mem_children {cursor child : Cursor} (h : child ∈ cursor.children) :
    child.ancestors = cursor :: cursor.ancestors := by
  obtain ⟨position, -, hTrail⟩ := trail_of_mem_childrenFrom _ 0 h
  simp only [ancestors, hTrail, along]

/-- What is above a child is the child or is above its parent. -/
theorem below_child_iff {scope cursor child : Cursor} (hChild : child ∈ cursor.children) :
    scope.Below child ↔ scope = child ∨ scope.Below cursor := by
  constructor
  · intro h
    cases h with
    | self => exact Or.inl rfl
    | @down other _ above step =>
        have hParent := (parent?_of_mem_children step).symm.trans (parent?_of_mem_children hChild)
        exact Or.inr (Option.some.inj hParent ▸ above)
  · rintro (rfl | h)
    · exact .self
    · exact h.down hChild

theorem Below.antisymm {upper lower : Cursor} (h : upper.Below lower) (h' : lower.Below upper) :
    upper = lower := by
  rcases below_iff.mp h with rfl | ⟨child, hChild, h⟩
  · rfl
  · -- A lower node comes later, so the two cannot be below each other.
    have hLater := precedes_of_below_child hChild h
    rcases below_iff.mp h' with rfl | ⟨child', hChild', h'⟩
    · exact absurd hLater hLater.asymm
    · exact absurd (precedes_of_below_child hChild' h') hLater.asymm

section Around

variable {root : Node}

/-- The nodes from a place of a tree up to the root are all that the place is below. -/
theorem mem_ancestors_iff {cursor scope : Cursor} (hPlace : (ofRoot root).Below cursor) :
    scope ∈ cursor :: cursor.ancestors ↔ scope.Below cursor := by
  induction hPlace with
  | self =>
      constructor
      · intro h
        rw [List.mem_singleton.mp h]
        exact .self
      · intro h
        cases h with
        | self => exact List.mem_cons_self ..
        | down above step => cases parent?_of_mem_children step
  | @down middle child _ step ih =>
      rw [ancestors_of_mem_children step, List.mem_cons, ih, below_child_iff step]

theorem below_of_below {cursor scope : Cursor} (hPlace : (ofRoot root).Below cursor)
    (h : scope.Below cursor) : (ofRoot root).Below scope := by
  induction hPlace with
  | self =>
      rw [List.mem_singleton.mp ((mem_ancestors_iff .self).mpr h)]
      exact .self
  | @down middle child above step ih =>
      rcases (below_child_iff step).mp h with rfl | h
      · exact above.down step
      · exact ih h

/-- One node is inside another. -/
def Inside (inner outer : Cursor) : Prop :=
  outer.Below inner ∧ inner ≠ outer

theorem Inside.asymm {inner outer : Cursor} (h : inner.Inside outer) : ¬outer.Inside inner :=
  fun h' => h.2 (h'.1.antisymm h.1)

/-- The nodes around a place are listed from the inside to the outside. -/
theorem ancestors_in_order {cursor : Cursor} (hPlace : (ofRoot root).Below cursor) :
    (cursor :: cursor.ancestors).Pairwise Inside := by
  induction hPlace with
  | self => exact List.pairwise_singleton _ _
  | @down middle child above step ih =>
      rw [ancestors_of_mem_children step, List.pairwise_cons]
      refine ⟨fun outer hOuter => ?_, ih⟩
      have hBelow : outer.Below middle := (mem_ancestors_iff above).mp hOuter
      refine ⟨hBelow.down step, ?_⟩
      rintro rfl
      have hLater := precedes_of_below_child step .self
      rw [hBelow.antisymm (below_of_mem_children step)] at hLater
      exact hLater.asymm hLater

end Around

/-- The nearest node around another that is of a kind. -/
def IsNearestAround (wanted : Kind → Prop) (scope cursor : Cursor) : Prop :=
  ∃ inner outer, cursor.ancestors = inner ++ scope :: outer ∧ wanted scope.kind ∧
    ∀ between ∈ inner, ¬wanted between.kind

theorem isNearestAround_iff {wanted : Kind → Prop} [DecidablePred wanted]
    {scope cursor : Cursor} :
    scope.IsNearestAround wanted cursor ↔
      cursor.ancestors.find? (fun other => wanted other.kind) = some scope := by
  rw [List.find?_eq_some_iff_append]
  constructor
  · rintro ⟨inner, outer, hSplit, hWanted, hInner⟩
    exact ⟨decide_eq_true hWanted, inner, outer, hSplit, fun between h => by
      simpa using hInner between h⟩
  · rintro ⟨hWanted, inner, outer, hSplit, hInner⟩
    exact ⟨inner, outer, hSplit, of_decide_eq_true hWanted, fun between h => by
      simpa using hInner between h⟩

end Cursor

/-- In a list that is in order, the first answer is the one that nothing earlier gives. -/
theorem findSome?_eq_some_iff_of_pairwise {α β : Type} {earlier : α → α → Prop} {list : List α}
    {f : α → Option β} {answer : β} (asymm : ∀ {a b}, earlier a b → ¬earlier b a)
    (ordered : list.Pairwise earlier) :
    list.findSome? f = some answer ↔
      ∃ a ∈ list, f a = some answer ∧ ∀ b ∈ list, earlier b a → f b = none := by
  induction list with
  | nil => simp
  | cons first rest ih =>
      obtain ⟨hFirst, hRest⟩ := List.pairwise_cons.mp ordered
      rw [List.findSome?_cons]
      cases hAnswer : f first with
      | none =>
          rw [ih hRest]
          constructor
          · rintro ⟨a, hMem, ha, hEarlier⟩
            refine ⟨a, List.mem_cons_of_mem _ hMem, ha, fun b hb hba => ?_⟩
            rcases List.mem_cons.mp hb with rfl | hb
            · exact hAnswer
            · exact hEarlier b hb hba
          · rintro ⟨a, hMem, ha, hEarlier⟩
            rcases List.mem_cons.mp hMem with rfl | hMem
            · rw [hAnswer] at ha
              cases ha
            · exact ⟨a, hMem, ha, fun b hb => hEarlier b (List.mem_cons_of_mem _ hb)⟩
      | some found =>
          constructor
          · intro h
            refine ⟨first, List.mem_cons_self .., hAnswer.trans h, fun b hb hbFirst => ?_⟩
            rcases List.mem_cons.mp hb with rfl | hb
            · exact absurd hbFirst (asymm hbFirst)
            · exact absurd hbFirst (asymm (hFirst b hb))
          · rintro ⟨a, hMem, ha, hEarlier⟩
            rcases List.mem_cons.mp hMem with rfl | hMem
            · exact hAnswer.symm.trans ha
            · -- Something later cannot be the first while the first one has an answer.
              have hNone := hEarlier first (List.mem_cons_self ..) (hFirst a hMem)
              rw [hAnswer] at hNone
              cases hNone

end ComponentQueries
