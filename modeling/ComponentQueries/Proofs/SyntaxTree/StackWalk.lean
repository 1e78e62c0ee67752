import ComponentQueries.Proofs.SyntaxTree.DocumentOrder
import ComponentQueries.Proofs.SyntaxTree.NodeBuilders
import Mathlib.Data.List.Basic
import Mathlib.Logic.Function.Iterate

/-! Going down a tree with a stack, and going up from parent to parent. The stack yields the
nodes of a subtree in the order of the document, and a node is yielded exactly from those nodes
that going up from it leads to. -/
namespace ComponentQueries

/-- A walk under way: the nodes that wait on a stack, the next one at its end, and the nodes
that were yielded. -/
structure StackWalk where
  waiting : List Cursor
  yielded : List Cursor

namespace StackWalk

/-- The beginning of a walk, at which only the first node waits. -/
def start (first : Cursor) : StackWalk := ⟨[first], []⟩

/-- One round takes the node at the end of the stack and yields it. Its children are put on the
stack in reverse, so that the first of them is the next to be taken. -/
def round (walk : StackWalk) : StackWalk :=
  match walk.waiting.getLast? with
  | none => walk
  | some current =>
    ⟨walk.waiting.dropLast ++ current.children.reverse, walk.yielded ++ [current]⟩

/-- What a walk still has to yield: the subtrees of all that waits, beginning at the end of the
stack. -/
def toCome (walk : StackWalk) : List Cursor :=
  walk.waiting.reverse.flatMap Cursor.walk

theorem toCome_eq_nil_iff (walk : StackWalk) : walk.toCome = [] ↔ walk.waiting = [] := by
  constructor
  · intro h
    cases hLast : walk.waiting.getLast? with
    | none => exact List.getLast?_eq_none_iff.mp hLast
    | some current =>
        have hWalk := List.flatMap_eq_nil_iff.mp h current
          (List.mem_reverse.mpr (List.mem_of_getLast? hLast))
        rw [Cursor.walk_eq] at hWalk
        cases hWalk
  · intro h
    rw [toCome, h]
    rfl

/-- The subtree of the node at the end of the stack comes first. -/
theorem toCome_of_getLast? {walk : StackWalk} {current : Cursor}
    (h : walk.waiting.getLast? = some current) :
    walk.toCome = current :: walk.round.toCome := by
  have hStack : walk.waiting.dropLast ++ [current] = walk.waiting :=
    List.dropLast_append_getLast? current h
  rw [toCome, ← hStack, List.reverse_append, List.reverse_singleton, List.singleton_append,
    List.flatMap_cons, Cursor.walk_eq, round, h, toCome]
  -- The children were put on in reverse, so they come off in their order.
  simp

/-- A round moves the first node of what is to come to what was yielded. -/
theorem round_moves_first (walk : StackWalk) :
    walk.round.yielded = walk.yielded ++ walk.toCome.take 1 ∧
      walk.round.toCome = walk.toCome.drop 1 := by
  cases hLast : walk.waiting.getLast? with
  | none =>
      have hNone : walk.toCome = [] :=
        (toCome_eq_nil_iff walk).mpr (List.getLast?_eq_none_iff.mp hLast)
      have hRound : walk.round = walk := by rw [round, hLast]
      simp [hRound, hNone]
  | some current =>
      rw [toCome_of_getLast? hLast]
      refine ⟨?_, rfl⟩
      rw [round, hLast]
      rfl

/-- A number of rounds moves as many nodes. -/
theorem iterate_round_moves (walk : StackWalk) (rounds : Nat) :
    (round^[rounds] walk).yielded = walk.yielded ++ walk.toCome.take rounds ∧
      (round^[rounds] walk).toCome = walk.toCome.drop rounds := by
  induction rounds with
  | zero => simp
  | succ rounds ih =>
      obtain ⟨hYielded, hToCome⟩ := ih
      obtain ⟨hNext, hRest⟩ := round_moves_first (round^[rounds] walk)
      rw [Function.iterate_succ_apply']
      constructor
      · rw [hNext, hYielded, hToCome, List.append_assoc, ← List.take_add]
      · rw [hRest, hToCome, List.drop_drop]

theorem toCome_start (first : Cursor) : (start first).toCome = first.walk := by
  simp [toCome, start]

/-- The stack yields the walk node by node, and is empty as soon as the whole walk is yielded. -/
theorem iterate_round_start (first : Cursor) (rounds : Nat) :
    (round^[rounds] (start first)).yielded = first.walk.take rounds ∧
      ((round^[rounds] (start first)).waiting = [] ↔ first.walk.length ≤ rounds) := by
  obtain ⟨hYielded, hToCome⟩ := iterate_round_moves (start first) rounds
  rw [toCome_start] at hYielded hToCome
  refine ⟨hYielded, ?_⟩
  rw [← toCome_eq_nil_iff, hToCome, List.drop_eq_nil_iff]

end StackWalk

namespace Cursor

/-- The node that is a number of parents up from another, if there are as many. -/
def up? (node : Cursor) (count : Nat) : Option Cursor :=
  (fun place => place.bind parent?)^[count] (some node)

theorem up?_succ (node : Cursor) (count : Nat) :
    node.up? (count + 1) = node.parent?.bind (·.up? count) := by
  rw [up?, Function.iterate_succ_apply, Option.bind_some]
  cases node.parent? with
  | none => exact Function.iterate_fixed rfl count
  | some parent => rfl

/-- The enclosing nodes are reached by going from parent to parent. -/
theorem getElem?_ancestors (node : Cursor) (index : Nat) :
    node.ancestors[index]? = node.up? (index + 1) := by
  induction index generalizing node with
  | zero =>
      obtain ⟨node, trail⟩ := node
      cases trail <;> rfl
  | succ index ih =>
      rw [up?_succ]
      obtain ⟨node, trail⟩ := node
      cases trail with
      | nil => rfl
      | cons crumb trail => exact ih ⟨crumb.parent, trail⟩

/-- Going down from a node, by a recursion or with a stack, yields all that is below it, once
each and in document order. A node of a tree is yielded exactly from itself and from the nodes
that are reached from it by going up from parent to parent. -/
theorem walk_matches_ancestors (tree : SyntaxTree) (top : Cursor) :
    (∀ rounds,
      (StackWalk.round^[rounds] (StackWalk.start top)).yielded = top.walk.take rounds ∧
      ((StackWalk.round^[rounds] (StackWalk.start top)).waiting = [] ↔
        top.walk.length ≤ rounds)) ∧
    top.walk = top :: top.children.flatMap walk ∧
    top.walk.Nodup ∧
    top.walk.Pairwise Precedes ∧
    (∀ node, node ∈ top.walk ↔ top.Below node) ∧
    ∀ node, tree.top.Below node →
      (∀ index, node.ancestors[index]? = node.up? (index + 1)) ∧
      (node ∈ top.walk ↔ top = node ∨ top ∈ node.ancestors) := by
  refine ⟨StackWalk.iterate_round_start top, walk_eq top, walk_nodup top, walk_in_order top,
    fun node => mem_walk_iff, fun node hPlace => ⟨getElem?_ancestors node, ?_⟩⟩
  rw [mem_walk_iff, ← List.mem_cons]
  exact (mem_ancestors_iff hPlace).symm

/-- A statement that is a name of one letter, at an offset. -/
def nameStatement (start : Nat) : Node :=
  .phrase (.other "expression_statement") start (start + 2) none
    [.phrase .identifier start (start + 1) none [], .token ";" (start + 1)]

/-- The tree of `a; b; c;` with a line feed. -/
def threeStatements : SyntaxTree :=
  ⟨.phrase .program 0 9 none [nameStatement 0, nameStatement 3, nameStatement 6],
    "a; b; c;\n".toList, "/a.js", .javascript⟩

/-- The place of a statement among the three. -/
def statementPlace (index : Nat) : Cursor :=
  ⟨nameStatement (3 * index), [⟨threeStatements.root, index⟩]⟩

/-- The place of the name in the second statement. -/
def namePlace : Cursor :=
  ⟨.phrase .identifier 3 4 none [], ⟨nameStatement 3, 0⟩ :: (statementPlace 1).trail⟩

/-- The names are yielded in their order. After five rounds the stack holds the last statement
and, above it, the semicolon and the name of the second. That name is yielded from the second
statement, which encloses it, and not from the third. -/
theorem walk_matches_ancestors_threeStatements :
    (threeStatements.walk.filter (·.kind = .identifier)).map threeStatements.textOf =
        ["a", "b", "c"] ∧
      (StackWalk.round^[5] (StackWalk.start threeStatements.top)).yielded =
        threeStatements.top.walk.take 5 ∧
      (StackWalk.round^[5] (StackWalk.start threeStatements.top)).waiting.map address =
        [[2], [1, 1], [1, 0]] ∧
      threeStatements.top.Below namePlace ∧ statementPlace 1 ∈ namePlace.ancestors ∧
      namePlace ∈ (statementPlace 1).walk ∧ namePlace ∉ (statementPlace 2).walk := by
  have hStatement : statementPlace 1 ∈ threeStatements.top.children := .tail _ (.head _)
  have hName : namePlace ∈ (statementPlace 1).children := .head _
  have hPlace : threeStatements.top.Below namePlace :=
    (below_of_mem_children hStatement).down hName
  have hAncestors : namePlace.ancestors = [statementPlace 1, threeStatements.top] := rfl
  obtain ⟨hStack, _⟩ := walk_matches_ancestors threeStatements threeStatements.top
  obtain ⟨_, _, _, _, _, hSecond⟩ := walk_matches_ancestors threeStatements (statementPlace 1)
  obtain ⟨_, _, _, _, _, hThird⟩ := walk_matches_ancestors threeStatements (statementPlace 2)
  have hEnclosing : statementPlace 1 ∈ namePlace.ancestors := by simp [hAncestors]
  refine ⟨by decide +kernel, (hStack 5).1, by decide +kernel, hPlace, hEnclosing,
    (hSecond namePlace hPlace).2.mpr (Or.inr hEnclosing), fun hWalk => ?_⟩
  -- Nodes cannot be compared by a test, but their addresses can.
  have hAddress : (statementPlace 2).address ∈ (namePlace :: namePlace.ancestors).map address :=
    List.mem_map_of_mem (List.mem_cons.mpr ((hThird namePlace hPlace).2.mp hWalk))
  exact absurd hAddress (by decide +kernel)

end Cursor

end ComponentQueries
