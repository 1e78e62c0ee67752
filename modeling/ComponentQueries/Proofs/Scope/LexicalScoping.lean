import ComponentQueries.Proofs.Scope.Declarations
import ComponentQueries.Proofs.SyntaxTree.DocumentOrder
import ComponentQueries.Proofs.SyntaxTree.NodeBuilders
import Mathlib.Data.List.Find
import Mathlib.Data.List.Nodup

/-! Lexical scoping. Every declaration belongs to one scope, and a name means the earliest
declaration of it in the innermost scope that has one. -/
namespace ComponentQueries

namespace SyntaxTree

/-- The scope that a declaration belongs to: the nearest node around it that is wanted, and
the program if there is none. -/
def IsOwner (tree : SyntaxTree) (wanted : Kind → Prop) (scope declaration : Cursor) : Prop :=
  scope.IsNearestAround wanted declaration ∨
    scope = tree.top ∧ ∀ outer ∈ declaration.ancestors, ¬wanted outer.kind

/-- A moment at which names are declared. A node declares names in the scopes around it
first, and a function then declares its parameters inside. -/
structure Moment where
  node : Cursor
  inside : Bool

/-- Moments follow the order of the document. -/
def Moment.Before (first second : Moment) : Prop :=
  first.node.Precedes second.node ∨
    first.node = second.node ∧ first.inside = false ∧ second.inside = true

/-- The scope that gets names at a moment, and their bindings. -/
inductive Gives (tree : SyntaxTree) : Moment → Cursor → List Binding → Prop where
  | imports {node : Cursor} (isImport : node.kind = .importStatement) :
      Gives tree ⟨node, false⟩ tree.top (tree.importBindings node)
  | hoisted {node declaration scope : Cursor} (isDeclarator : node.kind = .variableDeclarator)
      (hParent : node.parent? = some declaration)
      (isHoisted : declaration.kind = .variableDeclaration)
      (owner : tree.IsOwner (fun kind => kind.isFunctionScope = true ∨ kind = .program)
        scope node) :
      Gives tree ⟨node, false⟩ scope (tree.declaratorBindings node)
  | declarator {node scope : Cursor} (isDeclarator : node.kind = .variableDeclarator)
      (notHoisted : ∀ declaration, node.parent? = some declaration →
        declaration.kind ≠ .variableDeclaration)
      (owner : tree.IsOwner (fun kind => kind.isScope = true) scope node) :
      Gives tree ⟨node, false⟩ scope (tree.declaratorBindings node)
  | function {node scope : Cursor}
      (isFunction : node.kind = .functionDeclaration ∨ node.kind = .generatorFunctionDeclaration)
      (owner : tree.IsOwner (fun kind => kind.isScope = true) scope node) :
      Gives tree ⟨node, false⟩ scope (tree.definitionBindings .function node)
  | classDefinition {node scope : Cursor} (isClass : node.kind = .classDeclaration)
      (owner : tree.IsOwner (fun kind => kind.isScope = true) scope node) :
      Gives tree ⟨node, false⟩ scope (tree.definitionBindings .classDefinition node)
  | parameters {node : Cursor} (isFunction : node.kind.isFunctionScope = true) :
      Gives tree ⟨node, true⟩ node (tree.parameterBindings node)

/-- A scope has a binding of a name. -/
def Owns (tree : SyntaxTree) (scope : Cursor) (name : String) : Prop :=
  ∃ moment bindings, tree.top.Below moment.node ∧ tree.Gives moment scope bindings ∧
    ∃ binding ∈ bindings, binding.name = name

/-- The binding of a name that comes first in the document among those of a scope. -/
def IsEarliest (tree : SyntaxTree) (scope : Cursor) (name : String) (binding : Binding) : Prop :=
  ∃ moment before after, tree.top.Below moment.node ∧
    tree.Gives moment scope (before ++ binding :: after) ∧ binding.name = name ∧
    (∀ other ∈ before, other.name ≠ name) ∧
    ∀ sooner bindings, tree.top.Below sooner.node → sooner.Before moment →
      tree.Gives sooner scope bindings → ∀ other ∈ bindings, other.name ≠ name

/-- No two scopes of a tree have the same key. -/
def ScopeKeysApart (tree : SyntaxTree) : Prop :=
  ∀ first second, tree.top.Below first → tree.top.Below second → first.kind.isScope = true →
    second.kind.isScope = true → first.key = second.key → first = second

variable {tree : SyntaxTree}

theorem walk_nodup (tree : SyntaxTree) : tree.walk.Nodup :=
  tree.top.walk_nodup

instance (tree : SyntaxTree) : Decidable tree.ScopeKeysApart :=
  decidable_of_iff ((tree.walk.filter (·.kind.isScope)).map Cursor.key).Nodup <| by
    rw [List.nodup_map_iff_inj_on ((walk_nodup tree).filter _)]
    simp only [List.mem_filter, walk, Cursor.mem_walk_iff, ScopeKeysApart]
    constructor
    · intro h first second hFirst hSecond hScope hScope'
      exact h first ⟨hFirst, hScope⟩ second ⟨hSecond, hScope'⟩
    · rintro h first ⟨hFirst, hScope⟩ second ⟨hSecond, hScope'⟩
      exact h first second hFirst hSecond hScope hScope'

/-- The owner is the nearest wanted node around, or the program if there is none. -/
theorem isOwner_iff {wanted : Kind → Prop} [DecidablePred wanted] {scope declaration : Cursor} :
    tree.IsOwner wanted scope declaration ↔
      (declaration.ancestors.find? (fun outer => wanted outer.kind)).getD tree.top = scope := by
  rw [IsOwner, Cursor.isNearestAround_iff]
  cases hFound : declaration.ancestors.find? (fun outer => wanted outer.kind) with
  | none =>
      have hNone : ∀ outer ∈ declaration.ancestors, ¬wanted outer.kind := by
        intro outer hOuter
        simpa using List.find?_eq_none.mp hFound outer hOuter
      simp only [reduceCtorEq, false_or, Option.getD_none]
      exact ⟨fun h => h.1.symm, fun h => ⟨h.symm, hNone⟩⟩
  | some found =>
      have hMem := List.mem_of_find?_eq_some hFound
      have hWanted : wanted found.kind := by simpa using List.find?_some hFound
      constructor
      · rintro (h | ⟨-, hNone⟩)
        · exact Option.some.inj h
        · exact absurd hWanted (hNone found hMem)
      · intro h
        exact Or.inl (congrArg some h)

/-- The scope that owns a declaration is the nearest of the kinds that can own it. -/
theorem ownerOf_eq_iff {wanted : Kind → Prop} [DecidablePred wanted] {hoisted : Bool}
    {scope declaration : Cursor}
    (hWanted : ∀ kind : Kind, wanted kind ↔
      kind = .program ∨ (if hoisted then kind.isFunctionScope else kind.isScope) = true) :
    tree.ownerOf hoisted declaration = scope ↔ tree.IsOwner wanted scope declaration := by
  have hSame : (fun outer : Cursor => decide (wanted outer.kind)) = fun outer =>
      outer.kind == .program ||
        if hoisted then outer.kind.isFunctionScope else outer.kind.isScope := by
    funext outer
    rw [Bool.eq_iff_iff, decide_eq_true_iff, hWanted, Bool.or_eq_true, beq_iff_eq]
  rw [isOwner_iff, hSame]
  rfl

/-- The owner of a hoisted name is a function or the program. -/
theorem ownerOf_true_iff {scope declaration : Cursor} :
    tree.ownerOf true declaration = scope ↔
      tree.IsOwner (fun kind => kind.isFunctionScope = true ∨ kind = .program) scope declaration :=
  ownerOf_eq_iff fun _ => or_comm

/-- Names that are not hoisted belong to the nearest scope of any kind. -/
theorem ownerOf_false_iff {scope declaration : Cursor} :
    tree.ownerOf false declaration = scope ↔
      tree.IsOwner (fun kind => kind.isScope = true) scope declaration := by
  refine ownerOf_eq_iff fun kind => ⟨Or.inr, ?_⟩
  rintro (rfl | h)
  · rfl
  · exact h

/-- The owner of a declaration is a node of the tree. -/
theorem below_ownerOf {hoisted : Bool} {declaration : Cursor}
    (hPlace : tree.top.Below declaration) : tree.top.Below (tree.ownerOf hoisted declaration) := by
  unfold ownerOf
  dsimp only
  cases hFound : declaration.ancestors.find? _ with
  | none => exact .self
  | some owner =>
      have hMem : owner ∈ declaration :: declaration.ancestors :=
        List.mem_cons_of_mem _ (List.mem_of_find?_eq_some hFound)
      exact Cursor.below_of_below hPlace ((Cursor.mem_ancestors_iff hPlace).mp hMem)

/-- What the walk declares at a moment. -/
def given (tree : SyntaxTree) (moment : Moment) : Cursor × List Binding :=
  if moment.inside then
    (moment.node,
      if moment.node.kind.isFunctionScope then tree.parameterBindings moment.node else [])
  else tree.outerDeclarations moment.node

/-- Declarators are hoisted by the kind of their declaration. -/
theorem isHoisted_iff {declarator : Cursor} :
    isHoisted declarator = true ↔
      ∃ declaration, declarator.parent? = some declaration ∧
        declaration.kind = .variableDeclaration := by
  simp [isHoisted, Option.any_eq_true]

/-- What a moment gives is a function of the moment. -/
theorem Gives.given_eq {moment : Moment} {scope : Cursor} {bindings : List Binding}
    (h : tree.Gives moment scope bindings) : tree.given moment = (scope, bindings) := by
  cases h with
  | imports isImport => simp [given, outerDeclarations, isImport]
  | hoisted isDeclarator hParent hKind owner =>
      have hHoisted := isHoisted_iff.mpr ⟨_, hParent, hKind⟩
      simp [given, outerDeclarations, isDeclarator, hHoisted, ownerOf_true_iff.mpr owner]
  | declarator isDeclarator notHoisted owner =>
      have hHoisted : isHoisted _ = false := Bool.eq_false_iff.mpr fun h =>
        let ⟨declaration, hParent, hKind⟩ := isHoisted_iff.mp h
        notHoisted declaration hParent hKind
      simp [given, outerDeclarations, isDeclarator, hHoisted, ownerOf_false_iff.mpr owner]
  | function isFunction owner =>
      rcases isFunction with hKind | hKind
      · simp [given, outerDeclarations, hKind, ownerOf_false_iff.mpr owner]
      · simp [given, outerDeclarations, hKind, ownerOf_false_iff.mpr owner]
  | classDefinition isClass owner =>
      simp [given, outerDeclarations, isClass, ownerOf_false_iff.mpr owner]
  | parameters isFunction => simp [given, isFunction]

/-- A moment that has a binding gives what it has. -/
theorem gives_of_mem_given {moment : Moment} {binding : Binding}
    (h : binding ∈ (tree.given moment).2) :
    tree.Gives moment (tree.given moment).1 (tree.given moment).2 := by
  obtain ⟨node, inside⟩ := moment
  cases inside with
  | true =>
      by_cases hFunction : node.kind.isFunctionScope = true
      · simp only [given, if_true, hFunction]
        exact .parameters hFunction
      · simp [given, hFunction] at h
  | false =>
      simp only [given, Bool.false_eq_true, if_false] at h ⊢
      unfold outerDeclarations at h ⊢
      split at h
      · next hKind => exact .imports hKind
      · next hKind =>
          by_cases hHoisted : isHoisted node = true
          · obtain ⟨declaration, hParent, hDeclaration⟩ := isHoisted_iff.mp hHoisted
            rw [hHoisted]
            exact .hoisted hKind hParent hDeclaration (ownerOf_true_iff.mp rfl)
          · rw [Bool.eq_false_iff.mpr hHoisted]
            refine .declarator hKind (fun declaration hParent hDeclaration => ?_)
              (ownerOf_false_iff.mp rfl)
            exact hHoisted (isHoisted_iff.mpr ⟨declaration, hParent, hDeclaration⟩)
      · next hKind => exact .function (.inl hKind) (ownerOf_false_iff.mp rfl)
      · next hKind => exact .function (.inr hKind) (ownerOf_false_iff.mp rfl)
      · next hKind => exact .classDefinition hKind (ownerOf_false_iff.mp rfl)
      · cases h

/-- The moments of the walk, two for each node. -/
def moments (tree : SyntaxTree) : List Moment :=
  tree.walk.flatMap fun node => [⟨node, false⟩, ⟨node, true⟩]

/-- Each node of the tree has its two moments. -/
theorem mem_moments_iff {moment : Moment} :
    moment ∈ tree.moments ↔ tree.top.Below moment.node := by
  obtain ⟨node, inside⟩ := moment
  simp only [moments, List.mem_flatMap, walk, Cursor.mem_walk_iff]
  constructor
  · rintro ⟨other, hOther, h⟩
    rcases List.mem_pair.mp h with h | h
    · cases h
      exact hOther
    · cases h
      exact hOther
  · intro h
    exact ⟨node, h, by cases inside <;> simp⟩

theorem Moment.Before.asymm {first second : Moment} (h : first.Before second) :
    ¬second.Before first := by
  refine Cursor.Precedes.lex_asymm h ?_
  rintro ⟨hFirst, -⟩ ⟨-, hFirst'⟩
  rw [hFirst] at hFirst'
  cases hFirst'

/-- Moments come in the order of the walk, and what a node declares around itself comes before
its own parameters. -/
theorem moments_in_order (tree : SyntaxTree) : tree.moments.Pairwise Moment.Before := by
  rw [moments, List.pairwise_flatMap]
  constructor
  · intro node _
    rw [List.pairwise_pair]
    exact Or.inr ⟨rfl, rfl, rfl⟩
  · refine (Cursor.walk_in_order tree.top).imp ?_
    intro first second h moment hMoment moment' hMoment'
    rcases List.mem_pair.mp hMoment with rfl | rfl <;>
      rcases List.mem_pair.mp hMoment' with rfl | rfl <;> exact Or.inl h

/-- A node declares what its two moments give. -/
theorem declarations_eq (node : Cursor) :
    tree.declarations node =
      [(⟨node, false⟩ : Moment), ⟨node, true⟩].flatMap fun moment =>
        (tree.given moment).2.map ((tree.given moment).1, ·) := by
  simp [declarations, given]

/-- All declarations of a tree, moment by moment. -/
theorem walk_declarations_eq (tree : SyntaxTree) :
    tree.walk.flatMap tree.declarations =
      tree.moments.flatMap fun moment =>
        (tree.given moment).2.map ((tree.given moment).1, ·) := by
  rw [moments, List.flatMap_assoc]
  exact congrArg (List.flatMap · tree.walk) (funext declarations_eq)

/-- Names are given to nodes of the tree. -/
theorem below_given {moment : Moment} (hPlace : tree.top.Below moment.node) :
    tree.top.Below (tree.given moment).1 := by
  unfold given
  split
  · exact hPlace
  · unfold outerDeclarations
    split
    · exact .self
    · exact below_ownerOf hPlace
    · exact below_ownerOf hPlace
    · exact below_ownerOf hPlace
    · exact below_ownerOf hPlace
    · exact .self

/-- A key leads from a declaration back to the scope that owns it. -/
theorem ScopeKeysApart.given_key_iff (apart : tree.ScopeKeysApart) {moment : Moment}
    {scope : Cursor} (hPlace : tree.top.Below moment.node) (hScope : tree.top.Below scope)
    (isScope : scope.kind.isScope = true) :
    (tree.given moment).1.key = scope.key ↔ (tree.given moment).1 = scope := by
  constructor
  · intro h
    have hKind : (tree.given moment).1.kind = scope.kind := congrArg NodeKey.kind h
    exact apart _ _ (below_given hPlace) hScope (hKind ▸ isScope) isScope h
  · intro h
    rw [h]

end SyntaxTree

namespace Cursor

/-- A scope around a node, which may be the node itself. -/
def Encloses (scope cursor : Cursor) : Prop :=
  scope.kind.isScope = true ∧ scope.Below cursor

end Cursor

namespace ScopeTable

open SyntaxTree

variable {tree : SyntaxTree}

/-- The table of certain declarations. -/
def ofDeclarations (tree : SyntaxTree) (declared : List (Cursor × Binding)) : ScopeTable :=
  ⟨tree.top.key, declared.map fun (owner, binding) => (owner.key, binding)⟩

theorem lookup?_ofDeclarations (declared : List (Cursor × Binding)) (scope : NodeKey)
    (name : String) :
    (ofDeclarations tree declared).lookup? scope name =
      (declared.find? fun entry => entry.1.key = scope ∧ entry.2.name = name).map Prod.snd := by
  simp only [lookup?, ofDeclarations, List.find?_map, Option.map_map]
  rfl

/-- What a scope gets under a name at a moment, found by the key of the scope. -/
def found? (tree : SyntaxTree) (scope : NodeKey) (name : String) (moment : Moment) :
    Option Binding :=
  if (tree.given moment).1.key = scope then (tree.given moment).2.find? (·.name = name) else none

theorem ofTree_eq (tree : SyntaxTree) :
    ofTree tree = ofDeclarations tree (tree.walk.flatMap tree.declarations) :=
  rfl

/-- A lookup goes through the moments and stops at the first that gives the name to the scope. -/
theorem lookup?_eq_findSome? (tree : SyntaxTree) (scope : NodeKey) (name : String) :
    (ofTree tree).lookup? scope name = tree.moments.findSome? (found? tree scope name) := by
  rw [ofTree_eq, lookup?_ofDeclarations, walk_declarations_eq, List.find?_flatMap,
    List.map_findSome?]
  congr 1
  funext moment
  simp only [Function.comp_apply, List.find?_map, Option.map_map, found?]
  by_cases hKey : (tree.given moment).1.key = scope
  · simp [hKey, Function.comp_def]
  · simp [hKey, Function.comp_def]

section Place

variable {table other : ScopeTable} {name : String} {place : Cursor}

/-- The entry that a name has in a scope, if the node is one. -/
theorem entry_eq_some_iff {scope : Cursor} {binding : Binding} :
    (if scope.kind.isScope then table.lookup? scope.key name else none) = some binding ↔
      scope.kind.isScope = true ∧ table.lookup? scope.key name = some binding := by
  simp

/-- A name refers to nothing if no scope around the place has it. -/
theorem resolve?_eq_none_iff_lookup? (hPlace : tree.top.Below place) :
    table.resolve? name place = none ↔
      ∀ scope : Cursor, scope.Encloses place → table.lookup? scope.key name = none := by
  rw [resolve?, List.findSome?_eq_none_iff]
  constructor
  · rintro h scope ⟨isScope, hBelow⟩
    simpa [isScope] using h scope ((Cursor.mem_ancestors_iff hPlace).mpr hBelow)
  · intro h scope hScope
    split
    · next isScope => exact h scope ⟨isScope, (Cursor.mem_ancestors_iff hPlace).mp hScope⟩
    · rfl

/-- A name refers to what the innermost scope around the place that has it says. -/
theorem resolve?_eq_some_iff_lookup? (hPlace : tree.top.Below place) {binding : Binding} :
    table.resolve? name place = some binding ↔
      ∃ scope : Cursor, scope.Encloses place ∧ table.lookup? scope.key name = some binding ∧
        ∀ inner : Cursor, inner.Encloses place → inner.Inside scope →
          table.lookup? inner.key name = none := by
  rw [resolve?, findSome?_eq_some_iff_of_pairwise (fun h => h.asymm)
    (Cursor.ancestors_in_order hPlace)]
  simp only [Cursor.mem_ancestors_iff hPlace]
  constructor
  · rintro ⟨scope, hBelow, hFound, hInner⟩
    obtain ⟨isScope, hFound⟩ := entry_eq_some_iff.mp hFound
    refine ⟨scope, ⟨isScope, hBelow⟩, hFound, ?_⟩
    rintro inner ⟨innerIsScope, hInnerBelow⟩ hInside
    simpa [innerIsScope] using hInner inner hInnerBelow hInside
  · rintro ⟨scope, ⟨isScope, hBelow⟩, hFound, hInner⟩
    refine ⟨scope, hBelow, entry_eq_some_iff.mpr ⟨isScope, hFound⟩, ?_⟩
    intro inner hInnerBelow hInside
    split
    · next innerIsScope => exact hInner inner ⟨innerIsScope, hInnerBelow⟩ hInside
    · rfl

/-- Tables that agree on the scopes around a node give a name the same meaning there. -/
theorem resolve?_congr (hPlace : tree.top.Below place)
    (h : ∀ scope : Cursor, scope.Encloses place →
      table.lookup? scope.key name = other.lookup? scope.key name) :
    table.resolve? name place = other.resolve? name place := by
  rw [resolve?, resolve?, ← List.head?_filterMap, ← List.head?_filterMap]
  refine congrArg List.head? (List.filterMap_congr fun scope hScope => ?_)
  split
  · next isScope => exact h scope ⟨isScope, (Cursor.mem_ancestors_iff hPlace).mp hScope⟩
  · rfl

end Place

section Scope

variable {scope : Cursor} {name : String} (apart : tree.ScopeKeysApart)
  (hScope : tree.top.Below scope) (isScope : scope.kind.isScope = true)
include apart hScope isScope

/-- A moment gives the first of its bindings that has the name. -/
theorem found?_eq_some_iff {moment : Moment} (hPlace : tree.top.Below moment.node) {binding : Binding} :
    found? tree scope.key name moment = some binding ↔
      ∃ before after, tree.Gives moment scope (before ++ binding :: after) ∧
        binding.name = name ∧ ∀ other ∈ before, other.name ≠ name := by
  rw [found?]
  constructor
  · intro h
    split at h
    · next hKey =>
        have hOwner := (apart.given_key_iff hPlace hScope isScope).mp hKey
        obtain ⟨hName, before, after, hSplit, hBefore⟩ := List.find?_eq_some_iff_append.mp h
        have hGives := gives_of_mem_given (List.mem_of_find?_eq_some h)
        rw [hOwner, hSplit] at hGives
        exact ⟨before, after, hGives, of_decide_eq_true hName, fun other hOther => by
          simpa using hBefore other hOther⟩
    · cases h
  · rintro ⟨before, after, hGives, hName, hBefore⟩
    rw [hGives.given_eq, if_pos rfl]
    exact List.find?_eq_some_iff_append.mpr ⟨decide_eq_true hName, before, after, rfl,
      fun other hOther => by simpa using hBefore other hOther⟩

/-- A moment gives a scope nothing under names that it has no binding of. -/
theorem found?_eq_none_iff {moment : Moment} (hPlace : tree.top.Below moment.node) :
    found? tree scope.key name moment = none ↔
      ∀ bindings, tree.Gives moment scope bindings → ∀ binding ∈ bindings, binding.name ≠ name := by
  rw [found?]
  constructor
  · intro h bindings hGives binding hBinding
    rw [hGives.given_eq, if_pos rfl] at h
    simpa using List.find?_eq_none.mp h binding hBinding
  · intro h
    split
    · next hKey =>
        have hOwner := (apart.given_key_iff hPlace hScope isScope).mp hKey
        refine List.find?_eq_none.mpr fun binding hBinding => ?_
        have hGives := gives_of_mem_given hBinding
        rw [hOwner] at hGives
        simpa using h _ hGives binding hBinding
    · rfl

/-- The table has under a scope and a name the earliest binding that the scope owns. -/
theorem lookup?_eq_some_iff {binding : Binding} :
    (ofTree tree).lookup? scope.key name = some binding ↔ tree.IsEarliest scope name binding := by
  rw [lookup?_eq_findSome?,
    findSome?_eq_some_iff_of_pairwise (fun h => h.asymm) (moments_in_order tree)]
  simp only [mem_moments_iff]
  constructor
  · rintro ⟨moment, hPlace, hFound, hSooner⟩
    obtain ⟨before, after, hGives, hName, hBefore⟩ :=
      (found?_eq_some_iff apart hScope isScope hPlace).mp hFound
    refine ⟨moment, before, after, hPlace, hGives, hName, hBefore, ?_⟩
    intro sooner bindings hSoonerPlace hOrder hSoonerGives
    have hNone := hSooner sooner hSoonerPlace hOrder
    exact (found?_eq_none_iff apart hScope isScope hSoonerPlace).mp hNone bindings hSoonerGives
  · rintro ⟨moment, before, after, hPlace, hGives, hName, hBefore, hSooner⟩
    refine ⟨moment, hPlace, ?_, fun sooner hSoonerPlace hOrder => ?_⟩
    · exact (found?_eq_some_iff apart hScope isScope hPlace).mpr
        ⟨before, after, hGives, hName, hBefore⟩
    · exact (found?_eq_none_iff apart hScope isScope hSoonerPlace).mpr fun bindings =>
        hSooner sooner bindings hSoonerPlace hOrder

/-- A scope has no entry for names that it does not own. -/
theorem lookup?_eq_none_iff_not_owns :
    (ofTree tree).lookup? scope.key name = none ↔ ¬tree.Owns scope name := by
  rw [lookup?_eq_findSome?, List.findSome?_eq_none_iff]
  simp only [mem_moments_iff]
  constructor
  · rintro h ⟨moment, bindings, hPlace, hGives, binding, hBinding, hName⟩
    exact (found?_eq_none_iff apart hScope isScope hPlace).mp (h moment hPlace) bindings hGives
      binding hBinding hName
  · intro h moment hPlace
    refine (found?_eq_none_iff apart hScope isScope hPlace).mpr ?_
    intro bindings hGives binding hBinding hName
    exact h ⟨moment, bindings, hPlace, hGives, binding, hBinding, hName⟩

/-- Scopes are told apart by their keys, so an entry under the key of a scope is its own. -/
theorem eq_of_key_of_declared {entry : Cursor × Binding}
    (hEntry : entry ∈ tree.walk.flatMap tree.declarations) (hKey : entry.1.key = scope.key) :
    entry.1 = scope := by
  rw [walk_declarations_eq] at hEntry
  obtain ⟨moment, hMoment, hEntry⟩ := List.mem_flatMap.mp hEntry
  obtain ⟨binding, _, rfl⟩ := List.mem_map.mp hEntry
  exact (apart.given_key_iff (mem_moments_iff.mp hMoment) hScope isScope).mp hKey

/-- Declarations that other scopes own can be left out. -/
theorem lookup?_filter {keep : Cursor → Bool} (hKeep : keep scope = true) :
    (ofDeclarations tree ((tree.walk.flatMap tree.declarations).filter
      fun entry => keep entry.1)).lookup? scope.key name =
        (ofTree tree).lookup? scope.key name := by
  rw [ofTree_eq, lookup?_ofDeclarations, lookup?_ofDeclarations, List.find?_filter]
  refine congrArg (Option.map Prod.snd) (List.find?_congr fun entry hEntry => ?_)
  by_cases hKey : entry.1.key = scope.key
  · have hOwner := eq_of_key_of_declared apart hScope isScope hEntry hKey
    simp [hOwner, hKeep]
  · simp [hKey]

end Scope

/-- A name refers to the earliest binding of it in the innermost scope around that owns
one, and to nothing if no scope around owns any. What other scopes own can be left out. -/
theorem resolve?_lexical (tree : SyntaxTree) (name : String) (place : Cursor)
    (apart : tree.ScopeKeysApart) (hPlace : tree.top.Below place) :
    ((ofTree tree).resolve? name place = none ↔
      ∀ scope : Cursor, scope.Encloses place → ¬tree.Owns scope name) ∧
    (∀ binding, (ofTree tree).resolve? name place = some binding ↔
      ∃ scope : Cursor, scope.Encloses place ∧ tree.IsEarliest scope name binding ∧
        ∀ inner : Cursor, inner.Encloses place → inner.Inside scope → ¬tree.Owns inner name) ∧
    ∀ keep : Cursor → Bool, (∀ scope : Cursor, scope.Encloses place → keep scope = true) →
      (ofDeclarations tree ((tree.walk.flatMap tree.declarations).filter
        fun entry => keep entry.1)).resolve? name place = (ofTree tree).resolve? name place := by
  have hBelow {scope : Cursor} (h : scope.Encloses place) : tree.top.Below scope :=
    Cursor.below_of_below hPlace h.2
  have hNone {scope : Cursor} (h : scope.Encloses place) :
      (ofTree tree).lookup? scope.key name = none ↔ ¬tree.Owns scope name :=
    lookup?_eq_none_iff_not_owns apart (hBelow h) h.1
  refine ⟨?_, fun binding => ?_, fun keep hKeep => ?_⟩
  · rw [resolve?_eq_none_iff_lookup? hPlace]
    exact forall₂_congr fun scope h => hNone h
  · rw [resolve?_eq_some_iff_lookup? hPlace]
    refine exists_congr fun scope => and_congr_right fun h => and_congr ?_ ?_
    · exact lookup?_eq_some_iff apart (hBelow h) h.1
    · exact forall₃_congr fun inner hInner _ => hNone hInner
  · exact resolve?_congr hPlace fun scope h => lookup?_filter apart (hBelow h) h.1 (hKeep scope h)

/-- The tree of ``function f(a){{var b}b}let a``. A parameter hides a variable of the
program, and a variable is declared in a block that does not enclose its use. -/
def hidingParameter : SyntaxTree :=
  ⟨.phrase .program 0 28 none
    [.phrase .functionDeclaration 0 23 none
      [.token "function" 0,
        .phrase .identifier 9 10 (some .name) [],
        .phrase .formalParameters 10 13 (some .parameters)
          [.token "(" 10, .phrase .identifier 11 12 none [], .token ")" 12],
        .phrase .statementBlock 13 23 (some (.other "body"))
          [.token "\x7b" 13,
            .phrase .statementBlock 14 21 none
              [.token "\x7b" 14,
                .phrase .variableDeclaration 15 20 none
                  [.token "var" 15,
                    .phrase .variableDeclarator 19 20 none
                      [.phrase .identifier 19 20 (some .name) []]],
                .token "\x7d" 20],
            .phrase (.other "expression_statement") 21 22 none [.phrase .identifier 21 22 none []],
            .token "\x7d" 22]],
      .phrase .lexicalDeclaration 23 28 none
        [.token "let" 23,
          .phrase .variableDeclarator 27 28 none [.phrase .identifier 27 28 (some .name) []]]],
    "function f(a)\x7b\x7bvar b\x7db\x7dlet a".toList, "a.js", .javascript⟩

/-- At the last use in the function the one name is the parameter, and the other is the
variable that the function owns. -/
theorem resolve?_lexical_hidingParameter :
    hidingParameter.ScopeKeysApart ∧
      ∃ place, hidingParameter.top.Below place ∧ place.key = ⟨.identifier, 21, 22⟩ ∧
        ∀ name ∈ ["a", "b"], ∃ binding scope,
          (ofTree hidingParameter).resolve? name place = some binding ∧
            binding.kind = (if name = "a" then .parameter else .single) ∧
            scope.Encloses place ∧ hidingParameter.IsEarliest scope name binding ∧
            ∀ inner : Cursor, inner.Encloses place → inner.Inside scope →
              ¬hidingParameter.Owns inner name := by
  have hApart : hidingParameter.ScopeKeysApart := by decide +kernel
  have hFound : ∃ place ∈ hidingParameter.walk, place.key = ⟨.identifier, 21, 22⟩ ∧
      ∀ name ∈ ["a", "b"], ((ofTree hidingParameter).resolve? name place).map Binding.kind =
        some (if name = "a" then .parameter else .single) := by
    decide +kernel
  obtain ⟨place, hPlace, hKey, hFound⟩ := hFound
  have hBelow := Cursor.mem_walk_iff.mp hPlace
  refine ⟨hApart, place, hBelow, hKey, fun name hName => ?_⟩
  obtain ⟨binding, hBinding, hKind⟩ := Option.map_eq_some_iff.mp (hFound name hName)
  obtain ⟨scope, hScope⟩ :=
    ((resolve?_lexical hidingParameter name place hApart hBelow).2.1 binding).mp hBinding
  exact ⟨binding, scope, hBinding, hKind, hScope⟩

end ScopeTable

end ComponentQueries
