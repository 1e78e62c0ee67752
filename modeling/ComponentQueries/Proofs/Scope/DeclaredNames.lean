import ComponentQueries.Proofs.Scope.LexicalScoping
import ComponentQueries.Proofs.Scope.PatternNames
import Mathlib.Data.Option.Basic

/-! Which names of a declarator get a binding. All of them do, unless the declarator takes a
required module apart, and then only the properties by their own or by another name do. -/
namespace ComponentQueries

namespace SyntaxTree

/-- Names in an object pattern that stand for a property of the object as it is, and not for
a part or a default of it or for the properties that are left. -/
inductive IsPlainProperty (pattern : Cursor) : Cursor → Prop where
  | shorthand {property : Cursor} (hProperty : property ∈ pattern.namedChildren)
      (isShorthand : property.kind = .shorthandPattern) : IsPlainProperty pattern property
  | renamed {property key name : Cursor} (hProperty : property ∈ pattern.namedChildren)
      (isPair : property.kind = .pairPattern) (hKey : property.child? .key = some key)
      (hName : property.child? .value = some name) (isName : name.kind = .identifier) :
      IsPlainProperty pattern name

/-- The declarator takes a required module apart. -/
def TakesApart (tree : SyntaxTree) (declarator pattern : Cursor) : Prop :=
  pattern.kind = .objectPattern ∧
    ∃ value source, declarator.child? .value = some value ∧
      tree.requiredModule? value = some source

/-- A declarator keeps a name of its pattern. -/
def Keeps (tree : SyntaxTree) (declarator pattern identifier : Cursor) : Prop :=
  tree.TakesApart declarator pattern → IsPlainProperty pattern identifier

/-- The scope that owns what a declarator declares: the nearest function or the program if
the declaration is hoisted, and the nearest scope of any kind otherwise. -/
def OwnsDeclarator (tree : SyntaxTree) (scope declarator : Cursor) : Prop :=
  if isHoisted declarator then
    tree.IsOwner (fun kind => kind.isFunctionScope = true ∨ kind = .program) scope declarator
  else tree.IsOwner (fun kind => kind.isScope = true) scope declarator

variable {tree : SyntaxTree} {declarator pattern identifier : Cursor}

theorem ownsDeclarator_iff {scope : Cursor} :
    tree.OwnsDeclarator scope declarator ↔
      tree.ownerOf (isHoisted declarator) declarator = scope := by
  unfold OwnsDeclarator
  cases isHoisted declarator with
  | true => exact ownerOf_true_iff.symm
  | false => exact ownerOf_false_iff.symm

/-- The owner of a declarator is a scope, since the program is one. -/
theorem OwnsDeclarator.isScope {scope : Cursor} (rooted : tree.root.kind = .program)
    (owner : tree.OwnsDeclarator scope declarator) : scope.kind.isScope = true := by
  have hTop : tree.top.kind.isScope = true := by
    show tree.root.kind.isScope = true
    rw [rooted]
    rfl
  unfold OwnsDeclarator at owner
  split at owner
  · rcases owner with ⟨_, _, _, hWanted, _⟩ | ⟨rfl, _⟩
    · rcases hWanted with hFunction | hProgram
      · simp [Kind.isScope, hFunction]
      · rw [hProgram]
        rfl
    · exact hTop
  · rcases owner with ⟨_, _, _, hWanted, _⟩ | ⟨rfl, _⟩
    · exact hWanted
    · exact hTop

/-- A plain property is among the names of its pattern. -/
theorem IsPlainProperty.mem_boundIdentifiers (h : IsPlainProperty pattern identifier)
    (isObject : pattern.kind = .objectPattern) : identifier ∈ pattern.boundIdentifiers := by
  rw [Cursor.boundIdentifiers_of_parts (by rw [isObject]; rfl) (by rw [isObject]; rfl),
    List.mem_flatMap]
  cases h with
  | shorthand hProperty isShorthand =>
      refine ⟨identifier, List.mem_filter.mpr ⟨hProperty, ?_⟩, ?_⟩
      · simp [Cursor.mayBind, isShorthand]
      · rw [Cursor.boundIdentifiers_of_name (by rw [isShorthand]; rfl)]
        exact List.mem_singleton_self _
  | @renamed property _ _ hProperty isPair _ hName isName =>
      refine ⟨property, List.mem_filter.mpr ⟨hProperty, ?_⟩, ?_⟩
      · simp [Cursor.mayBind, isPair]
      · rw [Cursor.boundIdentifiers_of_role (by rw [isPair]; rfl), hName, Option.toList_some,
          List.flatMap_singleton, Cursor.boundIdentifiers_of_name (by rw [isName]; rfl)]
        exact List.mem_singleton_self _

/-- The properties that a required module is taken apart into are the plain ones. -/
theorem exists_requiredProperty_iff {source name : String} :
    (∃ binding ∈ pattern.namedChildren.filterMap (tree.requiredProperty? declarator source),
        binding.name = name) ↔
      ∃ identifier, IsPlainProperty pattern identifier ∧ tree.textOf identifier = name := by
  simp only [List.mem_filterMap]
  constructor
  · rintro ⟨binding, ⟨property, hProperty, hBinding⟩, rfl⟩
    unfold requiredProperty? at hBinding
    split at hBinding
    · next hKind =>
        cases hBinding
        exact ⟨property, .shorthand hProperty hKind, rfl⟩
    · next hKind =>
        obtain ⟨key, hKey, hBinding⟩ := Option.bind_eq_some_iff.mp hBinding
        obtain ⟨value, hValue, hBinding⟩ := Option.bind_eq_some_iff.mp hBinding
        obtain ⟨_, hName, hBinding⟩ := Option.bind_eq_some_iff.mp hBinding
        cases hBinding
        exact ⟨value, .renamed hProperty hKind hKey hValue ((Option.guard_eq_some' _).mp hName),
          rfl⟩
    · cases hBinding
  · rintro ⟨identifier, hPlain, rfl⟩
    cases hPlain with
    | shorthand hProperty hKind =>
        refine ⟨⟨tree.textOf identifier, .required, declarator, some source,
          some (tree.textOf identifier)⟩, ⟨identifier, hProperty, ?_⟩, rfl⟩
        simp only [requiredProperty?, hKind]
    | @renamed property key _ hProperty hKind hKey hName isName =>
        refine ⟨⟨tree.textOf identifier, .required, declarator, some source,
          some (tree.textOf key)⟩, ⟨property, hProperty, ?_⟩, rfl⟩
        simp only [requiredProperty?, hKind]
        refine Option.bind_eq_some_iff.mpr ⟨key, hKey, ?_⟩
        refine Option.bind_eq_some_iff.mpr ⟨identifier, hName, ?_⟩
        exact Option.bind_eq_some_iff.mpr ⟨(), (Option.guard_eq_some' _).mpr isName, rfl⟩

/-- A declarator declares the names of its pattern that it keeps, and no others. -/
theorem exists_declaratorBinding_iff (hPattern : declarator.child? .name = some pattern)
    {name : String} :
    (∃ binding ∈ tree.declaratorBindings declarator, binding.name = name) ↔
      ∃ identifier ∈ pattern.boundIdentifiers, tree.textOf identifier = name ∧
        tree.Keeps declarator pattern identifier := by
  have hBound (hName : pattern.kind = .identifier) : pattern.boundIdentifiers = [pattern] :=
    Cursor.boundIdentifiers_of_name (by rw [hName]; rfl)
  have hWhole (hKind : pattern.kind ≠ .objectPattern) (identifier : Cursor) :
      tree.Keeps declarator pattern identifier := fun hApart => absurd hApart.1 hKind
  unfold declaratorBindings
  rw [hPattern]
  dsimp only
  split
  · next hName _ =>
      have hKeeps := hWhole (by rw [hName]; exact nofun)
      simp [hBound hName, hKeeps]
  · next hName _ =>
      have hKeeps := hWhole (by rw [hName]; exact nofun)
      simp [hBound hName, hKeeps]
  · next source isObject hRequired =>
      obtain ⟨value, hValue, hModule⟩ := Option.bind_eq_some_iff.mp hRequired
      have hApart : tree.TakesApart declarator pattern :=
        ⟨isObject, value, source, hValue, hModule⟩
      rw [exists_requiredProperty_iff]
      constructor
      · rintro ⟨identifier, hPlain, hText⟩
        exact ⟨identifier, hPlain.mem_boundIdentifiers isObject, hText, fun _ => hPlain⟩
      · rintro ⟨identifier, _, hText, hKeeps⟩
        exact ⟨identifier, hKeeps hApart, hText⟩
  · next hOther =>
      have hKeeps (identifier : Cursor) : tree.Keeps declarator pattern identifier := by
        rintro ⟨isObject, value, source, hValue, hModule⟩
        refine absurd ?_ (hOther source isObject)
        exact Option.bind_eq_some_iff.mpr ⟨value, hValue, hModule⟩
      simp [hKeeps]

end SyntaxTree

namespace ScopeTable

open SyntaxTree

variable {tree : SyntaxTree} {declarator scope : Cursor}

theorem mem_entries_of_declarator {binding : Binding} (hPlace : tree.top.Below declarator)
    (isDeclarator : declarator.kind = .variableDeclarator)
    (owner : tree.OwnsDeclarator scope declarator)
    (h : binding ∈ tree.declaratorBindings declarator) :
    (scope.key, binding) ∈ (ofTree tree).entries := by
  have hDeclared : (scope, binding) ∈ tree.declarations declarator := by
    simp only [declarations, outerDeclarations, isDeclarator, ownsDeclarator_iff.mp owner]
    exact List.mem_append_left _ (List.mem_map_of_mem h)
  have hWalk : (scope, binding) ∈ tree.walk.flatMap tree.declarations :=
    List.mem_flatMap.mpr ⟨declarator, Cursor.mem_walk_iff.mpr hPlace, hDeclared⟩
  exact List.mem_map_of_mem hWalk

/-- What a scope has under a name can be found from everywhere inside, where an inner scope
may have something else. -/
theorem exists_resolve?_of_lookup? {table : ScopeTable} {name : String} {place : Cursor}
    {binding : Binding} (hScope : tree.top.Below scope) (isScope : scope.kind.isScope = true)
    (hPlace : scope.Below place) (h : table.lookup? scope.key name = some binding) :
    ∃ found, table.resolve? name place = some found := by
  rw [← Option.ne_none_iff_exists']
  intro hNone
  have hScopes := (resolve?_eq_none_iff_lookup? (hScope.trans hPlace)).mp hNone
  rw [hScopes scope ⟨isScope, hPlace⟩] at h
  cases h

/-- A declarator gives a binding to exactly those names of its pattern that it keeps. Each
of them has a binding in the scope that owns the declarator, so that it can be resolved
everywhere inside. A declarator that takes no required module apart keeps all names. -/
theorem kept_names_resolved (tree : SyntaxTree) (declarator pattern scope : Cursor)
    (rooted : tree.root.kind = .program) (hPlace : tree.top.Below declarator)
    (isDeclarator : declarator.kind = .variableDeclarator)
    (hPattern : declarator.child? .name = some pattern)
    (owner : tree.OwnsDeclarator scope declarator) :
    (∀ name, (∃ binding ∈ tree.declaratorBindings declarator, binding.name = name) ↔
      ∃ identifier ∈ pattern.boundIdentifiers, tree.textOf identifier = name ∧
        tree.Keeps declarator pattern identifier) ∧
    ∀ identifier ∈ pattern.boundIdentifiers, tree.Keeps declarator pattern identifier →
      (∃ binding, (ofTree tree).lookup? scope.key (tree.textOf identifier) = some binding) ∧
      ∀ place, scope.Below place →
        ∃ binding, (ofTree tree).resolve? (tree.textOf identifier) place = some binding := by
  refine ⟨fun name => exists_declaratorBinding_iff hPattern, fun identifier hBound hKeeps => ?_⟩
  obtain ⟨binding, hBinding, hName⟩ :=
    (exists_declaratorBinding_iff hPattern).mpr ⟨identifier, hBound, rfl, hKeeps⟩
  have hEntry := mem_entries_of_declarator hPlace isDeclarator owner hBinding
  have hFound : ∃ found,
      (ofTree tree).lookup? scope.key (tree.textOf identifier) = some found := by
    rw [← Option.ne_none_iff_exists']
    exact fun hNone => lookup?_eq_none_iff.mp hNone binding hEntry hName
  refine ⟨hFound, fun place hInside => ?_⟩
  obtain ⟨found, hFound⟩ := hFound
  have hScope : tree.top.Below scope := ownsDeclarator_iff.mp owner ▸ below_ownerOf hPlace
  exact exists_resolve?_of_lookup? hScope (owner.isScope rooted) hInside hFound

/-- The tree of ``const{a,...b}=require("m")``. -/
def propertyAndRest : SyntaxTree :=
  ⟨.phrase .program 0 26 none
    [.phrase .lexicalDeclaration 0 26 none
      [.token "const" 0,
        .phrase .variableDeclarator 5 26 none
          [.phrase .objectPattern 5 13 (some .name)
            [.token "\x7b" 5, .phrase .shorthandPattern 6 7 none [], .token "," 7,
              .phrase .restPattern 8 12 none
                [.token "..." 8, .phrase .identifier 11 12 none []],
              .token "\x7d" 12],
            .token "=" 13,
            .phrase .callExpression 14 26 (some .value)
              [.phrase .identifier 14 21 (some .function) [],
                .phrase (.other "arguments") 21 26 (some .arguments)
                  [.token "(" 21, .quoted .string "\"" 22 25 none, .token ")" 25]]]]],
    "const\x7ba,...b\x7d=require(\"m\")".toList, "a.js", .javascript⟩

/-- The property is known everywhere in the file, and the rest is known nowhere. -/
theorem kept_names_resolved_propertyAndRest :
    propertyAndRest.root.kind = .program ∧
      ∃ declarator pattern scope kept lost, propertyAndRest.top.Below declarator ∧
        declarator.kind = .variableDeclarator ∧ declarator.child? .name = some pattern ∧
        propertyAndRest.OwnsDeclarator scope declarator ∧ scope.key = ⟨.program, 0, 26⟩ ∧
        kept ∈ pattern.boundIdentifiers ∧ propertyAndRest.textOf kept = "a" ∧
        propertyAndRest.Keeps declarator pattern kept ∧
        (∀ place, scope.Below place →
          ∃ binding, (ofTree propertyAndRest).resolve? "a" place = some binding) ∧
        lost ∈ pattern.boundIdentifiers ∧ propertyAndRest.textOf lost = "b" ∧
        ¬propertyAndRest.Keeps declarator pattern lost ∧
        ∀ place ∈ propertyAndRest.walk, (ofTree propertyAndRest).resolve? "b" place = none := by
  have hRooted : propertyAndRest.root.kind = .program := rfl
  have hFound : ∃ declarator ∈ propertyAndRest.walk, declarator.kind = .variableDeclarator ∧
      (propertyAndRest.ownerOf (isHoisted declarator) declarator).key = ⟨.program, 0, 26⟩ ∧
      (∀ binding ∈ propertyAndRest.declaratorBindings declarator, binding.name ≠ "b") ∧
      ∃ pattern ∈ declarator.child? .name, pattern.kind = .objectPattern ∧
        (∃ kept ∈ pattern.namedChildren, kept.kind = .shorthandPattern ∧
          propertyAndRest.textOf kept = "a") ∧
        ∃ lost ∈ pattern.boundIdentifiers, propertyAndRest.textOf lost = "b" := by
    decide +kernel
  obtain ⟨declarator, hWalk, isDeclarator, hKey, hNone, pattern, hPattern, isObject,
    ⟨kept, hProperty, isShorthand, hKept⟩, lost, hLost, hRest⟩ := hFound
  have hPlace := Cursor.mem_walk_iff.mp hWalk
  have hPlain : IsPlainProperty pattern kept := .shorthand hProperty isShorthand
  have hBound := hPlain.mem_boundIdentifiers isObject
  have hOwner : propertyAndRest.OwnsDeclarator _ declarator := ownsDeclarator_iff.mpr rfl
  obtain ⟨hNames, hResolved⟩ := kept_names_resolved propertyAndRest declarator pattern _ hRooted
    hPlace isDeclarator hPattern hOwner
  obtain ⟨-, hEverywhere⟩ := hResolved kept hBound fun _ => hPlain
  rw [hKept] at hEverywhere
  have hNotKept : ¬propertyAndRest.Keeps declarator pattern lost := by
    intro hKeeps
    obtain ⟨binding, hBinding, hName⟩ := (hNames "b").mpr ⟨lost, hLost, hRest, hKeeps⟩
    exact hNone binding hBinding hName
  exact ⟨hRooted, declarator, pattern, _, kept, lost, hPlace, isDeclarator, hPattern, hOwner, hKey,
    hBound, hKept, fun _ => hPlain, hEverywhere, hLost, hRest, hNotKept, by decide +kernel⟩

end ScopeTable

end ComponentQueries
