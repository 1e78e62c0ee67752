import ComponentQueries.Proofs.Scope.DeclaredNames
import ComponentQueries.Proofs.SyntaxTree.Comments
import Mathlib.Data.List.Induction

/-! What the table of declarations has to do with comments. Only one kind of declaration sees
them: that of a required module, which is not found if a comment stands before its name. This
changes what a name is bound to exactly if nothing before the declarator binds the name. -/
namespace ComponentQueries

/-- The binding in the tree without comments. -/
def Binding.bare (binding : Binding) : Binding :=
  { binding with site := binding.site.bare }

namespace Cursor

/-- A comment in a pattern binds nothing. -/
theorem boundIdentifiers_of_isComment {pattern : Cursor} (h : pattern.node.isComment = true) :
    pattern.boundIdentifiers = [] := by
  have hKind := kind_of_isComment h
  rw [boundIdentifiers_of_parts (by rw [hKind]; rfl) (by rw [hKind]; rfl), namedChildren,
    children_of_isComment h]
  rfl

/-- A pattern has the same names without the comments. -/
theorem boundIdentifiers_bare (pattern : Cursor) :
    pattern.bare.boundIdentifiers = pattern.boundIdentifiers.map bare := by
  induction pattern using induction_down with
  | step pattern ih =>
      -- The cases are those of where a pattern has its names: itself, a role, or its parts.
      cases hName : pattern.kind.isPatternName with
      | true =>
          rw [boundIdentifiers_of_name hName, boundIdentifiers_of_name (by rw [kind_bare, hName])]
          rfl
      | false =>
          cases hRole : pattern.kind.patternRole? with
          | some field =>
              rw [boundIdentifiers_of_role hRole,
                boundIdentifiers_of_role (by rw [kind_bare, hRole]), child?_bare]
              cases hChild : pattern.child? field with
              | none => rfl
              | some child => simp [ih child (mem_children_of_child? hChild)]
          | none =>
              rw [boundIdentifiers_of_parts hName hRole,
                boundIdentifiers_of_parts (by rw [kind_bare, hName]) (by rw [kind_bare, hRole]),
                namedChildren_bare, bareAll_filter fun part => by simp [mayBind], List.map_flatMap]
              refine flatMap_bareAll (fun part hPart _ => ?_) (fun part _ hComment => ?_)
              · exact ih part (mem_children_of_mem_namedChildren (List.mem_filter.mp hPart).1)
              · rw [boundIdentifiers_of_isComment hComment]
                rfl

end Cursor

namespace SyntaxTree

/-- Calls of `require`. -/
def requires (tree : SyntaxTree) (value : Cursor) : Bool :=
  value.kind == .callExpression && (value.child? .function).any fun callee =>
    callee.kind == .identifier && tree.textOf callee == "require"

/-- Calls of `require` in which a comment stands before the name of the module. -/
def hidesModule (tree : SyntaxTree) (value : Cursor) : Bool :=
  tree.requires value && (value.child? .arguments).any fun arguments =>
    arguments.namedChildren.head?.any (·.node.isComment) &&
      (arguments.namedChildren.find? (!·.node.isComment)).any (·.kind == .string)

variable {tree : SyntaxTree}

/-- The module is the string that is the first named argument, comments counting as such. -/
theorem requiredModule?_eq_some_iff {value : Cursor} {source : String} :
    tree.requiredModule? value = some source ↔
      tree.requires value = true ∧ ∃ arguments argument,
        value.child? .arguments = some arguments ∧
          arguments.namedChildren.head? = some argument ∧
          tree.stringValue? argument = some source := by
  unfold requiredModule?
  constructor
  · intro h
    obtain ⟨_, hKind, h⟩ := Option.bind_eq_some_iff.mp h
    obtain ⟨callee, hCallee, h⟩ := Option.bind_eq_some_iff.mp h
    obtain ⟨_, hRequire, h⟩ := Option.bind_eq_some_iff.mp h
    obtain ⟨arguments, hArguments, h⟩ := Option.bind_eq_some_iff.mp h
    obtain ⟨argument, hArgument, h⟩ := Option.bind_eq_some_iff.mp h
    have hCall := (Option.guard_eq_some' _).mp hKind
    obtain ⟨hName, hText⟩ := (Option.guard_eq_some' _).mp hRequire
    exact ⟨by simp [requires, hCall, hCallee, hName, hText], arguments, argument, hArguments,
      hArgument, h⟩
  · rintro ⟨hRequires, arguments, argument, hArguments, hArgument, h⟩
    simp only [requires, Bool.and_eq_true, beq_iff_eq, Option.any_eq_true] at hRequires
    obtain ⟨hKind, callee, hCallee, hRequire⟩ := hRequires
    refine Option.bind_eq_some_iff.mpr ⟨(), (Option.guard_eq_some' _).mpr hKind, ?_⟩
    refine Option.bind_eq_some_iff.mpr ⟨callee, hCallee, ?_⟩
    refine Option.bind_eq_some_iff.mpr ⟨(), (Option.guard_eq_some' _).mpr hRequire, ?_⟩
    refine Option.bind_eq_some_iff.mpr ⟨arguments, hArguments, ?_⟩
    exact Option.bind_eq_some_iff.mpr ⟨argument, hArgument, h⟩

/-- The callee has a role, so comments do not matter to it. -/
theorem requires_bare (tree : SyntaxTree) (value : Cursor) :
    tree.bare.requires value.bare = tree.requires value := by
  rw [requires, requires, Cursor.kind_bare, Cursor.any_child?_bare]
  simp

theorem kind_of_stringValue? {cursor : Cursor} {string : String}
    (h : tree.stringValue? cursor = some string) : cursor.kind = .string := by
  unfold stringValue? at h
  split at h
  · assumption
  · cases h

/-- Without the comments, the module is the first argument that is none. -/
theorem requiredModule?_bare_eq_some_iff {value : Cursor} {source : String} :
    tree.bare.requiredModule? value.bare = some source ↔
      tree.requires value = true ∧ ∃ arguments argument,
        value.child? .arguments = some arguments ∧
          arguments.namedChildren.find? (!·.node.isComment) = some argument ∧
          tree.stringValue? argument = some source := by
  rw [requiredModule?_eq_some_iff, requires_bare]
  refine and_congr_right fun _ => ?_
  rw [Cursor.child?_bare]
  constructor
  · rintro ⟨bareArguments, bareArgument, hArguments, hArgument, h⟩
    obtain ⟨arguments, hFound, rfl⟩ := Option.map_eq_some_iff.mp hArguments
    rw [Cursor.namedChildren_bare, Cursor.head?_bareAll] at hArgument
    obtain ⟨argument, hFirst, rfl⟩ := Option.map_eq_some_iff.mp hArgument
    exact ⟨arguments, argument, hFound, hFirst, by rwa [stringValue?_bare] at h⟩
  · rintro ⟨arguments, argument, hArguments, hArgument, h⟩
    refine ⟨arguments.bare, argument.bare, by rw [hArguments]; rfl, ?_, ?_⟩
    · rw [Cursor.namedChildren_bare, Cursor.head?_bareAll, hArgument]
      rfl
    · rw [stringValue?_bare, h]

/-- A module that no comment hides is the same without the comments. -/
theorem requiredModule?_bare {value : Cursor} (h : tree.hidesModule value = false) :
    tree.bare.requiredModule? value.bare = tree.requiredModule? value := by
  apply Option.ext
  intro source
  rw [requiredModule?_bare_eq_some_iff, requiredModule?_eq_some_iff]
  refine and_congr_right fun hRequires => exists_congr fun arguments => exists_congr fun argument =>
    and_congr_right fun hArguments => and_congr_left fun hString => ?_
  have hKind : argument.kind = .string := kind_of_stringValue? hString
  have hOther : argument.node.isComment = false := by
    rw [Bool.eq_false_iff]
    intro hComment
    rw [Cursor.kind_of_isComment hComment] at hKind
    cases hKind
  cases hNamed : arguments.namedChildren with
  | nil => rfl
  | cons first others =>
      cases hFirst : first.node.isComment with
      | false => simp [hFirst]
      | true =>
          have hHead : first ≠ argument := by
            rintro rfl
            rw [hFirst] at hOther
            cases hOther
          have hHidden : (first :: others).find? (!·.node.isComment) ≠ some argument := by
            intro hFound
            have hHides : tree.hidesModule value = true := by
              simp only [hidesModule, hRequires, hArguments, Option.any_some, hNamed,
                List.head?_cons, hFirst, hFound, hKind, beq_self_eq_true, Bool.and_self]
            rw [h] at hHides
            cases hHides
          exact iff_of_false hHidden (by simp [hHead])

/-- A module that a comment hides is not found, and would be without the comments. -/
theorem requiredModule?_of_hidesModule {value : Cursor} (h : tree.hidesModule value = true) :
    tree.requiredModule? value = none ∧
      ∃ source, tree.bare.requiredModule? value.bare = some source := by
  rw [hidesModule, Bool.and_eq_true, Option.any_eq_true] at h
  obtain ⟨hRequires, arguments, hArguments, h⟩ := h
  rw [Bool.and_eq_true, Option.any_eq_true, Option.any_eq_true] at h
  obtain ⟨⟨first, hHead, hComment⟩, argument, hFound, hKind⟩ := h
  constructor
  · rw [← Option.not_isSome_iff_eq_none, Option.isSome_iff_exists]
    rintro ⟨source, hSource⟩
    obtain ⟨-, arguments', argument', hArguments', hHead', hString⟩ :=
      requiredModule?_eq_some_iff.mp hSource
    cases hArguments.symm.trans hArguments'
    cases hHead.symm.trans hHead'
    have hFirst := kind_of_stringValue? hString
    rw [Cursor.kind_of_isComment hComment] at hFirst
    cases hFirst
  · refine ⟨_, requiredModule?_bare_eq_some_iff.mpr ⟨hRequires, arguments, argument, hArguments,
      hFound, if_pos (eq_of_beq hKind)⟩⟩

theorem specifierBinding?_bare (tree : SyntaxTree) (source : Option String) (specifier : Cursor) :
    tree.bare.specifierBinding? source specifier.bare =
      (tree.specifierBinding? source specifier).map Binding.bare := by
  rw [specifierBinding?, specifierBinding?, Cursor.child?_bare, Cursor.child?_bare]
  cases specifier.child? .name with
  | none => rfl
  | some name =>
      cases specifier.child? .aliasName with
      | none => simp [Binding.bare]
      | some localName => simp [Binding.bare]

theorem importedIn_bare (tree : SyntaxTree) (source : Option String) (part : Cursor) :
    tree.bare.importedIn source part.bare = (tree.importedIn source part).map Binding.bare := by
  unfold importedIn
  rw [Cursor.kind_bare]
  split
  · simp [Binding.bare]
  · rw [Cursor.namedChildren_filter_bare .identifier nofun]
    simp [Binding.bare]
  · rw [Cursor.namedChildren_filter_bare .importSpecifier nofun]
    simp [List.filterMap_map, List.map_filterMap, specifierBinding?_bare]
  · rfl

/-- Imports declare the same without the comments. Their parts are told by kind and role. -/
theorem importBindings_bare (tree : SyntaxTree) (statement : Cursor) :
    tree.bare.importBindings statement.bare =
      (tree.importBindings statement).map Binding.bare := by
  have hSource : (statement.bare.child? .source).bind tree.bare.stringValue? =
      (statement.child? .source).bind tree.stringValue? := by
    rw [Cursor.child?_bare]
    cases statement.child? .source with
    | none => rfl
    | some source => simp
  simp only [importBindings, hSource]
  rw [Cursor.namedChildren_filter_bare .importClause nofun, List.flatMap_map, List.map_flatMap]
  congr 1
  funext clause
  rw [Cursor.namedChildren_bare, List.map_flatMap]
  refine Cursor.flatMap_bareAll (fun part _ _ => importedIn_bare tree _ part)
    (fun part _ hComment => ?_)
  simp [importedIn, Cursor.kind_of_isComment hComment]

/-- A property of a required module is bound as such by the declarator. -/
theorem requiredProperty?_spec {declarator property : Cursor} {source : String}
    {binding : Binding} (h : tree.requiredProperty? declarator source property = some binding) :
    binding.kind = .required ∧ binding.site = declarator := by
  unfold requiredProperty? at h
  split at h
  · cases h
    exact ⟨rfl, rfl⟩
  · obtain ⟨_, _, h⟩ := Option.bind_eq_some_iff.mp h
    obtain ⟨_, _, h⟩ := Option.bind_eq_some_iff.mp h
    obtain ⟨_, _, h⟩ := Option.bind_eq_some_iff.mp h
    cases h
    exact ⟨rfl, rfl⟩
  · cases h

/-- A property of a required module is bound to the same name in it. -/
theorem requiredProperty?_bare (tree : SyntaxTree) (declarator : Cursor) (source : String)
    (property : Cursor) :
    tree.bare.requiredProperty? declarator.bare source property.bare =
      (tree.requiredProperty? declarator source property).map Binding.bare := by
  unfold requiredProperty?
  rw [Cursor.kind_bare]
  split
  · simp [Binding.bare]
  · rw [Cursor.child?_bare, Cursor.child?_bare]
    cases property.child? .key with
    | none => rfl
    | some key =>
        cases property.child? .value with
        | none => rfl
        | some value =>
            dsimp only [Option.map_some, Option.bind_eq_bind, Option.bind_some]
            rw [Cursor.kind_bare, textOf_bare, textOf_bare, Option.map_bind]
            rfl
  · rfl

/-- The properties that are bound are the same, since no comment is a property. -/
theorem filterMap_requiredProperty?_bare (tree : SyntaxTree) (declarator : Cursor)
    (source : String) (pattern : Cursor) :
    pattern.bare.namedChildren.filterMap (tree.bare.requiredProperty? declarator.bare source) =
      (pattern.namedChildren.filterMap
        (tree.requiredProperty? declarator source)).map Binding.bare := by
  rw [Cursor.namedChildren_bare]
  refine Cursor.filterMap_bareAll
    (fun property _ => requiredProperty?_bare tree declarator source property)
    (fun property _ hComment => ?_)
  simp [requiredProperty?, Cursor.kind_of_isComment hComment]

/-- Declarators that require a module and do not see it because of a comment. There has to be
a name for what they would bind. -/
def losesModule (tree : SyntaxTree) (declarator : Cursor) : Bool :=
  declarator.kind == .variableDeclarator && (declarator.child? .value).any tree.hidesModule &&
    (declarator.child? .name).any fun name =>
      name.kind == .identifier || name.kind == .objectPattern && !name.boundIdentifiers.isEmpty

/-- A declarator that sees the same module declares the same without the comments. -/
theorem declaratorBindings_bare_of_module {declarator : Cursor}
    (hModule : (declarator.bare.child? .value).bind tree.bare.requiredModule? =
      (declarator.child? .value).bind tree.requiredModule?) :
    tree.bare.declaratorBindings declarator.bare =
      (tree.declaratorBindings declarator).map Binding.bare := by
  unfold declaratorBindings
  rw [hModule, Cursor.child?_bare]
  cases declarator.child? .name with
  | none => rfl
  | some name =>
      simp only [Option.map_some, Cursor.kind_bare]
      split
      · simp [Binding.bare]
      · simp [Binding.bare]
      · exact filterMap_requiredProperty?_bare tree declarator _ name
      · simp [Cursor.boundIdentifiers_bare, Binding.bare]

/-- A pattern without names has no properties that a module could be taken apart into. -/
theorem filterMap_requiredProperty?_of_nameless {declarator pattern : Cursor} {source : String}
    (isObject : pattern.kind = .objectPattern) (nameless : pattern.boundIdentifiers = []) :
    pattern.namedChildren.filterMap (tree.requiredProperty? declarator source) = [] := by
  rw [List.eq_nil_iff_forall_not_mem]
  intro binding hBinding
  obtain ⟨identifier, hPlain, -⟩ := exists_requiredProperty_iff.mp ⟨binding, hBinding, rfl⟩
  have hBound := hPlain.mem_boundIdentifiers isObject
  rw [nameless] at hBound
  cases hBound

/-- A declarator that takes no required module apart binds all names of its pattern. -/
theorem declaratorBindings_of_pattern {declarator pattern : Cursor}
    (hPattern : declarator.child? .name = some pattern) (noName : pattern.kind ≠ .identifier)
    (whole : pattern.kind = .objectPattern →
      (declarator.child? .value).bind tree.requiredModule? = none) :
    tree.declaratorBindings declarator = pattern.boundIdentifiers.map fun identifier =>
      ⟨tree.textOf identifier, .pattern, declarator, none, none⟩ := by
  unfold declaratorBindings
  rw [hPattern]
  dsimp only
  split
  · exact absurd ‹_› noName
  · exact absurd ‹_› noName
  · next source isObject hModule =>
      rw [whole isObject] at hModule
      cases hModule
  · rfl

/-- A declarator that takes a required module apart binds the properties. -/
theorem declaratorBindings_of_properties {declarator pattern : Cursor} {source : String}
    (hPattern : declarator.child? .name = some pattern) (isObject : pattern.kind = .objectPattern)
    (hModule : (declarator.child? .value).bind tree.requiredModule? = some source) :
    tree.declaratorBindings declarator =
      pattern.namedChildren.filterMap (tree.requiredProperty? declarator source) := by
  simp only [declaratorBindings, hPattern, isObject, hModule]

/-- A declarator requires the same module, if no comment hides one. -/
theorem declaratorModule_bare {declarator : Cursor}
    (h : (declarator.child? .value).any tree.hidesModule = false) :
    (declarator.bare.child? .value).bind tree.bare.requiredModule? =
      (declarator.child? .value).bind tree.requiredModule? := by
  rw [Cursor.child?_bare]
  cases hValue : declarator.child? .value with
  | none => rfl
  | some value =>
      rw [hValue] at h
      exact requiredModule?_bare h

/-- A declarator with a hidden module requires none, and requires one without the comments. -/
theorem declaratorModule_of_hidesModule {declarator : Cursor}
    (h : (declarator.child? .value).any tree.hidesModule = true) :
    (declarator.child? .value).bind tree.requiredModule? = none ∧
      ∃ source, (declarator.bare.child? .value).bind tree.bare.requiredModule? = some source := by
  obtain ⟨value, hValue, hHides⟩ := (Option.any_eq_true _ _).mp h
  rw [Cursor.child?_bare, hValue]
  exact requiredModule?_of_hidesModule hHides

theorem name?_bare {declarator pattern : Cursor} (h : declarator.child? .name = some pattern) :
    declarator.bare.child? .name = some pattern.bare := by
  rw [Cursor.child?_bare, h]
  rfl

/-- A declarator that does not lose a module declares the same without the comments. What a
comment hides does not matter to a pattern that no module is taken apart by, or to one without
names. -/
theorem declaratorBindings_bare {declarator : Cursor}
    (isDeclarator : declarator.kind = .variableDeclarator)
    (h : tree.losesModule declarator = false) :
    tree.bare.declaratorBindings declarator.bare =
      (tree.declaratorBindings declarator).map Binding.bare := by
  cases hHides : (declarator.child? .value).any tree.hidesModule with
  | false => exact declaratorBindings_bare_of_module (declaratorModule_bare hHides)
  | true =>
      obtain ⟨hNone, source, hSource⟩ := declaratorModule_of_hidesModule hHides
      cases hName : declarator.child? .name with
      | none => simp [declaratorBindings, Cursor.child?_bare, hName]
      | some pattern =>
          have hBare := name?_bare hName
          simp only [losesModule, isDeclarator, hName, Option.any_some, hHides, beq_self_eq_true,
            Bool.true_and, Bool.or_eq_false_iff, beq_eq_false_iff_ne, Bool.and_eq_false_imp,
            beq_iff_eq, Bool.not_eq_false', List.isEmpty_iff] at h
          obtain ⟨noName, nameless⟩ := h
          rw [declaratorBindings_of_pattern hName noName fun _ => hNone]
          by_cases isObject : pattern.kind = .objectPattern
          · rw [declaratorBindings_of_properties hBare (pattern.kind_bare.trans isObject) hSource,
              filterMap_requiredProperty?_bare, nameless isObject,
              filterMap_requiredProperty?_of_nameless isObject (nameless isObject)]
            rfl
          · rw [declaratorBindings_of_pattern hBare (by rwa [Cursor.kind_bare])
              fun hObject => absurd (pattern.kind_bare.symm.trans hObject) isObject]
            simp [Cursor.boundIdentifiers_bare, Binding.bare]

/-- Bindings of a name by a variable declarator that know of no module. -/
def bindsLocally (binding : Binding) : Bool :=
  binding.kind == .single || binding.kind == .pattern

/-- What a declarator that loses a module declares by, and which module it is that it loses. -/
theorem exists_pattern_of_losesModule {declarator : Cursor}
    (h : tree.losesModule declarator = true) :
    declarator.kind = .variableDeclarator ∧ ∃ pattern source,
      declarator.child? .name = some pattern ∧
      (pattern.kind = .identifier ∨ pattern.kind = .objectPattern) ∧
      (declarator.child? .value).bind tree.requiredModule? = none ∧
      (declarator.bare.child? .value).bind tree.bare.requiredModule? = some source := by
  rw [losesModule, Bool.and_eq_true, Bool.and_eq_true, beq_iff_eq] at h
  obtain ⟨⟨isDeclarator, hHides⟩, h⟩ := h
  obtain ⟨pattern, hName, hPattern⟩ := (Option.any_eq_true _ _).mp h
  obtain ⟨hNone, source, hSource⟩ := declaratorModule_of_hidesModule hHides
  rw [Bool.or_eq_true, Bool.and_eq_true, beq_iff_eq, beq_iff_eq] at hPattern
  exact ⟨isDeclarator, pattern, source, hName, hPattern.imp_right And.left, hNone, hSource⟩

/-- A declarator that loses a module binds names that know of none. -/
theorem bindsLocally_of_losesModule {declarator : Cursor} (h : tree.losesModule declarator = true)
    {binding : Binding} (hBinding : binding ∈ tree.declaratorBindings declarator) :
    bindsLocally binding = true := by
  obtain ⟨-, pattern, source, hName, hPattern, hNone, -⟩ := exists_pattern_of_losesModule h
  rcases hPattern with isName | isObject
  · simp only [declaratorBindings, hName, isName, hNone, List.mem_singleton] at hBinding
    rw [hBinding]
    rfl
  · have noName : pattern.kind ≠ .identifier := by
      rw [isObject]
      exact nofun
    rw [declaratorBindings_of_pattern hName noName fun _ => hNone] at hBinding
    obtain ⟨identifier, -, rfl⟩ := List.mem_map.mp hBinding
    rfl

/-- Without the comments all names of such a declarator come from the module. -/
theorem not_bindsLocally_bare_of_losesModule {declarator : Cursor}
    (h : tree.losesModule declarator = true) {binding : Binding}
    (hBinding : binding ∈ tree.bare.declaratorBindings declarator.bare) :
    bindsLocally binding = false := by
  obtain ⟨-, pattern, source, hName, hPattern, -, hSource⟩ := exists_pattern_of_losesModule h
  rcases hPattern with isName | isObject
  · simp only [declaratorBindings, name?_bare hName, Cursor.kind_bare, isName, hSource,
      List.mem_singleton] at hBinding
    rw [hBinding]
    rfl
  · rw [declaratorBindings_of_properties (name?_bare hName) (pattern.kind_bare.trans isObject)
      hSource] at hBinding
    obtain ⟨property, -, hProperty⟩ := List.mem_filterMap.mp hBinding
    simp [bindsLocally, (requiredProperty?_spec hProperty).1]

/-- With the comments a declarator binds all the names that it binds without them. What it
takes out of a module are some of the names of its pattern. -/
theorem exists_declaratorBinding_of_bare {declarator : Cursor} {binding : Binding}
    (hBinding : binding ∈ tree.bare.declaratorBindings declarator.bare)
    (h : tree.losesModule declarator = true) :
    ∃ kept ∈ tree.declaratorBindings declarator, kept.name = binding.name := by
  obtain ⟨-, pattern, source, hName, -, hNone, -⟩ := exists_pattern_of_losesModule h
  obtain ⟨bareIdentifier, hIdentifier, hText, -⟩ :=
    (exists_declaratorBinding_iff (name?_bare hName)).mp ⟨binding, hBinding, rfl⟩
  rw [Cursor.boundIdentifiers_bare] at hIdentifier
  obtain ⟨identifier, hBound, rfl⟩ := List.mem_map.mp hIdentifier
  rw [textOf_bare] at hText
  refine (exists_declaratorBinding_iff hName).mpr ⟨identifier, hBound, hText, ?_⟩
  rintro ⟨-, value, source, hValue, hModule⟩
  rw [hValue, Option.bind_some, hModule] at hNone
  cases hNone

/-- Functions and classes declare the same by their own names. -/
theorem definitionBindings_bare (tree : SyntaxTree) (kind : BindingKind) (definition : Cursor) :
    tree.bare.definitionBindings kind definition.bare =
      (tree.definitionBindings kind definition).map Binding.bare := by
  rw [definitionBindings, definitionBindings, Cursor.child?_bare]
  cases definition.child? .name with
  | none => rfl
  | some name => simp [Binding.bare]

/-- Functions declare the same parameters. -/
theorem parameterBindings_bare (tree : SyntaxTree) (function : Cursor) :
    tree.bare.parameterBindings function.bare =
      (tree.parameterBindings function).map Binding.bare := by
  have hParameters : (function.bare.child? .parameters).or (function.bare.child? .parameter) =
      ((function.child? .parameters).or (function.child? .parameter)).map Cursor.bare := by
    rw [Cursor.child?_bare, Cursor.child?_bare, Option.map_or]
  rw [parameterBindings, parameterBindings, hParameters]
  cases (function.child? .parameters).or (function.child? .parameter) with
  | none => rfl
  | some parameters => simp [Cursor.boundIdentifiers_bare, Binding.bare]

theorem isHoisted_bare (declarator : Cursor) :
    isHoisted declarator.bare = isHoisted declarator := by
  rw [isHoisted, isHoisted, Cursor.parent?_bare]
  cases declarator.parent? with
  | none => rfl
  | some parent => simp

/-- A declaration belongs to the same scope, since the nodes around it are the same. -/
theorem ownerOf_bare (tree : SyntaxTree) (hoisted : Bool) (cursor : Cursor) :
    tree.bare.ownerOf hoisted cursor.bare = (tree.ownerOf hoisted cursor).bare := by
  simp only [ownerOf, Cursor.ancestors_bare, List.find?_map, Function.comp_def, Cursor.kind_bare,
    top_bare]
  generalize cursor.ancestors.find? _ = owner
  cases owner with
  | none => rfl
  | some owner => rfl

/-- A node that does not lose a module declares the same in the same scope without the
comments. -/
theorem declarations_bare {cursor : Cursor} (h : tree.losesModule cursor = false) :
    tree.bare.declarations cursor.bare =
      (tree.declarations cursor).map fun declared => (declared.1.bare, declared.2.bare) := by
  have hOuter : tree.bare.outerDeclarations cursor.bare =
      ((tree.outerDeclarations cursor).1.bare,
        (tree.outerDeclarations cursor).2.map Binding.bare) := by
    unfold outerDeclarations
    rw [Cursor.kind_bare]
    split
    · rw [importBindings_bare, top_bare]
    · next isDeclarator => rw [ownerOf_bare, isHoisted_bare, declaratorBindings_bare isDeclarator h]
    · rw [ownerOf_bare, definitionBindings_bare]
    · rw [ownerOf_bare, definitionBindings_bare]
    · rw [ownerOf_bare, definitionBindings_bare]
    · rfl
  have hOwn :
      (if cursor.kind.isFunctionScope then tree.bare.parameterBindings cursor.bare else []) =
      (if cursor.kind.isFunctionScope then tree.parameterBindings cursor else []).map
        Binding.bare := by
    split
    · exact parameterBindings_bare tree cursor
    · rfl
  simp [declarations, hOuter, hOwn, Function.comp_def]

theorem declarations_of_comment {cursor : Cursor} (h : cursor.kind = .comment) :
    tree.declarations cursor = [] := by
  simp [declarations, outerDeclarations, h, Kind.isFunctionScope]

/-- A declarator declares its names in one scope, and it has no parameters. -/
theorem declarations_of_declarator {cursor : Cursor} (h : cursor.kind = .variableDeclarator) :
    tree.declarations cursor = (tree.declaratorBindings cursor).map
      (tree.ownerOf (isHoisted cursor) cursor, ·) := by
  simp [declarations, outerDeclarations, h, Kind.isFunctionScope]

theorem kind_of_mem_importBindings {statement : Cursor} {binding : Binding}
    (h : binding ∈ tree.importBindings statement) : binding.kind = .imported := by
  obtain ⟨clause, -, h⟩ := List.mem_flatMap.mp h
  obtain ⟨part, -, h⟩ := List.mem_flatMap.mp h
  unfold importedIn at h
  split at h
  · rw [List.mem_singleton] at h
    rw [h]
  · obtain ⟨name, -, rfl⟩ := List.mem_map.mp h
    rfl
  · obtain ⟨specifier, -, h⟩ := List.mem_filterMap.mp h
    obtain ⟨name, -, rfl⟩ := Option.map_eq_some_iff.mp h
    rfl
  · cases h

/-- All names of a declarator have it for their site. -/
theorem site_of_mem_declaratorBindings {declarator : Cursor} {binding : Binding}
    (h : binding ∈ tree.declaratorBindings declarator) : binding.site = declarator := by
  unfold declaratorBindings at h
  split at h
  · cases h
  · split at h
    · rw [List.mem_singleton] at h
      rw [h]
    · rw [List.mem_singleton] at h
      rw [h]
    · obtain ⟨property, -, h⟩ := List.mem_filterMap.mp h
      exact (requiredProperty?_spec h).2
    · obtain ⟨identifier, -, rfl⟩ := List.mem_map.mp h
      rfl

theorem kind_of_mem_definitionBindings {kind : BindingKind} {definition : Cursor}
    {binding : Binding} (h : binding ∈ tree.definitionBindings kind definition) :
    binding.kind = kind := by
  unfold definitionBindings at h
  split at h
  · rw [List.mem_singleton] at h
    rw [h]
  · cases h

theorem kind_of_mem_parameterBindings {function : Cursor} {binding : Binding}
    (h : binding ∈ tree.parameterBindings function) : binding.kind = .parameter := by
  unfold parameterBindings at h
  split at h
  · cases h
  · obtain ⟨identifier, -, rfl⟩ := List.mem_map.mp h
    rfl

/-- Names that know of no module have for their site the declarator that binds them. -/
theorem site_of_bindsLocally {cursor : Cursor} {declared : Cursor × Binding}
    (h : declared ∈ tree.declarations cursor) (hLocal : bindsLocally declared.2 = true) :
    declared.2.site = cursor := by
  rcases List.mem_append.mp h with h | h
  · obtain ⟨binding, hBinding, rfl⟩ := List.mem_map.mp h
    split at hBinding
    · simp [bindsLocally, kind_of_mem_importBindings hBinding] at hLocal
    · exact site_of_mem_declaratorBindings hBinding
    · simp [bindsLocally, kind_of_mem_definitionBindings hBinding] at hLocal
    · simp [bindsLocally, kind_of_mem_definitionBindings hBinding] at hLocal
    · simp [bindsLocally, kind_of_mem_definitionBindings hBinding] at hLocal
    · cases hBinding
  · obtain ⟨binding, hBinding, rfl⟩ := List.mem_map.mp h
    split at hBinding
    · simp [bindsLocally, kind_of_mem_parameterBindings hBinding] at hLocal
    · cases hBinding

/-- Without the comments a node declares no names but those that it declares with them. -/
theorem exists_declared_of_bare {cursor : Cursor} {declared : Cursor × Binding}
    (h : declared ∈ tree.bare.declarations cursor.bare) :
    ∃ kept ∈ tree.declarations cursor,
      kept.1.key = declared.1.key ∧ kept.2.name = declared.2.name := by
  cases hLoses : tree.losesModule cursor with
  | false =>
      rw [declarations_bare hLoses] at h
      obtain ⟨kept, hKept, rfl⟩ := List.mem_map.mp h
      exact ⟨kept, hKept, (Cursor.key_bare _).symm, rfl⟩
  | true =>
      have isDeclarator := (exists_pattern_of_losesModule hLoses).1
      rw [declarations_of_declarator (cursor.kind_bare.trans isDeclarator)] at h
      obtain ⟨binding, hBinding, rfl⟩ := List.mem_map.mp h
      obtain ⟨kept, hKept, hName⟩ := exists_declaratorBinding_of_bare hBinding hLoses
      refine ⟨(tree.ownerOf (isHoisted cursor) cursor, kept), ?_, ?_, hName⟩
      · rw [declarations_of_declarator isDeclarator]
        exact List.mem_map_of_mem hKept
      · rw [isHoisted_bare, ownerOf_bare, Cursor.key_bare]

/-- The declarations of the tree without comments, node by node of the tree with them. -/
theorem walk_declarations_bare (tree : SyntaxTree) :
    tree.bare.walk.flatMap tree.bare.declarations =
      tree.walk.flatMap fun cursor => tree.bare.declarations cursor.bare := by
  rw [walk, walk, top_bare]
  refine Cursor.flatMap_walk_bare (fun _ _ => rfl) (fun cursor _ hComment => ?_)
  exact declarations_of_comment (cursor.kind_bare.trans (Cursor.kind_of_isComment hComment))

/-- Declarators that lose a module and bind a name in its place which nothing before them
binds in its scope. -/
def Obscures (tree : SyntaxTree) (declarator : Cursor) : Prop :=
  tree.losesModule declarator = true ∧ ∃ declared ∈ tree.declarations declarator,
    (ScopeTable.ofTree tree).lookup? declared.1.key declared.2.name = some declared.2

end SyntaxTree

namespace ScopeTable

open SyntaxTree

variable {tree : SyntaxTree}

/-- Declarations of a name in a scope. -/
def declares (scope : NodeKey) (name : String) (declared : Cursor × Binding) : Bool :=
  declared.1.key = scope ∧ declared.2.name = name

/-- The first declaration of a name in a scope, in the order of the walk, is the one that
counts. -/
theorem lookup?_ofTree (tree : SyntaxTree) (scope : NodeKey) (name : String) :
    (ofTree tree).lookup? scope name =
      ((tree.walk.flatMap tree.declarations).find? (declares scope name)).map Prod.snd := by
  rw [ofTree_eq, lookup?_ofDeclarations]
  rfl

/-- The same without the comments, told by the nodes of the tree with them. -/
theorem lookup?_ofTree_bare (tree : SyntaxTree) (scope : NodeKey) (name : String) :
    (ofTree tree.bare).lookup? scope name =
      ((tree.walk.flatMap fun cursor => tree.bare.declarations cursor.bare).find?
        (declares scope name)).map Prod.snd := by
  rw [lookup?_ofTree, walk_declarations_bare]

/-- The first declaration of a name is what its scope says of it. -/
theorem lookup?_of_find? {scope : NodeKey} {name : String} {found : Cursor × Binding}
    (h : (tree.walk.flatMap tree.declarations).find? (declares scope name) = some found) :
    (ofTree tree).lookup? found.1.key found.2.name = some found.2 := by
  obtain ⟨hKey, hName⟩ : found.1.key = scope ∧ found.2.name = name := by
    simpa [declares] using List.find?_some h
  rw [lookup?_ofTree, hKey, hName, h]
  rfl

/-- A name that a node declares without the comments is declared by it with them. -/
theorem exists_declares_of_bare {cursor : Cursor} {scope : NodeKey} {name : String}
    {declared : Cursor × Binding} (hDeclared : declared ∈ tree.bare.declarations cursor.bare)
    (h : declares scope name declared = true) :
    ∃ kept ∈ tree.declarations cursor, declares scope name kept = true := by
  obtain ⟨kept, hKept, hKey, hName⟩ := exists_declared_of_bare hDeclared
  refine ⟨kept, hKept, ?_⟩
  rwa [declares, hKey, hName]

/-- The first declaration of a name is the same without the comments, unless the declarator
that has it loses a module. The induction is on the nodes in the order of the walk. -/
theorem find?_declarations_bare {cursors : List Cursor} {scope : NodeKey} {name : String}
    (h : ∀ found, (cursors.flatMap tree.declarations).find? (declares scope name) = some found →
      ∀ cursor ∈ cursors, found ∈ tree.declarations cursor → tree.losesModule cursor = false) :
    (cursors.flatMap fun cursor => tree.bare.declarations cursor.bare).find?
        (declares scope name) =
      ((cursors.flatMap tree.declarations).find? (declares scope name)).map
        fun declared => (declared.1.bare, declared.2.bare) := by
  induction cursors with
  | nil => rfl
  | cons cursor others ih =>
      simp only [List.flatMap_cons, List.find?_append] at h ⊢
      cases hFound : (tree.declarations cursor).find? (declares scope name) with
      | none =>
          have hBare : (tree.bare.declarations cursor.bare).find? (declares scope name) = none := by
            rw [List.find?_eq_none] at hFound ⊢
            intro declared hDeclared hDeclares
            obtain ⟨kept, hKept, hKeeps⟩ := exists_declares_of_bare hDeclared hDeclares
            exact hFound kept hKept hKeeps
          rw [hFound, Option.none_or] at h
          rw [hBare, Option.none_or, Option.none_or]
          exact ih fun found hOther later hLater =>
            h found hOther later (List.mem_cons_of_mem _ hLater)
      | some found =>
          have hKept := h found (by rw [hFound, Option.some_or]) cursor List.mem_cons_self
            (List.mem_of_find?_eq_some hFound)
          have hDeclares : declares scope name ∘ (fun declared : Cursor × Binding =>
              (declared.1.bare, declared.2.bare)) = declares scope name := by
            funext declared
            simp [declares, Binding.bare]
          rw [declarations_bare hKept, List.find?_map, hDeclares, hFound]
          rfl

/-- Comments are of no account for the bindings of names exactly if no declarator obscures one. -/
theorem lookup?_ofTree_bare_iff :
    (∀ scope name, (ofTree tree.bare).lookup? scope name =
        ((ofTree tree).lookup? scope name).map Binding.bare) ↔
      ∀ declarator ∈ tree.walk, ¬tree.Obscures declarator := by
  constructor
  · -- The name would have to be bound by the same declarator without the comments, which
    -- then binds it to the module.
    rintro hSame declarator - ⟨hLoses, declared, hDeclared, hFound⟩
    have isDeclarator := (exists_pattern_of_losesModule hLoses).1
    have hLocal : bindsLocally declared.2 = true := by
      rw [declarations_of_declarator isDeclarator] at hDeclared
      obtain ⟨binding, hBinding, rfl⟩ := List.mem_map.mp hDeclared
      exact bindsLocally_of_losesModule hLoses hBinding
    have hBare := hSame declared.1.key declared.2.name
    rw [hFound, Option.map_some, lookup?_ofTree_bare] at hBare
    obtain ⟨other, hOther, hSame⟩ := Option.map_eq_some_iff.mp hBare
    obtain ⟨cursor, -, hOther⟩ := List.mem_flatMap.mp (List.mem_of_find?_eq_some hOther)
    have hSite : cursor.bare = declarator.bare := by
      rw [← site_of_bindsLocally hOther (by rw [hSame]; exact hLocal), hSame,
        ← site_of_bindsLocally hDeclared hLocal]
      rfl
    rw [hSite, declarations_of_declarator (declarator.kind_bare.trans isDeclarator)] at hOther
    obtain ⟨binding, hBinding, rfl⟩ := List.mem_map.mp hOther
    have hForeign := not_bindsLocally_bare_of_losesModule hLoses hBinding
    rw [show binding = declared.2.bare from hSame] at hForeign
    cases hLocal.symm.trans hForeign
  · intro hClear scope name
    rw [lookup?_ofTree_bare, lookup?_ofTree, find?_declarations_bare, Option.map_map,
      Option.map_map]
    · rfl
    · intro found hFound cursor hCursor hDeclared
      rw [Bool.eq_false_iff]
      intro hLoses
      exact hClear cursor hCursor ⟨hLoses, found, hDeclared, lookup?_of_find? hFound⟩

/-- The names that a scope gets from declarations, in their order. -/
def namesIn (scope : NodeKey) (declared : List (Cursor × Binding)) : List String :=
  declared.filterMap fun entry => if entry.1.key = scope then some entry.2.name else none

/-- A scope has the names that are declared in it. -/
theorem mem_namesIn_iff {scope : NodeKey} {name : String} {declared : List (Cursor × Binding)} :
    name ∈ namesIn scope declared ↔ ∃ entry ∈ declared, declares scope name entry = true := by
  simp [namesIn, declares]

theorem namesIn_append (scope : NodeKey) (first second : List (Cursor × Binding)) :
    namesIn scope (first ++ second) = namesIn scope first ++ namesIn scope second :=
  List.filterMap_append

/-- Names and scopes are the same if just the places of declarations are those without comments. -/
theorem namesIn_bare (scope : NodeKey) (declared : List (Cursor × Binding)) :
    namesIn scope (declared.map fun entry => (entry.1.bare, entry.2.bare)) =
      namesIn scope declared := by
  simp only [namesIn, List.filterMap_map, Function.comp_def, Cursor.key_bare]
  rfl

/-- A scope lists its bindings by the first declarations of their names. -/
theorem bindingsOf_ofTree (tree : SyntaxTree) (scope : NodeKey) :
    (ofTree tree).bindingsOf scope =
      (namesIn scope (tree.walk.flatMap tree.declarations)).eraseDups.filterMap
        ((ofTree tree).lookup? scope) := by
  simp only [bindingsOf, namesIn, ofTree, List.filterMap_map]
  rfl

/-- What a declarator binds in place of a module is bound before it, if it obscures nothing. -/
theorem mem_namesIn_of_losesModule {before after : List Cursor} {declarator : Cursor}
    {scope : NodeKey} {name : String} (hWalk : before ++ declarator :: after = tree.walk)
    (hLoses : tree.losesModule declarator = true) (hClear : ¬tree.Obscures declarator)
    (h : name ∈ namesIn scope (tree.declarations declarator)) :
    name ∈ namesIn scope (before.flatMap tree.declarations) := by
  obtain ⟨declared, hDeclared, hDeclares⟩ := mem_namesIn_iff.mp h
  by_contra hNew
  have hBefore : (before.flatMap tree.declarations).find? (declares scope name) = none := by
    rw [List.find?_eq_none]
    exact fun entry hEntry hOther => hNew (mem_namesIn_iff.mpr ⟨entry, hEntry, hOther⟩)
  cases hFound : (tree.declarations declarator).find? (declares scope name) with
  | none => exact List.find?_eq_none.mp hFound declared hDeclared hDeclares
  | some found =>
      have hFirst : (tree.walk.flatMap tree.declarations).find? (declares scope name) =
          some found := by
        rw [← hWalk, List.flatMap_append, List.flatMap_cons, List.find?_append,
          List.find?_append, hBefore, hFound]
        rfl
      exact hClear ⟨hLoses, found, List.mem_of_find?_eq_some hFound, lookup?_of_find? hFirst⟩

/-- A scope gets its names in the same order without the comments. The induction is on the
nodes that the walk has come to. -/
theorem eraseDups_namesIn_bare (hClear : ∀ declarator ∈ tree.walk, ¬tree.Obscures declarator)
    (scope : NodeKey) {before after : List Cursor} (hWalk : before ++ after = tree.walk) :
    (namesIn scope (before.flatMap fun cursor => tree.bare.declarations cursor.bare)).eraseDups =
      (namesIn scope (before.flatMap tree.declarations)).eraseDups := by
  induction before using List.reverseRecOn generalizing after with
  | nil => rfl
  | append_singleton before cursor ih =>
      rw [List.append_assoc, List.singleton_append] at hWalk
      have hNames := ih hWalk
      have hMem (name : String) :
          name ∈ namesIn scope (before.flatMap fun cursor => tree.bare.declarations cursor.bare) ↔
            name ∈ namesIn scope (before.flatMap tree.declarations) := by
        rw [← List.mem_eraseDups, hNames, List.mem_eraseDups]
      simp only [List.flatMap_append, List.flatMap_singleton, namesIn_append,
        List.eraseDups_append, hNames, List.removeAll, List.elem_eq_mem, hMem]
      cases hLoses : tree.losesModule cursor with
      | false => rw [declarations_bare hLoses, namesIn_bare]
      | true =>
          -- Neither with the comments nor without them is there a new name.
          have hOld : ∀ name ∈ namesIn scope (tree.declarations cursor),
              name ∈ namesIn scope (before.flatMap tree.declarations) := fun _ =>
            mem_namesIn_of_losesModule hWalk hLoses (hClear cursor (by simp [← hWalk]))
          have hBare : ∀ name ∈ namesIn scope (tree.bare.declarations cursor.bare),
              name ∈ namesIn scope (before.flatMap tree.declarations) := by
            intro name hName
            obtain ⟨declared, hDeclared, hDeclares⟩ := mem_namesIn_iff.mp hName
            exact hOld name (mem_namesIn_iff.mpr (exists_declares_of_bare hDeclared hDeclares))
          rw [List.filter_eq_nil_iff.mpr fun name hName => by simp [hBare name hName],
            List.filter_eq_nil_iff.mpr fun name hName => by simp [hOld name hName]]

/-- The bindings of a scope are the same without the comments, if no declarator obscures one. -/
theorem bindingsOf_ofTree_bare (hClear : ∀ declarator ∈ tree.walk, ¬tree.Obscures declarator)
    (scope : NodeKey) :
    (ofTree tree.bare).bindingsOf scope = ((ofTree tree).bindingsOf scope).map Binding.bare := by
  rw [bindingsOf_ofTree, bindingsOf_ofTree, walk_declarations_bare,
    eraseDups_namesIn_bare hClear scope (List.append_nil _), List.map_filterMap]
  congr 1
  funext name
  exact lookup?_ofTree_bare_iff.mpr hClear scope name

end ScopeTable

end ComponentQueries
