import ComponentQueries.Extraction
import ComponentQueries.Proofs.Scope.Declarations
import Mathlib.Data.Option.Basic

/-! The three routes to a template, as relations on the places of a tree. The list of
visits has exactly the templates on these routes, in the order of the passes. -/
namespace ComponentQueries

/-- The number of the pass that takes a route. -/
def Route.pass : Route → Nat
  | element => 1
  | hook => 2
  | exported => 3

namespace Source

variable (source : Source)

/-- The template that an expression stands for where a query is expected: itself, or the
value of the variable that it names. -/
inductive Targets : Cursor → Cursor → Prop where
  | inline {template : Cursor} (tagged : template.isTaggedTemplate = true) :
      Targets template template
  | held {identifier template : Cursor} {binding : Binding}
      (isName : identifier.kind = .identifier)
      (notTag : source.tree.textOf identifier ≠ source.settings.tagName)
      (notHook : source.tree.textOf identifier ≠ source.settings.hookName)
      (resolves : source.table.resolve? (source.tree.textOf identifier) identifier = some binding)
      (isVariable : binding.kind = .single) (value : binding.value? = some template)
      (tagged : template.isTaggedTemplate = true) :
      Targets identifier template

/-- Opening and self-closing elements with the name of the query element. -/
def BeginsElement (element : Cursor) : Prop :=
  (element.kind = .jsxOpeningElement ∨ element.kind = .jsxSelfClosingElement) ∧
    ∃ name, element.child? .name = some name ∧
      source.tree.textOf name = source.settings.elementName

/-- Attributes of the form `query={...}`, with the first expression in the braces. The name
comes first among the named children and the value last. -/
def IsQueryAttribute (entry expression : Cursor) : Prop :=
  entry.kind = .jsxAttribute ∧ ∃ name between value,
    entry.namedChildren = name :: (between ++ [value]) ∧ source.tree.textOf name = "query" ∧
      value.kind = .jsxExpression ∧ value.firstExpression? = some expression

/-- Calls of the hook that are no tagged templates, with their first argument. -/
def IsHookArgument (call expression : Cursor) : Prop :=
  call.kind = .callExpression ∧ call.isTaggedTemplate = false ∧
    (∃ callee, call.child? .function = some callee ∧ source.isHook callee = true) ∧
    ∃ arguments, call.child? .arguments = some arguments ∧
      arguments.firstExpression? = some expression

/-- Export statements at the top of the file that have neither a source nor the keyword for
the default export. -/
def IsOwnExport (statement : Cursor) : Prop :=
  statement ∈ source.tree.top.namedChildren ∧ statement.kind = .exportStatement ∧
    statement.child? .source = none ∧ ∀ child ∈ statement.children, child.kind ≠ .defaultKeyword

/-- A name in braces of an export statement, and the declaration that the name leads to. -/
def Exports (statement : Cursor) (binding : Binding) : Prop :=
  ∃ clause ∈ statement.namedChildren, clause.kind = .exportClause ∧
    ∃ specifier ∈ clause.namedChildren, specifier.kind = .exportSpecifier ∧
      ∃ name, specifier.child? .name = some name ∧
        source.table.followAliases source.tree
          (source.table.moduleBinding? (source.tree.textOf name)) = some binding

/-- The tagged templates on a route. -/
inductive Reaches : Route → Cursor → Prop where
  | element {element entry expression template : Cursor}
      (enabled : source.settings.staticQueryElements = true)
      (place : source.tree.top.Below element) (begins : source.BeginsElement element)
      (hEntry : entry ∈ element.namedChildren)
      (hAttribute : source.IsQueryAttribute entry expression)
      (target : source.Targets expression template) : Reaches .element template
  | hook {call expression template : Cursor} (place : source.tree.top.Below call)
      (argument : source.IsHookArgument call expression)
      (target : source.Targets expression template) : Reaches .hook template
  | inside {statement template : Cursor} (hExport : source.IsOwnExport statement)
      (place : statement.Below template) (tagged : template.isTaggedTemplate = true) :
      Reaches .exported template
  | traced {statement template : Cursor} {binding : Binding}
      (hExport : source.IsOwnExport statement) (leads : source.Exports statement binding)
      (place : binding.site.Below template) (tagged : template.isTaggedTemplate = true) :
      Reaches .exported template

variable {source}

/-- A variable leads to a template if the template is its initial value. -/
theorem variableTemplate?_eq_some_iff {identifier template : Cursor} :
    source.variableTemplate? identifier = some template ↔
      ∃ binding, source.table.resolve? (source.tree.textOf identifier) identifier = some binding ∧
        binding.kind = .single ∧ binding.value? = some template ∧
          template.isTaggedTemplate = true := by
  constructor
  · intro h
    obtain ⟨binding, hBinding, h⟩ := Option.bind_eq_some_iff.mp h
    obtain ⟨_, hKind, h⟩ := Option.bind_eq_some_iff.mp h
    obtain ⟨value, hValue, h⟩ := Option.bind_eq_some_iff.mp h
    obtain ⟨_, hTagged, h⟩ := Option.bind_eq_some_iff.mp h
    obtain rfl := Option.some.inj h
    exact ⟨binding, hBinding, (Option.guard_eq_some' _).mp hKind, hValue,
      (Option.guard_eq_some' _).mp hTagged⟩
  · rintro ⟨binding, hBinding, hKind, hValue, hTagged⟩
    refine Option.bind_eq_some_iff.mpr ⟨binding, hBinding, ?_⟩
    refine Option.bind_eq_some_iff.mpr ⟨(), (Option.guard_eq_some' _).mpr hKind, ?_⟩
    refine Option.bind_eq_some_iff.mpr ⟨template, hValue, ?_⟩
    exact Option.bind_eq_some_iff.mpr ⟨(), (Option.guard_eq_some' _).mpr hTagged, rfl⟩

/-- Looking for a target finds a template exactly where the expression has one. -/
theorem target?_visit_iff {path usage : String} {route : Route} {expression : Cursor}
    {visit : Visit} :
    (source.target? path usage route expression).bind Finding.visit? = some visit ↔
      visit.route = route ∧ source.Targets expression visit.template := by
  unfold target?
  constructor
  · intro h
    split at h
    · next hTagged =>
        cases h
        exact ⟨rfl, .inline hTagged⟩
    · split at h
      · next hName =>
          dsimp only at h
          split at h
          · cases h
          · next hOther =>
              split at h
              · next template hTemplate =>
                  cases h
                  obtain ⟨binding, hBinding, hKind, hValue, hTagged⟩ :=
                    variableTemplate?_eq_some_iff.mp hTemplate
                  exact ⟨rfl, .held hName (fun hTag => hOther (Or.inl hTag))
                    (fun hHook => hOther (Or.inr hHook)) hBinding hKind hValue hTagged⟩
              · cases h
      · cases h
  · obtain ⟨template, taken⟩ := visit
    rintro ⟨rfl, h⟩
    cases h with
    | inline hTagged => rw [if_pos hTagged]; rfl
    | held hName hTag hHook hBinding hKind hValue hTagged =>
        have hPlain : ¬expression.isTaggedTemplate = true := by
          simp [Cursor.isTaggedTemplate, hName]
        have hTemplate := variableTemplate?_eq_some_iff.mpr
          ⟨_, hBinding, hKind, hValue, hTagged⟩
        rw [if_neg hPlain, if_pos hName]
        dsimp only
        rw [if_neg (not_or.mpr ⟨hTag, hHook⟩), hTemplate]
        rfl

theorem isQueryElement_iff {element : Cursor} :
    source.isQueryElement element = true ↔ source.BeginsElement element := by
  simp [isQueryElement, BeginsElement, Option.any_eq_true]

/-- The expression of a query attribute is found if there is one. -/
theorem queryAttribute?_eq_some_iff {entry expression : Cursor} :
    source.queryAttribute? entry = some expression ↔ source.IsQueryAttribute entry expression := by
  unfold queryAttribute? IsQueryAttribute
  constructor
  · intro h
    split at h
    · next name second others hKind hChildren =>
        dsimp only at h
        split at h
        · next hQuery =>
            have hSplit := List.dropLast_concat_getLast (List.cons_ne_nil second others)
            rw [List.getLast_eq_getLastD] at hSplit
            refine ⟨hKind, name, (second :: others).dropLast, _, ?_, hQuery.1, hQuery.2, h⟩
            rw [hChildren, List.getLastD_cons, hSplit]
        · cases h
    · cases h
  · rintro ⟨hKind, name, between, value, hChildren, hQuery, hValue, hFirst⟩
    cases between with
    | nil =>
        simp only [hKind, hChildren, List.nil_append]
        simp [hQuery, hValue, hFirst]
    | cons second others =>
        have hLast : (second :: (others ++ [value])).getLastD second = value := by
          rw [List.getLastD_cons, List.getLastD_concat]
        simp only [hKind, hChildren, List.cons_append, hLast]
        rw [if_pos ⟨hQuery, hValue⟩, hFirst]

/-- Visits come from the expressions that lead to a template. -/
theorem mem_targets_iff {path usage : String} {route : Route} {expressions : List Cursor}
    {visit : Visit} :
    visit ∈ (expressions.filterMap (source.target? path usage route)).filterMap Finding.visit? ↔
      ∃ expression ∈ expressions,
        visit.route = route ∧ source.Targets expression visit.template := by
  simp only [List.filterMap_filterMap, List.mem_filterMap, target?_visit_iff]

/-- Elements lead to the templates that their query attributes reach, if elements count at all. -/
theorem mem_elementFindings_iff {path : String} {visit : Visit}
    (enabled : source.settings.staticQueryElements = true) :
    visit ∈ (source.elementFindings path).filterMap Finding.visit? ↔
      visit.route = .element ∧ source.Reaches .element visit.template := by
  rw [elementFindings, List.filterMap_flatMap, List.mem_flatMap]
  constructor
  · rintro ⟨element, hElement, h⟩
    obtain ⟨hWalk, hBegins⟩ := List.mem_filter.mp hElement
    obtain ⟨expression, hExpression, hRoute, hTarget⟩ := mem_targets_iff.mp h
    obtain ⟨entry, hEntry, hAttribute⟩ := List.mem_filterMap.mp hExpression
    exact ⟨hRoute, .element enabled (Cursor.mem_walk_iff.mp hWalk) (isQueryElement_iff.mp hBegins)
      hEntry (queryAttribute?_eq_some_iff.mp hAttribute) hTarget⟩
  · rintro ⟨hRoute, h⟩
    cases h with
    | element _ place begins hEntry hAttribute target =>
        refine ⟨_, List.mem_filter.mpr ⟨Cursor.mem_walk_iff.mpr place, isQueryElement_iff.mpr begins⟩,
          mem_targets_iff.mpr ⟨_, ?_, hRoute, target⟩⟩
        exact List.mem_filterMap.mpr ⟨_, hEntry, queryAttribute?_eq_some_iff.mpr hAttribute⟩

/-- The argument of the hook is the first expression in a call of it. -/
theorem isHookArgument_iff {call expression : Cursor} :
    source.IsHookArgument call expression ↔ source.isHookCall call = true ∧
      (call.child? .arguments).bind Cursor.firstExpression? = some expression := by
  simp only [IsHookArgument, isHookCall, Bool.and_eq_true, beq_iff_eq, Bool.not_eq_true',
    Option.any_eq_true, Option.bind_eq_some_iff, and_assoc]

/-- Calls of the hook lead to the templates that their arguments reach. -/
theorem mem_hookFindings_iff {path : String} {visit : Visit} :
    visit ∈ (source.hookFindings path).filterMap Finding.visit? ↔
      visit.route = .hook ∧ source.Reaches .hook visit.template := by
  rw [hookFindings, mem_targets_iff]
  constructor
  · rintro ⟨expression, hExpression, hRoute, hTarget⟩
    obtain ⟨call, hCall, hArgument⟩ := List.mem_filterMap.mp hExpression
    obtain ⟨hWalk, hHook⟩ := List.mem_filter.mp hCall
    exact ⟨hRoute, .hook (Cursor.mem_walk_iff.mp hWalk)
      (isHookArgument_iff.mpr ⟨hHook, hArgument⟩) hTarget⟩
  · rintro ⟨hRoute, h⟩
    cases h with
    | @hook call expression _ place argument target =>
        obtain ⟨hHook, hArgument⟩ := isHookArgument_iff.mp argument
        refine ⟨expression, List.mem_filterMap.mpr ⟨call, ?_, hArgument⟩, hRoute, target⟩
        exact List.mem_filter.mpr ⟨Cursor.mem_walk_iff.mpr place, hHook⟩

theorem isNamedExport_iff {statement : Cursor} :
    statement.isNamedExport = true ↔ statement.kind = .exportStatement ∧
      ∀ child ∈ statement.children, child.kind ≠ .defaultKeyword := by
  simp [Cursor.isNamedExport]

/-- The exports that are searched are those of the file itself, without a default and without
another module. -/
theorem mem_namedExports_iff {statement : Cursor} :
    statement ∈ source.tree.namedExports ↔ source.IsOwnExport statement := by
  rw [SyntaxTree.namedExports, List.mem_filter, Bool.and_eq_true, isNamedExport_iff,
    Option.isNone_iff_eq_none]
  constructor
  · rintro ⟨hTop, ⟨hKind, hDefault⟩, hSource⟩
    exact ⟨hTop, hKind, hSource, hDefault⟩
  · rintro ⟨hTop, hKind, hSource, hDefault⟩
    exact ⟨hTop, ⟨hKind, hDefault⟩, hSource⟩

theorem mem_exportSpecifiers_iff {statement specifier : Cursor} :
    specifier ∈ statement.exportSpecifiers ↔
      ∃ clause ∈ statement.namedChildren, clause.kind = .exportClause ∧
        specifier ∈ clause.namedChildren ∧ specifier.kind = .exportSpecifier := by
  simp [Cursor.exportSpecifiers, and_assoc]

/-- An export lists the declarations that its names lead to. -/
theorem mem_exportedBindings_iff {statement : Cursor} {binding : Binding} :
    binding ∈ statement.exportSpecifiers.filterMap source.exportedBinding? ↔
      source.Exports statement binding := by
  simp only [List.mem_filterMap, mem_exportSpecifiers_iff, exportedBinding?,
    Option.bind_eq_some_iff]
  constructor
  · rintro ⟨specifier, ⟨clause, hClause, hKind, hSpecifier, hKind'⟩, hName⟩
    exact ⟨clause, hClause, hKind, specifier, hSpecifier, hKind', hName⟩
  · rintro ⟨clause, hClause, hKind, specifier, hSpecifier, hKind', hName⟩
    exact ⟨specifier, ⟨clause, hClause, hKind, hSpecifier, hKind'⟩, hName⟩

theorem mem_templatesIn_iff {cursor template : Cursor} :
    template ∈ templatesIn cursor ↔ cursor.Below template ∧ template.isTaggedTemplate = true := by
  rw [templatesIn, List.mem_filter, Cursor.mem_walk_iff]

/-- Exports lead to the templates in them and in the declarations that they list. -/
theorem mem_exportVisits_iff {visit : Visit} :
    visit ∈ source.exportVisits ↔
      visit.route = .exported ∧ source.Reaches .exported visit.template := by
  obtain ⟨template, route⟩ := visit
  simp only [exportVisits, List.mem_flatMap, List.mem_map, mem_namedExports_iff, exportTemplates,
    List.mem_append, mem_templatesIn_iff, Visit.mk.injEq]
  constructor
  · rintro ⟨statement, hExport, _, h, rfl, rfl⟩
    rcases h with ⟨hPlace, hTagged⟩ | ⟨binding, hBinding, hPlace, hTagged⟩
    · exact ⟨rfl, .inside hExport hPlace hTagged⟩
    · exact ⟨rfl, .traced hExport (mem_exportedBindings_iff.mp hBinding) hPlace hTagged⟩
  · rintro ⟨rfl, h⟩
    cases h with
    | inside hExport hPlace hTagged =>
        exact ⟨_, hExport, template, Or.inl ⟨hPlace, hTagged⟩, rfl, rfl⟩
    | traced hExport leads hPlace hTagged =>
        exact ⟨_, hExport, template,
          Or.inr ⟨_, mem_exportedBindings_iff.mpr leads, hPlace, hTagged⟩, rfl, rfl⟩

/-- The first pass yields the templates of elements, and none if elements are switched off. -/
theorem mem_elementPass_iff {path : String} {visit : Visit} :
    visit ∈ (if source.settings.staticQueryElements then source.elementFindings path
      else []).filterMap Finding.visit? ↔
        visit.route = .element ∧ source.Reaches .element visit.template := by
  split
  · next enabled => exact mem_elementFindings_iff enabled
  · next disabled =>
      constructor
      · intro h
        cases h
      · rintro ⟨_, h⟩
        cases h with
        | element enabled => exact absurd enabled disabled

/-- The visits by route, in the order in which the routes are gone. -/
theorem visits_eq (source : Source) (path : String) :
    source.visits path =
      (if source.settings.staticQueryElements then source.elementFindings path
        else []).filterMap Finding.visit? ++
      (source.hookFindings path).filterMap Finding.visit? ++ source.exportVisits := by
  rw [visits, findings, List.filterMap_append]

/-- The templates that are read are those on the routes. -/
theorem mem_visits_iff {path : String} {visit : Visit} :
    visit ∈ source.visits path ↔ source.Reaches visit.route visit.template := by
  rw [visits_eq, List.mem_append, List.mem_append, mem_elementPass_iff, mem_hookFindings_iff,
    mem_exportVisits_iff]
  cases visit.route <;> simp

/-- A route is taken up only after the routes of earlier passes are done. -/
theorem visits_in_passes (source : Source) (path : String) :
    (source.visits path).Pairwise fun earlier later =>
      earlier.route.pass ≤ later.route.pass := by
  have hSame : ∀ (route : Route) (visits : List Visit), (∀ visit ∈ visits, visit.route = route) →
      visits.Pairwise fun earlier later => earlier.route.pass ≤ later.route.pass := by
    intro route visits h
    refine List.pairwise_of_forall_mem_list fun first hFirst second hSecond => ?_
    have hRoute : first.route = second.route := (h first hFirst).trans (h second hSecond).symm
    exact Nat.le_of_eq (congrArg Route.pass hRoute)
  rw [visits_eq, List.pairwise_append, List.pairwise_append]
  refine ⟨⟨hSame .element _ fun visit h => (mem_elementPass_iff.mp h).1,
    hSame .hook _ fun visit h => (mem_hookFindings_iff.mp h).1, ?_⟩,
    hSame .exported _ fun visit h => (mem_exportVisits_iff.mp h).1, ?_⟩
  · intro first hFirst second hSecond
    rw [(mem_elementPass_iff.mp hFirst).1, (mem_hookFindings_iff.mp hSecond).1]
    decide
  · intro first hFirst second hSecond
    rw [(mem_exportVisits_iff.mp hSecond).1]
    cases first.route <;> decide

/-- A template that an expression of the tree leads to is in the tree. -/
theorem Targets.place {tree : SyntaxTree} {settings : Settings} {expression template : Cursor}
    (target : (ofTree tree settings).Targets expression template)
    (h : tree.top.Below expression) : tree.top.Below template := by
  cases target with
  | inline _ => exact h
  | held _ _ _ resolves _ value _ =>
      have hSite := ScopeTable.site_below_of_holds (ScopeTable.holds_of_resolve? resolves)
      unfold Binding.value? at value
      split at value
      · exact hSite.role value
      · cases value

theorem IsQueryAttribute.place {top entry expression : Cursor} (h : top.Below entry)
    (hAttribute : source.IsQueryAttribute entry expression) : top.Below expression := by
  obtain ⟨_, name, between, value, hChildren, _, _, hFirst⟩ := hAttribute
  have hValue : value ∈ entry.namedChildren := by simp [hChildren]
  exact (h.named hValue).expression hFirst

theorem IsHookArgument.place {top call expression : Cursor} (h : top.Below call)
    (argument : source.IsHookArgument call expression) : top.Below expression := by
  obtain ⟨_, _, _, arguments, hArguments, hFirst⟩ := argument
  exact (h.role hArguments).expression hFirst

/-- Every route ends at a place of the tree, also one that leads through a declaration. -/
theorem Reaches.place {tree : SyntaxTree} {settings : Settings} {route : Route}
    {template : Cursor} (h : (ofTree tree settings).Reaches route template) :
    tree.top.Below template := by
  cases h with
  | element _ place _ hEntry hAttribute target =>
      exact target.place (hAttribute.place (place.named hEntry))
  | hook place argument target => exact target.place (argument.place place)
  | inside hExport place _ =>
      exact (Cursor.below_of_mem_children
        (Cursor.mem_children_of_mem_namedChildren hExport.1)).trans place
  | traced _ leads place _ =>
      obtain ⟨_, _, _, _, _, _, _, _, hBinding⟩ := leads
      exact (ScopeTable.site_below_of_holds (ScopeTable.holds_of_followAliases hBinding)).trans place

end Source

end ComponentQueries
