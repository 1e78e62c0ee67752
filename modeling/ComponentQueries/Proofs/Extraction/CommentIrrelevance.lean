import ComponentQueries.Extraction
import ComponentQueries.Proofs.Scope.HiddenModules
import ComponentQueries.Proofs.SyntaxTree.NodeBuilders

/-! Extraction without comments. Exports, tags and queries are found at the same places, so
that all that comments can change is what the table says about a required module. -/
namespace ComponentQueries

namespace Cursor

/-- Whether a node has a child of some kind does not depend on comments, if the kind is another. -/
theorem any_kind_bare (kind : Kind) (h : kind ≠ .comment) (cursor : Cursor) :
    cursor.bare.children.any (·.kind == kind) = cursor.children.any (·.kind == kind) := by
  rw [children_bare]
  refine any_bareAll (fun child _ => by simp) (fun child _ hComment => ?_)
  simp [kind_of_isComment hComment, Ne.symm h]

/-- Exports without a default stay such. -/
theorem isNamedExport_bare (cursor : Cursor) :
    cursor.bare.isNamedExport = cursor.isNamedExport := by
  rw [isNamedExport, isNamedExport, kind_bare, any_kind_bare .defaultKeyword nofun]

theorem isAsync_bare (cursor : Cursor) : cursor.bare.isAsync = cursor.isAsync :=
  any_kind_bare .asyncKeyword nofun cursor

theorem isFunctionValue_bare (cursor : Cursor) :
    cursor.bare.isFunctionValue = cursor.isFunctionValue := by
  simp [isFunctionValue]

/-- The specifiers of an export are told by their kind, so the comments between them are passed
over. -/
theorem exportSpecifiers_bare (statement : Cursor) :
    statement.bare.exportSpecifiers = statement.exportSpecifiers.map bare := by
  simp only [exportSpecifiers, namedChildren_filter_bare .exportClause nofun, List.flatMap_map,
    namedChildren_filter_bare .exportSpecifier nofun, List.map_flatMap]

/-- The first declarator is told by its kind as well. -/
theorem firstDeclarator?_bare (declaration : Cursor) :
    declaration.bare.firstDeclarator? = declaration.firstDeclarator?.map bare :=
  namedChildren_find?_bare .variableDeclarator nofun declaration

/-- Tagged templates are told by the role of the template. -/
theorem isTaggedTemplate_bare (cursor : Cursor) :
    cursor.bare.isTaggedTemplate = cursor.isTaggedTemplate := by
  rw [isTaggedTemplate, isTaggedTemplate, kind_bare, any_child?_bare]
  simp

end Cursor

namespace SyntaxTree

variable (tree : SyntaxTree)

theorem nameText?_bare (cursor : Cursor) :
    tree.bare.nameText? cursor.bare = tree.nameText? cursor := by
  rw [nameText?, nameText?, Cursor.child?_bare, Option.map_map]
  exact Option.map_congr fun name _ => textOf_bare tree name

/-- A declaration has the name of its first declarator. -/
theorem declaratorName?_bare (declaration : Cursor) :
    tree.bare.declaratorName? declaration.bare = tree.declaratorName? declaration := by
  rw [declaratorName?, declaratorName?, Cursor.firstDeclarator?_bare]
  cases declaration.firstDeclarator? with
  | none => rfl
  | some declarator =>
      dsimp only [Option.map_some, Option.bind_eq_bind, Option.bind_some]
      rw [Cursor.child?_bare]
      cases declarator.child? .name with
      | none => rfl
      | some name =>
          dsimp only [Option.map_some, Option.bind_some]
          rw [Cursor.kind_bare, textOf_bare]

/-- An export has the same name, whichever kind of declaration it is of. -/
theorem exportedName?_bare (statement : Cursor) :
    tree.bare.exportedName? statement.bare = tree.exportedName? statement := by
  rw [exportedName?, exportedName?, Cursor.child?_bare]
  cases statement.child? .declaration with
  | none => rfl
  | some declaration =>
      simp only [Option.map_some, Cursor.kind_bare, nameText?_bare, declaratorName?_bare]

/-- So has the capability that a declaration stands for. -/
theorem declaredApi?_bare (statement : Cursor) :
    tree.bare.declaredApi? statement.bare = tree.declaredApi? statement := by
  rw [declaredApi?, declaredApi?, Cursor.child?_bare]
  cases statement.child? .declaration with
  | none => rfl
  | some declaration =>
      simp only [Option.map_some, Cursor.kind_bare, nameText?_bare, declaratorName?_bare]

theorem specifierName?_bare (specifier : Cursor) :
    tree.bare.specifierName? specifier.bare = tree.specifierName? specifier := by
  rw [specifierName?, specifierName?, Cursor.child?_bare, Cursor.child?_bare, ← Option.map_or,
    Option.map_map]
  exact Option.map_congr fun name _ => textOf_bare tree name

/-- Functions and variables with function values are asynchronous by a keyword among their
children. -/
theorem isAsyncExport_bare (statement : Cursor) :
    isAsyncExport statement.bare = isAsyncExport statement := by
  rw [isAsyncExport, isAsyncExport, Cursor.child?_bare]
  cases statement.child? .declaration with
  | none => rfl
  | some declaration =>
      simp only [Option.map_some, Cursor.kind_bare, Cursor.isAsync_bare,
        Cursor.firstDeclarator?_bare]
      cases declaration.firstDeclarator? with
      | none => rfl
      | some declarator =>
          simp only [Option.map_some, Option.bind_some]
          rw [Cursor.any_child?_bare fun value => by
            rw [Cursor.isFunctionValue_bare, Cursor.isAsync_bare]]

/-- The statements at the top of a file that are named exports. -/
theorem filter_isNamedExport_bare :
    tree.bare.top.namedChildren.filter Cursor.isNamedExport =
      (tree.top.namedChildren.filter Cursor.isNamedExport).map Cursor.bare := by
  rw [top_bare, Cursor.namedChildren_bare]
  refine Cursor.filter_bareAll (fun statement _ => statement.isNamedExport_bare)
    (fun statement _ hComment => ?_)
  simp [Cursor.isNamedExport, Cursor.kind_of_isComment hComment]

/-- The exports that are searched for queries stand in the same order. -/
theorem namedExports_bare : tree.bare.namedExports = tree.namedExports.map Cursor.bare := by
  rw [namedExports, namedExports, top_bare, Cursor.namedChildren_bare]
  refine Cursor.filter_bareAll (fun statement _ => ?_) (fun statement _ hComment => ?_)
  · rw [statement.isNamedExport_bare, Cursor.child?_bare, Option.isNone_map]
  · simp [Cursor.isNamedExport, Cursor.kind_of_isComment hComment]

/-- Whether a name is exported is asked of declarations and specifiers, which are the same. -/
theorem exportsName_bare (name : String) : tree.bare.exportsName name = tree.exportsName name := by
  rw [exportsName, exportsName, filter_isNamedExport_bare, List.any_map]
  congr 1
  funext statement
  simp only [Function.comp_apply, Cursor.exportSpecifiers_bare, List.any_map, Function.comp_def,
    specifierName?_bare, declaredApi?_bare]

end SyntaxTree

/-- A component has the same capabilities without the comments. -/
theorem Features.ofTree_bare (tree : SyntaxTree) :
    Features.ofTree tree.bare = Features.ofTree tree := by
  simp only [Features.ofTree, SyntaxTree.exportsName_bare]

/-- A binding has the value that its declarator gives it. -/
theorem Binding.value?_bare (binding : Binding) :
    binding.bare.value? = binding.value?.map Cursor.bare := by
  simp only [Binding.value?, Binding.bare, Cursor.kind_bare, Cursor.child?_bare]
  split
  · rfl
  · rfl

namespace ScopeTable

/-- The second table says of the tree without comments what the first says of the tree. -/
structure Bares (table stripped : ScopeTable) : Prop where
  program : stripped.program = table.program
  lookup? : ∀ scope name, stripped.lookup? scope name =
    (table.lookup? scope name).map Binding.bare

section Resolution

variable {table stripped : ScopeTable} (same : table.Bares stripped)

include same

/-- A name refers to the same declaration, since it is looked up in the scopes around the place
from the inside out. -/
theorem resolve?_bare (name : String) (cursor : Cursor) :
    stripped.resolve? name cursor.bare = (table.resolve? name cursor).map Binding.bare := by
  rw [resolve?, resolve?, Cursor.ancestors_bare, ← List.map_cons, List.findSome?_map,
    List.map_findSome?]
  congr 1
  funext scope
  simp only [Function.comp_apply, Cursor.kind_bare, Cursor.key_bare, same.lookup?]
  split
  · rfl
  · rfl

theorem moduleBinding?_bare (name : String) :
    stripped.moduleBinding? name = (table.moduleBinding? name).map Binding.bare := by
  rw [moduleBinding?, same.program, same.lookup?]
  rfl

/-- Names come from the same modules. -/
theorem refersToModule_bare (name : String) (cursor : Cursor) (source : String) :
    stripped.refersToModule name cursor.bare source = table.refersToModule name cursor source := by
  rw [refersToModule, refersToModule, resolve?_bare same]
  cases table.resolve? name cursor with
  | none => rfl
  | some binding => rfl

end Resolution

/-- A variable stays an alias of the name that is its value. -/
theorem aliasOf?_bare (binding : Binding) :
    aliasOf? binding.bare = (aliasOf? binding).map Cursor.bare := by
  have hKind : binding.bare.kind = binding.kind := rfl
  rw [aliasOf?, aliasOf?, hKind, Binding.value?_bare]
  split
  · cases binding.value? with
    | none => rfl
    | some value =>
        by_cases hName : value.kind = .identifier
        · simp [Option.filter, hName]
        · simp [Option.filter, hName]
  · rfl

/-- A chain of aliases leads to the same declaration. The induction is on the number of
declarations that are still looked at. -/
theorem followWithin_bare {table stripped : ScopeTable} (same : table.Bares stripped)
    (tree : SyntaxTree) (hops : Nat) (binding : Option Binding) :
    stripped.followWithin tree.bare hops (binding.map Binding.bare) =
      (table.followWithin tree hops binding).map Binding.bare := by
  induction hops generalizing binding with
  | zero => rfl
  | succ hops ih =>
      cases binding with
      | none => rfl
      | some binding =>
          have hSite : binding.bare.site = binding.site.bare := rfl
          simp only [Option.map_some, followWithin, aliasOf?_bare]
          cases aliasOf? binding with
          | none => rfl
          | some target =>
              simp only [Option.map_some, hSite, SyntaxTree.textOf_bare, resolve?_bare same, ih]

end ScopeTable

/-- The second source is what extraction looks at in a file without the comments of the
first. -/
structure Source.Bares (source stripped : Source) : Prop where
  tree : stripped.tree = source.tree.bare
  table : source.table.Bares stripped.table
  settings : stripped.settings = source.settings

namespace Source

/-- A template has the same first substitution. -/
theorem substitution?_bare (template : Cursor) :
    substitution? template.bare = (substitution? template).map Cursor.bare :=
  Cursor.namedChildren_find?_bare .templateSubstitution nofun template

section Tags

variable {source stripped : Source} (same : source.Bares stripped)

include same

/-- A tag that is a name has the same origin. -/
theorem nameOrigin_bare (tag : Cursor) :
    stripped.nameOrigin tag.bare = source.nameOrigin tag := by
  simp only [nameOrigin, same.tree, same.settings, SyntaxTree.textOf_bare,
    ScopeTable.resolve?_bare same.table]
  cases source.table.resolve? (source.tree.textOf tag) tag with
  | none => rfl
  | some binding => rfl

theorem member?_bare (expression : Cursor) :
    stripped.member? expression.bare = source.member? expression := by
  rw [member?, member?, Cursor.child?_bare, Cursor.child?_bare]
  cases expression.child? .object with
  | none => rfl
  | some object =>
      cases expression.child? .property with
      | none => rfl
      | some property =>
          dsimp only [Option.map_some, Option.bind_eq_bind, Option.bind_some]
          rw [same.tree, Cursor.kind_bare, SyntaxTree.textOf_bare, SyntaxTree.textOf_bare]

/-- So has a tag that is a member of a module. -/
theorem memberOrigin_bare (tag : Cursor) :
    stripped.memberOrigin tag.bare = source.memberOrigin tag := by
  rw [memberOrigin, memberOrigin, member?_bare same]
  cases source.member? tag with
  | none => rfl
  | some names =>
      obtain ⟨object, property⟩ := names
      simp only [same.settings, ScopeTable.resolve?_bare same.table]
      cases source.table.resolve? object tag with
      | none => rfl
      | some binding => rfl

theorem tagOrigin_bare (tag : Cursor) : stripped.tagOrigin tag.bare = source.tagOrigin tag := by
  rw [tagOrigin, tagOrigin, Cursor.kind_bare]
  split
  · exact nameOrigin_bare same tag
  · exact memberOrigin_bare same tag
  · rfl

/-- A template is read by its own text and place. -/
theorem readTemplate_bare (call template : Cursor) :
    stripped.readTemplate call.bare template.bare = source.readTemplate call template := by
  have hRange : stripped.templateRange template.bare = source.templateRange template := by
    simp [templateRange, same.tree]
  have hBody : stripped.templateBody template.bare = source.templateBody template := by
    simp [templateBody, same.tree]
  rw [readTemplate, readTemplate, substitution?_bare]
  cases substitution? template with
  | none =>
      simp only [Option.map_none, hRange, hBody, same.tree, SyntaxTree.text_bare,
        Cursor.node_bare, Node.start_bare]
  | some substitution =>
      simp only [Option.map_some, same.tree, Cursor.node_bare, SyntaxTree.rangeOf_bare]

/-- A tagged template is read the same without the comments. -/
theorem readTag_bare (call : Cursor) : stripped.readTag call.bare = source.readTag call := by
  rw [readTag, readTag, Cursor.isTaggedTemplate_bare, Cursor.child?_bare, Cursor.child?_bare]
  split
  · cases call.child? .function with
    | none => rfl
    | some tag =>
        cases call.child? .arguments with
        | none => rfl
        | some template =>
            simp only [Option.map_some, tagOrigin_bare same, readTemplate_bare same, same.tree,
              SyntaxTree.path_bare]
  · rfl

/-- A variable leads to the same template. -/
theorem variableTemplate?_bare (identifier : Cursor) :
    stripped.variableTemplate? identifier.bare =
      (source.variableTemplate? identifier).map Cursor.bare := by
  rw [variableTemplate?, variableTemplate?, same.tree, SyntaxTree.textOf_bare,
    ScopeTable.resolve?_bare same.table]
  cases source.table.resolve? (source.tree.textOf identifier) identifier with
  | none => rfl
  | some binding =>
      have hKind : binding.bare.kind = binding.kind := rfl
      dsimp only [Option.map_some, Option.bind_eq_bind, Option.bind_some]
      rw [Binding.value?_bare, hKind, Option.map_bind]
      congr 1
      funext _
      cases binding.value? with
      | none => rfl
      | some value =>
          dsimp only [Option.map_some, Option.bind_some, Function.comp_apply]
          rw [Cursor.isTaggedTemplate_bare, Option.map_bind]
          rfl

end Tags

end Source

/-- The visit in the tree without comments. -/
def Visit.bare (visit : Visit) : Visit :=
  { visit with template := visit.template.bare }

/-- The finding in the tree without comments. -/
def Finding.bare : Finding → Finding
  | template visit => .template visit.bare
  | unresolved warning => .unresolved warning

namespace Source

/-- The templates below a node are met in the same order. -/
theorem templatesIn_bare (cursor : Cursor) :
    templatesIn cursor.bare = (templatesIn cursor).map Cursor.bare :=
  Cursor.filter_walk_bare Cursor.isTaggedTemplate_bare
    (fun lower h => by simp [Cursor.isTaggedTemplate, h]) cursor

theorem enclosingExport?_bare (cursor : Cursor) :
    enclosingExport? cursor.bare = (enclosingExport? cursor).map Cursor.bare := by
  rw [enclosingExport?, enclosingExport?, Cursor.ancestors_bare, List.find?_map]
  simp only [Function.comp_def, Cursor.kind_bare]

section Visits

variable {source stripped : Source} (same : source.Bares stripped)

include same

/-- What a hook or an element is given is found at the same template, or missed with the same
warning. -/
theorem target?_bare (path usage : String) (route : Route) (expression : Cursor) :
    stripped.target? path usage route expression.bare =
      (source.target? path usage route expression).map Finding.bare := by
  simp only [target?, Cursor.isTaggedTemplate_bare, Cursor.kind_bare, same.tree, same.settings,
    SyntaxTree.textOf_bare, variableTemplate?_bare same]
  split
  · rfl
  · split
    · split
      · rfl
      · cases source.variableTemplate? expression with
        | none => rfl
        | some template => rfl
    · rfl

theorem isQueryElement_bare (cursor : Cursor) :
    stripped.isQueryElement cursor.bare = source.isQueryElement cursor := by
  rw [isQueryElement, isQueryElement, Cursor.kind_bare, Cursor.any_child?_bare]
  simp [same.tree, same.settings]

theorem isHook_bare (callee : Cursor) : stripped.isHook callee.bare = source.isHook callee := by
  simp only [isHook, Cursor.kind_bare, same.tree, same.settings, SyntaxTree.textOf_bare,
    ScopeTable.refersToModule_bare same.table, member?_bare same]

/-- Calls of the hook are told by the callee, whether it is a name or a member. -/
theorem isHookCall_bare (cursor : Cursor) :
    stripped.isHookCall cursor.bare = source.isHookCall cursor := by
  rw [isHookCall, isHookCall, Cursor.kind_bare, Cursor.isTaggedTemplate_bare,
    Cursor.any_child?_bare (isHook_bare same)]

/-- Hooks find the same, since the first argument is the first expression. -/
theorem hookFindings_bare (path : String) :
    stripped.hookFindings path = (source.hookFindings path).map Finding.bare := by
  have hCalls : stripped.tree.walk.filter stripped.isHookCall =
      (source.tree.walk.filter source.isHookCall).map Cursor.bare := by
    rw [same.tree]
    exact Cursor.filter_walk_bare (isHookCall_bare same) (fun cursor h => by simp [isHookCall, h])
      source.tree.top
  have hArgument : ∀ call : Cursor,
      (call.bare.child? .arguments).bind Cursor.firstExpression? =
        ((call.child? .arguments).bind Cursor.firstExpression?).map Cursor.bare := by
    intro call
    rw [Cursor.child?_bare]
    cases call.child? .arguments with
    | none => rfl
    | some arguments => exact arguments.firstExpression?_bare
  rw [hookFindings, hookFindings, hCalls, Cursor.filterMap_map_bare hArgument, same.settings]
  exact Cursor.filterMap_map_bare (target?_bare same path _ .hook) _

/-- An exported name leads to the same declaration through its aliases. -/
theorem exportedBinding?_bare (specifier : Cursor) :
    stripped.exportedBinding? specifier.bare =
      (source.exportedBinding? specifier).map Binding.bare := by
  rw [exportedBinding?, exportedBinding?, Cursor.child?_bare]
  cases specifier.child? .name with
  | none => rfl
  | some name =>
      simp only [Option.map_some, Option.bind_some, same.tree, SyntaxTree.textOf_bare,
        ScopeTable.moduleBinding?_bare same.table]
      exact ScopeTable.followWithin_bare same.table source.tree _ _

/-- An export has its templates from its own declaration and from those of the names that it
lists. -/
theorem exportTemplates_bare (statement : Cursor) :
    stripped.exportTemplates statement.bare =
      (source.exportTemplates statement).map Cursor.bare := by
  have hSite : ∀ binding : Binding, binding.bare.site = binding.site.bare := fun _ => rfl
  rw [exportTemplates, exportTemplates, templatesIn_bare, Cursor.exportSpecifiers_bare,
    Cursor.filterMap_map_bare (exportedBinding?_bare same), List.map_append, List.flatMap_map,
    List.map_flatMap]
  simp only [hSite, templatesIn_bare]

theorem exportVisits_bare : stripped.exportVisits = source.exportVisits.map Visit.bare := by
  simp only [exportVisits, same.tree, SyntaxTree.namedExports_bare, List.flatMap_map,
    exportTemplates_bare same, List.map_flatMap, List.map_map, Function.comp_def, Visit.bare]

/-- A query is of the same type. For an exported one the type depends on the export around it. -/
theorem queryTypeOf_bare (visit : Visit) :
    stripped.queryTypeOf visit.bare = source.queryTypeOf visit := by
  obtain ⟨template, route⟩ := visit
  cases route with
  | element => rfl
  | hook => rfl
  | exported =>
      simp only [queryTypeOf, Visit.bare, enclosingExport?_bare]
      cases enclosingExport? template with
      | none => rfl
      | some statement =>
          simp only [Option.map_some, same.tree, SyntaxTree.exportedName?_bare,
            SyntaxTree.isAsyncExport_bare, SyntaxTree.text_bare, Cursor.node_bare, Node.start_bare]

/-- A visit gives the same fragment or the same fault. -/
theorem readVisit_bare (path : String) (visit : Visit) :
    stripped.readVisit path visit.bare = source.readVisit path visit := by
  have hTemplate : visit.bare.template = visit.template.bare := rfl
  have hRoute : visit.bare.route = visit.route := rfl
  rw [readVisit, readVisit, hTemplate, hRoute, readTag_bare same, queryTypeOf_bare same]

/-- Visits are read the same without the comments, up to the first fault. -/
theorem readVisits_bare (path : String) (visits : List Visit) :
    stripped.readVisits path (visits.map Visit.bare) = source.readVisits path visits := by
  induction visits with
  | nil => rfl
  | cons visit others ih => rw [List.map_cons, readVisits, readVisits, readVisit_bare same, ih]

end Visits

/-! An attribute is read by its first and its last named child. -/
section Attributes

variable (source : Source) {entry : Cursor}

theorem queryAttribute?_of_other (h : entry.kind ≠ .jsxAttribute) :
    source.queryAttribute? entry = none := by
  unfold queryAttribute?
  split
  · exact absurd ‹_› h
  · rfl

/-- An attribute without a value has no query. -/
theorem queryAttribute?_of_short (h : entry.namedChildren.length < 2) :
    source.queryAttribute? entry = none := by
  unfold queryAttribute?
  split
  · next hNamed =>
      rw [hNamed, List.length_cons, List.length_cons] at h
      omega
  · rfl

/-- An attribute is named by its first named child and has its value from the last. -/
theorem queryAttribute?_of_ends {name last : Cursor} {others : List Cursor}
    (isAttribute : entry.kind = .jsxAttribute) (hNamed : entry.namedChildren = name :: others)
    (hLast : others.getLast? = some last) :
    source.queryAttribute? entry =
      if source.tree.textOf name = "query" ∧ last.kind = .jsxExpression then last.firstExpression?
      else none := by
  cases others with
  | nil => cases hLast
  | cons second others =>
      simp only [queryAttribute?, isAttribute, hNamed, List.getLastD_eq_getLast?, hLast,
        Option.getD_some]

end Attributes

end Source

/-- Attributes that begin or end with a comment. -/
def Cursor.hidesAttribute (entry : Cursor) : Bool :=
  entry.kind == .jsxAttribute &&
    (entry.namedChildren.head?.any (·.node.isComment) ||
      entry.namedChildren.getLast?.any (·.node.isComment))

namespace Source

variable {source stripped : Source} (same : source.Bares stripped)

include same

/-- An attribute without a comment at either end has the same query without comments. -/
theorem queryAttribute?_bare {entry : Cursor} (h : entry.hidesAttribute = false) :
    stripped.queryAttribute? entry.bare = (source.queryAttribute? entry).map Cursor.bare := by
  by_cases isAttribute : entry.kind = .jsxAttribute
  · have hShort (hLength : entry.namedChildren.length < 2) :
        stripped.queryAttribute? entry.bare =
          (source.queryAttribute? entry).map Cursor.bare := by
      have hBare : entry.bare.namedChildren.length < 2 := by
        rw [Cursor.namedChildren_bare, Cursor.bareAll, List.length_map]
        exact Nat.lt_of_le_of_lt (List.length_filter_le _ _) hLength
      rw [queryAttribute?_of_short _ hLength, queryAttribute?_of_short _ hBare]
      rfl
    cases hNamed : entry.namedChildren with
    | nil => exact hShort (by simp [hNamed])
    | cons name others =>
        cases hLast : others.getLast? with
        | none =>
            rw [List.getLast?_eq_none_iff] at hLast
            exact hShort (by simp [hNamed, hLast])
        | some last =>
            simp only [Cursor.hidesAttribute, isAttribute, hNamed, List.head?_cons,
              List.getLast?_cons, hLast, Option.getD_some, Option.any_some, beq_self_eq_true,
              Bool.true_and, Bool.or_eq_false_iff] at h
            obtain ⟨hName, hEnd⟩ := h
            have hBare : entry.bare.namedChildren = name.bare :: Cursor.bareAll others := by
              rw [Cursor.namedChildren_bare, hNamed]
              simp [Cursor.bareAll, hName]
            rw [queryAttribute?_of_ends _ isAttribute hNamed hLast, queryAttribute?_of_ends _
              (entry.kind_bare.trans isAttribute) hBare (Cursor.getLast?_bareAll hLast hEnd)]
            simp only [same.tree, SyntaxTree.textOf_bare, Cursor.kind_bare,
              Cursor.firstExpression?_bare]
            split
            · rfl
            · rfl
  · rw [queryAttribute?_of_other _ isAttribute,
      queryAttribute?_of_other _ (by rwa [Cursor.kind_bare])]
    rfl

/-- Elements find the same, if their attributes are read the same. -/
theorem elementFindings_bare (path : String)
    (h : ∀ entry ∈ source.tree.walk, entry.hidesAttribute = false) :
    stripped.elementFindings path = (source.elementFindings path).map Finding.bare := by
  have hElements : stripped.tree.walk.filter stripped.isQueryElement =
      (source.tree.walk.filter source.isQueryElement).map Cursor.bare := by
    rw [same.tree]
    exact Cursor.filter_walk_bare (isQueryElement_bare same)
      (fun cursor h => by simp [isQueryElement, h]) source.tree.top
  rw [elementFindings, elementFindings, hElements, List.flatMap_map, List.map_flatMap]
  refine List.flatMap_congr fun element hElement => ?_
  have hPlace := Cursor.mem_walk_iff.mp (List.mem_filter.mp hElement).1
  have hAttributes : element.bare.namedChildren.filterMap stripped.queryAttribute? =
      (element.namedChildren.filterMap source.queryAttribute?).map Cursor.bare := by
    rw [Cursor.namedChildren_bare]
    refine Cursor.filterMap_bareAll (fun entry hEntry => ?_) (fun entry _ hComment => ?_)
    · exact queryAttribute?_bare same (h entry (Cursor.mem_walk_iff.mpr (hPlace.named hEntry)))
    · refine queryAttribute?_of_other source ?_
      rw [Cursor.kind_of_isComment hComment]
      exact nofun
  rw [hAttributes, same.settings]
  exact Cursor.filterMap_map_bare (target?_bare same path _ .element) _

theorem findings_bare (path : String)
    (h : ∀ entry ∈ source.tree.walk, entry.hidesAttribute = false) :
    stripped.findings path = (source.findings path).map Finding.bare := by
  simp only [findings, same.settings, hookFindings_bare same, elementFindings_bare same path h,
    List.map_append]
  split
  · rfl
  · rfl

/-- Templates are visited in the same order: those of elements and hooks, then exported ones. -/
theorem visits_bare (path : String)
    (h : ∀ entry ∈ source.tree.walk, entry.hidesAttribute = false) :
    stripped.visits path = (source.visits path).map Visit.bare := by
  have hVisit : Finding.visit? ∘ Finding.bare = fun finding => finding.visit?.map Visit.bare := by
    funext finding
    cases finding with
    | template visit => rfl
    | unresolved warning => rfl
  rw [visits, visits, findings_bare same path h, exportVisits_bare same, List.filterMap_map, hVisit,
    List.map_append, List.map_filterMap]

end Source

/-- Extraction comes to the same without the comments, if none obscures a name or hides a
query attribute. -/
theorem Extraction.ofTree_bare {tree : SyntaxTree}
    (hClear : ∀ declarator ∈ tree.walk, ¬tree.Obscures declarator)
    (hAttributes : ∀ entry ∈ tree.walk, entry.hidesAttribute = false) (path : String)
    (settings : Settings) :
    Extraction.ofTree tree.bare path settings = Extraction.ofTree tree path settings := by
  have same : (Source.ofTree tree settings).Bares (Source.ofTree tree.bare settings) :=
    ⟨rfl, ⟨Cursor.key_bare tree.top, ScopeTable.lookup?_ofTree_bare_iff.mpr hClear⟩, rfl⟩
  have hWarning : Finding.warning? ∘ Finding.bare = Finding.warning? := by
    funext finding
    cases finding with
    | template visit => rfl
    | unresolved warning => rfl
  simp only [Extraction.ofTree]
  rw [Source.visits_bare same _ hAttributes, Source.readVisits_bare same,
    Source.findings_bare same _ hAttributes, List.filterMap_map, hWarning]

/-- The tree without comments has all other nodes in their order. The capabilities of the
component are the same in it. Names are bound to the same in all scopes exactly if no
declarator binds a name first in its scope to what should be a required module and is hidden
by a comment. Then scopes have their bindings in the same order, and if no comment hides a query
attribute either, extraction comes to the same. -/
theorem Extraction.same_without_comments (tree : SyntaxTree) :
    (tree.root.isComment = false → tree.bare.walk = Cursor.bareAll tree.walk) ∧
      Features.ofTree tree.bare = Features.ofTree tree ∧
      ((∀ scope name, (ScopeTable.ofTree tree.bare).lookup? scope name =
          ((ScopeTable.ofTree tree).lookup? scope name).map Binding.bare) ↔
        ∀ declarator ∈ tree.walk, ¬tree.Obscures declarator) ∧
      ((∀ declarator ∈ tree.walk, ¬tree.Obscures declarator) →
        (∀ scope, (ScopeTable.ofTree tree.bare).bindingsOf scope =
          ((ScopeTable.ofTree tree).bindingsOf scope).map Binding.bare) ∧
        ((∀ entry ∈ tree.walk, entry.hidesAttribute = false) → ∀ path settings,
          Extraction.ofTree tree.bare path settings = Extraction.ofTree tree path settings)) :=
  ⟨fun hRoot => @Cursor.walk_bare tree.top hRoot, Features.ofTree_bare tree,
    ScopeTable.lookup?_ofTree_bare_iff, fun hClear =>
      ⟨ScopeTable.bindingsOf_ofTree_bare hClear, Extraction.ofTree_bare hClear⟩⟩

/-- The tree of a required tag and a query, where twelve characters stand for the argument. A
comment comes before the query. -/
def requiredTag (argument : String) (nodes : List Node) : SyntaxTree :=
  ⟨.phrase .program 0 68 none
    [.phrase .lexicalDeclaration 0 37 none
      [.token "const" 0,
        .phrase .variableDeclarator 5 36 none
          [.phrase .objectPattern 5 14 (some .name)
            [.token "\x7b" 5, .phrase .shorthandPattern 6 13 none [], .token "\x7d" 13],
            .token "=" 14,
            .phrase .callExpression 15 36 (some .value)
              [.phrase .identifier 15 22 (some .function) [],
                .phrase (.other "arguments") 22 36 (some .arguments)
                  (.token "(" 22 :: nodes ++ [.token ")" 35])]],
        .token ";" 36],
      .phrase .exportStatement 37 68 none
        [.token "export" 37,
          .phrase .lexicalDeclaration 44 68 (some .declaration)
            [.token "const" 44,
              .phrase .variableDeclarator 50 68 none
                [.phrase .identifier 50 51 (some .name) [], .token "=" 51,
                  .phrase .comment 52 56 none [],
                  .phrase .callExpression 56 68 (some .value)
                    [.phrase .identifier 56 63 (some .function) [],
                      .quoted .templateString "`" 63 68 (some .arguments)]]]]],
    ("const\x7bgraphql\x7d=require(" ++ argument ++
      ");export const q=/**/graphql`\x7ba\x7d`").toList,
    "a.js", .javascript⟩

/-- The module with a comment behind its name. -/
def commentBehind : SyntaxTree :=
  requiredTag "\"gatsby\"/**/" [.quoted .string "\"" 23 31 none, .phrase .comment 31 35 none []]

/-- The module with a comment before its name. -/
def commentBefore : SyntaxTree :=
  requiredTag "/**/\"gatsby\"" [.phrase .comment 23 27 none [], .quoted .string "\"" 27 35 none]

/-- A function and a variable of one name, where a comment hides the module that the variable
would be. -/
def shadowedRequire : SyntaxTree :=
  ⟨.phrase .program 0 36 none
    [.phrase .functionDeclaration 0 14 none
      [.token "function" 0, .phrase .identifier 9 10 (some .name) [],
        .phrase .formalParameters 10 12 (some .parameters) [.token "(" 10, .token ")" 11],
        .phrase .statementBlock 12 14 none [.token "\x7b" 12, .token "\x7d" 13]],
      .phrase .variableDeclaration 14 36 none
        [.token "var" 14,
          .phrase .variableDeclarator 18 36 none
            [.phrase .identifier 18 19 (some .name) [], .token "=" 19,
              .phrase .callExpression 20 36 (some .value)
                [.phrase .identifier 20 27 (some .function) [],
                  .phrase (.other "arguments") 27 36 (some .arguments)
                    [.token "(" 27, .phrase .comment 28 32 none [],
                      .quoted .string "\"" 32 35 none, .token ")" 35]]]]],
    "function f()\x7b\x7dvar f=require(/**/\"x\")".toList, "a.js", .javascript⟩

/-- Behind the name of the module a comment is of no account. Before it the query is lost, but
a name that was declared before keeps its binding. -/
theorem Extraction.same_without_comments_requiredTag :
    ((∀ declarator ∈ commentBehind.walk, ¬commentBehind.Obscures declarator) ∧
      (∀ entry ∈ commentBehind.walk, entry.hidesAttribute = false) ∧
      commentBehind.bare.walk.length + 2 = commentBehind.walk.length ∧
      Extraction.ofTree commentBehind.bare "a.js" {} =
        Extraction.ofTree commentBehind "a.js" {} ∧
      (Extraction.ofTree commentBehind "a.js" {}).toOption.map (·.fragments.length) = some 1) ∧
    ((∃ declarator ∈ commentBefore.walk, commentBefore.Obscures declarator) ∧
      ((ScopeTable.ofTree commentBefore).lookup? commentBefore.top.key "graphql").map (·.kind) =
        some .pattern ∧
      ((ScopeTable.ofTree commentBefore.bare).lookup? commentBefore.top.key "graphql").map
        (·.kind) = some .required ∧
      Features.ofTree commentBefore.bare = Features.ofTree commentBefore ∧
      (Extraction.ofTree commentBefore.bare "a.js" {}).toOption.map (·.fragments.length) =
        some 1 ∧
      (Extraction.ofTree commentBefore "a.js" {}).toOption.map (·.fragments.length) = some 0) ∧
    ((∃ declarator ∈ shadowedRequire.walk, shadowedRequire.losesModule declarator = true) ∧
      ((ScopeTable.ofTree shadowedRequire).lookup? shadowedRequire.top.key "f").map (·.kind) =
        some .function ∧
      ∀ scope name, (ScopeTable.ofTree shadowedRequire.bare).lookup? scope name =
        ((ScopeTable.ofTree shadowedRequire).lookup? scope name).map Binding.bare) := by
  have hBehind : ∀ cursor ∈ commentBehind.walk, commentBehind.losesModule cursor = false := by
    decide +kernel
  have hClear : ∀ declarator ∈ commentBehind.walk, ¬commentBehind.Obscures declarator := by
    rintro declarator hDeclarator ⟨hLoses, -⟩
    cases (hBehind declarator hDeclarator).symm.trans hLoses
  have hAttributes : ∀ entry ∈ commentBehind.walk, entry.hidesAttribute = false := by
    decide +kernel
  have hWith : ((ScopeTable.ofTree commentBefore).lookup? commentBefore.top.key "graphql").map
      (·.kind) = some .pattern := by decide +kernel
  have hWithout : ((ScopeTable.ofTree commentBefore.bare).lookup? commentBefore.top.key
      "graphql").map (·.kind) = some .required := by decide +kernel
  have hEarlier : ∀ cursor ∈ shadowedRequire.walk, shadowedRequire.losesModule cursor = true →
      ∀ declared ∈ shadowedRequire.declarations cursor,
        ((ScopeTable.ofTree shadowedRequire).lookup? declared.1.key declared.2.name).map
          (·.kind) ≠ some declared.2.kind := by decide +kernel
  obtain ⟨-, -, -, hSame⟩ := Extraction.same_without_comments commentBehind
  obtain ⟨-, hFeatures, hBefore, -⟩ := Extraction.same_without_comments commentBefore
  obtain ⟨-, -, hShadowed, -⟩ := Extraction.same_without_comments shadowedRequire
  refine ⟨⟨hClear, hAttributes, by decide +kernel, (hSame hClear).2 hAttributes _ _,
    by decide +kernel⟩, ⟨?_, hWith, hWithout, hFeatures, by decide +kernel, by decide +kernel⟩,
    by decide +kernel, by decide +kernel, hShadowed.mpr ?_⟩
  · by_contra hNone
    have hLookups := hBefore.mpr fun declarator hDeclarator hObscures =>
      hNone ⟨declarator, hDeclarator, hObscures⟩
    rw [hLookups, Option.map_map] at hWithout
    cases hWith.symm.trans hWithout
  · rintro declarator hDeclarator ⟨hLoses, declared, hDeclared, hFound⟩
    apply hEarlier declarator hDeclarator hLoses declared hDeclared
    rw [hFound]
    rfl

end ComponentQueries
