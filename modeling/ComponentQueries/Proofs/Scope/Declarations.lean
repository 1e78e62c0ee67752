import ComponentQueries.Proofs.SyntaxTree.Places
import ComponentQueries.Scope.Alias

/-! The declarations that a table holds, told apart by the way they came about. A name
that a table gives back was declared by a node of its tree. -/
namespace ComponentQueries

namespace Cursor

/-- A name that is bound by way of a role is bound by a child. The induction is on the children. -/
theorem exists_child_of_mem_boundField {field : Field} {parent : Node} {trail : List Crumb}
    {identifier : Cursor} (nodes : List Node) (index : Nat)
    (h : identifier ∈ boundField field parent trail index nodes) :
    ∃ child ∈ childrenFrom parent trail index nodes, identifier ∈ child.boundIdentifiers := by
  induction nodes generalizing index with
  | nil => simp [boundField] at h
  | cons node others ih =>
      rw [boundField] at h
      split at h
      · exact ⟨_, List.mem_cons_self .., h⟩
      · obtain ⟨child, hChild, hBound⟩ := ih (index + 1) h
        exact ⟨child, List.mem_cons_of_mem _ hChild, hBound⟩

theorem exists_child_of_mem_boundList {parent : Node} {trail : List Crumb} {identifier : Cursor}
    (nodes : List Node) (index : Nat) (h : identifier ∈ boundList parent trail index nodes) :
    ∃ child ∈ childrenFrom parent trail index nodes, identifier ∈ child.boundIdentifiers := by
  induction nodes generalizing index with
  | nil => simp [boundList] at h
  | cons node others ih =>
      rw [boundList] at h
      rcases List.mem_append.mp h with h | h
      · split at h
        · exact ⟨_, List.mem_cons_self .., h⟩
        · cases h
      · obtain ⟨child, hChild, hBound⟩ := ih (index + 1) h
        exact ⟨child, List.mem_cons_of_mem _ hChild, hBound⟩

/-- A pattern binds itself or what one of its children binds. -/
theorem mem_boundIdentifiers_cases {pattern identifier : Cursor}
    (h : identifier ∈ pattern.boundIdentifiers) :
    identifier = pattern ∨ ∃ child ∈ pattern.children, identifier ∈ child.boundIdentifiers := by
  obtain ⟨⟨kind, named, missing, hasError, start, stop, field, children⟩, trail⟩ := pattern
  rw [boundIdentifiers, boundNode.eq_def] at h
  dsimp only at h
  split at h
  · exact Or.inl (List.mem_singleton.mp h)
  · exact Or.inl (List.mem_singleton.mp h)
  · exact Or.inr (exists_child_of_mem_boundField _ 0 h)
  · exact Or.inr (exists_child_of_mem_boundField _ 0 h)
  · exact Or.inr (exists_child_of_mem_boundField _ 0 h)
  · exact Or.inr (exists_child_of_mem_boundField _ 0 h)
  · exact Or.inr (exists_child_of_mem_boundField _ 0 h)
  · exact Or.inr (exists_child_of_mem_boundList _ 0 h)

/-- The names of a pattern are nodes below it. -/
theorem below_of_mem_boundIdentifiers {pattern identifier : Cursor}
    (h : identifier ∈ pattern.boundIdentifiers) : pattern.Below identifier := by
  induction pattern using induction_down with
  | step pattern ih =>
      rcases mem_boundIdentifiers_cases h with rfl | ⟨child, hChild, h⟩
      · exact Below.self
      · exact (below_of_mem_children hChild).trans (ih child hChild h)

end Cursor

namespace SyntaxTree

variable (tree : SyntaxTree)

/-- The ways in which a node can declare a name. All that extraction asks about a
binding later, its site and its name in a module, is fixed here. -/
inductive Declares (cursor : Cursor) : Binding → Prop where
  | defaultImport {source : Option String} {part : Cursor} (below : cursor.Below part) :
      Declares cursor ⟨tree.textOf part, .imported, part, source, some "default"⟩
  | moduleImport {source : Option String} {part name : Cursor} (below : cursor.Below part) :
      Declares cursor ⟨tree.textOf name, .imported, part, source, some "*"⟩
  | namedImport {bound : String} {source : Option String} {specifier name : Cursor}
      (below : cursor.Below specifier) (hName : cursor.Below name) :
      Declares cursor ⟨bound, .imported, specifier, source,
        some (String.ofList (Text.trim isQuote (tree.textOf name).toList))⟩
  | requiredModule {bound source : String} :
      Declares cursor ⟨bound, .required, cursor, some source, none⟩
  | requiredProperty {bound source : String} {key : Cursor} (hKey : cursor.Below key) :
      Declares cursor ⟨bound, .required, cursor, some source, some (tree.textOf key)⟩
  | own {bound : String} {kind : BindingKind} {site : Cursor} (below : cursor.Below site) :
      Declares cursor ⟨bound, kind, site, none, none⟩

variable {tree}

/-- The parts of an import declare a default, a module as a whole, or names in braces. -/
theorem declares_of_mem_importedIn {cursor part : Cursor} {source : Option String}
    {binding : Binding} (hPart : cursor.Below part)
    (h : binding ∈ tree.importedIn source part) : tree.Declares cursor binding := by
  unfold importedIn at h
  split at h
  · rw [List.mem_singleton] at h
    subst binding
    exact .defaultImport hPart
  · obtain ⟨name, _, rfl⟩ := List.mem_map.mp h
    exact .moduleImport hPart
  · obtain ⟨specifier, hSpecifier, h⟩ := List.mem_filterMap.mp h
    have hBelow := hPart.named (List.mem_filter.mp hSpecifier).1
    obtain ⟨name, hName, rfl⟩ := Option.map_eq_some_iff.mp h
    exact .namedImport hBelow (hBelow.role hName)
  · cases h

theorem declares_of_mem_importBindings {cursor : Cursor} {binding : Binding}
    (h : binding ∈ tree.importBindings cursor) : tree.Declares cursor binding := by
  obtain ⟨clause, hClause, h⟩ := List.mem_flatMap.mp h
  obtain ⟨part, hPart, h⟩ := List.mem_flatMap.mp h
  have hBelow := Cursor.Below.self.named (List.mem_filter.mp hClause).1
  exact declares_of_mem_importedIn (hBelow.named hPart) h

theorem declares_of_requiredProperty? {declarator property : Cursor} {source : String}
    {binding : Binding} (hProperty : declarator.Below property)
    (h : tree.requiredProperty? declarator source property = some binding) :
    tree.Declares declarator binding := by
  unfold requiredProperty? at h
  split at h
  · cases h
    exact .requiredProperty hProperty
  · obtain ⟨key, hKey, h⟩ := Option.bind_eq_some_iff.mp h
    obtain ⟨value, _, h⟩ := Option.bind_eq_some_iff.mp h
    obtain ⟨_, _, h⟩ := Option.bind_eq_some_iff.mp h
    cases h
    exact .requiredProperty (hProperty.role hKey)
  · cases h

/-- A declarator declares a required module, properties of one, or names of its own. -/
theorem declares_of_mem_declaratorBindings {declarator : Cursor} {binding : Binding}
    (h : binding ∈ tree.declaratorBindings declarator) : tree.Declares declarator binding := by
  unfold declaratorBindings at h
  split at h
  · cases h
  · next name hName =>
      split at h
      · rw [List.mem_singleton] at h
        subst binding
        exact .requiredModule
      · rw [List.mem_singleton] at h
        subst binding
        exact .own .self
      · obtain ⟨property, hProperty, h⟩ := List.mem_filterMap.mp h
        exact declares_of_requiredProperty? ((Cursor.Below.self.role hName).named hProperty) h
      · obtain ⟨identifier, _, rfl⟩ := List.mem_map.mp h
        exact .own .self

theorem declares_of_mem_definitionBindings {kind : BindingKind} {definition : Cursor}
    {binding : Binding} (h : binding ∈ tree.definitionBindings kind definition) :
    tree.Declares definition binding := by
  unfold definitionBindings at h
  split at h
  · rw [List.mem_singleton] at h
    subst binding
    exact .own .self
  · cases h

/-- The parameters of a function are names of its own. -/
theorem declares_of_mem_parameterBindings {function : Cursor} {binding : Binding}
    (h : binding ∈ tree.parameterBindings function) : tree.Declares function binding := by
  unfold parameterBindings at h
  split at h
  · cases h
  · next parameters hParameters =>
      obtain ⟨identifier, hIdentifier, rfl⟩ := List.mem_map.mp h
      have hBelow : function.Below parameters := by
        rcases Option.or_eq_some_iff.mp hParameters with hRole | ⟨_, hRole⟩
        · exact Cursor.Below.self.role hRole
        · exact Cursor.Below.self.role hRole
      exact .own (hBelow.trans (Cursor.below_of_mem_boundIdentifiers hIdentifier))

/-- All that a node declares around itself is declared in one of the ways above. -/
theorem declares_of_mem_outerDeclarations {cursor : Cursor} {binding : Binding}
    (h : binding ∈ (tree.outerDeclarations cursor).2) : tree.Declares cursor binding := by
  unfold outerDeclarations at h
  split at h
  · exact declares_of_mem_importBindings h
  · exact declares_of_mem_declaratorBindings h
  · exact declares_of_mem_definitionBindings h
  · exact declares_of_mem_definitionBindings h
  · exact declares_of_mem_definitionBindings h
  · cases h

/-- Whatever the scope that owns it, a binding was declared by the node it is listed under. -/
theorem declares_of_mem_declarations {cursor owner : Cursor} {binding : Binding}
    (h : (owner, binding) ∈ tree.declarations cursor) : tree.Declares cursor binding := by
  unfold declarations at h
  rcases List.mem_append.mp h with h | h
  · obtain ⟨outer, hOuter, h⟩ := List.mem_map.mp h
    cases h
    exact declares_of_mem_outerDeclarations hOuter
  · obtain ⟨own, hOwn, h⟩ := List.mem_map.mp h
    cases h
    split at hOwn
    · exact declares_of_mem_parameterBindings hOwn
    · cases hOwn

/-- The site of a binding lies in the node that declares it. -/
theorem Declares.site_below {cursor : Cursor} {binding : Binding}
    (h : tree.Declares cursor binding) : cursor.Below binding.site := by
  cases h with
  | defaultImport below => exact below
  | moduleImport below => exact below
  | namedImport below _ => exact below
  | requiredModule => exact .self
  | requiredProperty _ => exact .self
  | own below => exact below

end SyntaxTree

namespace ScopeTable

variable {tree : SyntaxTree}

/-- Bindings that the table of a tree holds, under whatever key. -/
def Holds (table : ScopeTable) (binding : Binding) : Prop :=
  ∃ key, (key, binding) ∈ table.entries

theorem holds_of_lookup? {table : ScopeTable} {scope : NodeKey} {name : String}
    {binding : Binding} (h : table.lookup? scope name = some binding) : table.Holds binding := by
  obtain ⟨⟨key, held⟩, hEntry, rfl⟩ := Option.map_eq_some_iff.mp h
  exact ⟨key, List.mem_of_find?_eq_some hEntry⟩

/-- A scope has no binding of names that no entry of it has. -/
theorem lookup?_eq_none_iff {table : ScopeTable} {scope : NodeKey} {name : String} :
    table.lookup? scope name = none ↔
      ∀ binding, (scope, binding) ∈ table.entries → binding.name ≠ name := by
  rw [lookup?, Option.map_eq_none_iff, List.find?_eq_none]
  constructor
  · intro h binding hEntry hName
    exact h (scope, binding) hEntry (by simp [hName])
  · rintro h ⟨key, binding⟩ hEntry hFound
    obtain ⟨rfl, hName⟩ := of_decide_eq_true hFound
    exact h binding hEntry hName

/-- No scope around a node has an entry with the name, the node itself included. -/
def Unbound (table : ScopeTable) (name : String) (cursor : Cursor) : Prop :=
  ∀ scope ∈ cursor :: cursor.ancestors, scope.kind.isScope = true →
    ∀ binding, (scope.key, binding) ∈ table.entries → binding.name ≠ name

/-- A name refers to nothing exactly where it is not bound. -/
theorem resolve?_eq_none_iff {table : ScopeTable} {name : String} {cursor : Cursor} :
    table.resolve? name cursor = none ↔ table.Unbound name cursor := by
  rw [resolve?, List.findSome?_eq_none_iff]
  refine forall₂_congr fun scope _ => ?_
  by_cases hScope : scope.kind.isScope = true
  · rw [if_pos hScope, lookup?_eq_none_iff]
    simp [hScope]
  · simp [hScope]

/-- What a name refers to is an entry of the table. -/
theorem holds_of_resolve? {table : ScopeTable} {name : String} {cursor : Cursor}
    {binding : Binding} (h : table.resolve? name cursor = some binding) : table.Holds binding := by
  obtain ⟨scope, _, h⟩ := List.exists_of_findSome?_eq_some h
  split at h
  · exact holds_of_lookup? h
  · cases h

/-- Following aliases never leaves the table. -/
theorem holds_of_followWithin {table : ScopeTable} {hops : Nat} {start : Option Binding}
    {binding : Binding} (hStart : ∀ first, start = some first → table.Holds first)
    (h : table.followWithin tree hops start = some binding) : table.Holds binding := by
  induction hops generalizing start with
  | zero => cases h
  | succ hops ih =>
      cases start with
      | none => cases h
      | some first =>
          rw [followWithin] at h
          split at h
          · cases h
            exact hStart _ rfl
          · exact ih (fun _ hNext => holds_of_resolve? hNext) h

theorem holds_of_followAliases {table : ScopeTable} {name : String} {binding : Binding}
    (h : table.followAliases tree (table.moduleBinding? name) = some binding) :
    table.Holds binding :=
  holds_of_followWithin (fun _ hFirst => holds_of_lookup? hFirst) h

/-- Every binding of the table comes from a node of the tree. -/
theorem exists_declares_of_holds {binding : Binding} (h : (ofTree tree).Holds binding) :
    ∃ cursor, tree.top.Below cursor ∧ tree.Declares cursor binding := by
  obtain ⟨key, h⟩ := h
  obtain ⟨⟨owner, held⟩, h, hEntry⟩ := List.mem_map.mp h
  cases hEntry
  obtain ⟨cursor, hCursor, h⟩ := List.mem_flatMap.mp h
  exact ⟨cursor, Cursor.mem_walk_iff.mp hCursor, SyntaxTree.declares_of_mem_declarations h⟩

/-- Entries of the table have their sites in the tree. -/
theorem site_below_of_holds {binding : Binding} (h : (ofTree tree).Holds binding) :
    tree.top.Below binding.site := by
  obtain ⟨cursor, hCursor, hDeclares⟩ := exists_declares_of_holds h
  exact hCursor.trans hDeclares.site_below

end ScopeTable

end ComponentQueries
