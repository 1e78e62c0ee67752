import ComponentQueries.Proofs.Scope.PatternNames
import ComponentQueries.Proofs.SyntaxTree.FaultSearch
import ComponentQueries.Proofs.SyntaxTree.NodeBuilders
import Mathlib.Data.List.Flatten
import Mathlib.Data.List.Pairwise

/-! The grammar of binding patterns and the identifiers that a pattern binds. The traversal
finds these in document order, and nothing in the default values, property keys and types
that stand among them. -/
namespace ComponentQueries

/-- Patterns that consist of other patterns, one after another. -/
def Kind.isPatternList : Kind → Bool
  | objectPattern | arrayPattern | restPattern | formalParameters => true
  | _ => false

namespace Kind

variable {kind : Kind}

theorem cases_of_isPatternName (h : kind.isPatternName = true) :
    kind.patternRole? = none ∧ kind.isPatternList = false := by
  cases kind <;> simp_all [isPatternName, patternRole?, isPatternList]

theorem cases_of_isPatternList (h : kind.isPatternList = true) :
    kind.isPatternName = false ∧ kind.patternRole? = none := by
  cases kind <;> simp_all [isPatternName, patternRole?, isPatternList]

end Kind

namespace Node

/-- What else may stand in a list of patterns: comments, types and modifiers. -/
def StandsBeside (node : Node) : Prop :=
  node.kind = .comment ∧ node.children = [] ∨ node.kind = .typeClause ∨
    node.kind = .accessibilityModifier

/-- The binding patterns of the grammar. A pattern with a role for names has one pattern in that
role and anything in others. -/
inductive IsPattern : Node → Prop where
  | name {node : Node} (kind : node.kind.isPatternName = true) : IsPattern node
  | role {node part : Node} {field : Field} (kind : node.kind.patternRole? = some field)
      (only : node.children.filter (·.field = some field) = [part]) (inner : IsPattern part) :
      IsPattern node
  | list {node : Node} (kind : node.kind.isPatternList = true)
      (parts : ∀ part ∈ node.children, part.named = true → ¬part.StandsBeside → IsPattern part) :
      IsPattern node

end Node

namespace Cursor

variable {pattern identifier around part : Cursor}

/-- The parts of a pattern that are patterns in turn. -/
inductive HasPart (pattern part : Cursor) : Prop where
  | role {field : Field} (kind : pattern.kind.patternRole? = some field)
      (child : part ∈ pattern.children) (role : part.node.field = some field)
  | list (kind : pattern.kind.isPatternList = true) (child : part ∈ pattern.children)
      (named : part.node.named = true)

/-- A pattern binds an identifier: it is the identifier, or one of its parts binds it. -/
inductive Binds : Cursor → Cursor → Prop where
  | name {identifier : Cursor} (kind : identifier.kind.isPatternName = true) :
      Binds identifier identifier
  | part {pattern part identifier : Cursor} (has : pattern.HasPart part)
      (inner : Binds part identifier) : Binds pattern identifier

/-- The parts of a pattern that bind nothing: default values, keys of properties, initial values
of parameters, and types. -/
inductive HasAside (around part : Cursor) : Prop where
  | defaultValue
      (kind : around.kind = .assignmentPattern ∨ around.kind = .objectAssignmentPattern)
      (role : part.node.field = some (.other "right"))
  | key (kind : around.kind = .pairPattern) (role : part.node.field = some .key)
  | initialValue (kind : around.kind = .requiredParameter ∨ around.kind = .optionalParameter)
      (role : part.node.field = some .value)
  | type (kind : part.kind = .typeClause)

theorem HasPart.mem_children (h : pattern.HasPart part) : part ∈ pattern.children := by
  cases h with
  | role _ child _ => exact child
  | list _ child _ => exact child

/-- Only names, patterns with a role for names and lists of patterns bind anything. -/
theorem Binds.kind_cases (h : pattern.Binds identifier) :
    pattern.kind.isPatternName = true ∨ (∃ field, pattern.kind.patternRole? = some field) ∨
      pattern.kind.isPatternList = true := by
  cases h with
  | name kind => exact Or.inl kind
  | part hPart _ =>
      cases hPart with
      | role kind _ _ => exact Or.inr (Or.inl ⟨_, kind⟩)
      | list kind _ _ => exact Or.inr (Or.inr kind)

theorem Binds.not_standsBeside (h : pattern.Binds identifier) : ¬pattern.node.StandsBeside := by
  intro hBeside
  have hKind : pattern.kind = .comment ∨ pattern.kind = .typeClause ∨
      pattern.kind = .accessibilityModifier := hBeside.imp_left And.left
  have hCases := h.kind_cases
  rcases hKind with hKind | hKind | hKind <;>
    simp [hKind, Kind.isPatternName, Kind.patternRole?, Kind.isPatternList] at hCases

theorem below_of_binds (h : pattern.Binds identifier) : pattern.Below identifier := by
  induction h with
  | name => exact .self
  | part has _ ih => exact (below_of_mem_children has.mem_children).trans ih

/-- No node is below two children. -/
theorem eq_of_below_both {cursor left right lower : Cursor} (hLeft : left ∈ cursor.children)
    (hRight : right ∈ cursor.children) (h : left.Below lower) (h' : right.Below lower) :
    left = right := by
  by_contra hDistinct
  have hApart : cursor.children.Pairwise fun left right =>
      ¬(left.Below lower ∧ right.Below lower) :=
    (children_in_order cursor).imp fun hOrder hBoth =>
      have hItself := hOrder lower hBoth.1 lower hBoth.2
      hItself.asymm hItself
  have hSymm : Std.Symm fun left right : Cursor => ¬(left.Below lower ∧ right.Below lower) :=
    ⟨fun _ _ hNot hBoth => hNot hBoth.symm⟩
  exact hApart.forall hLeft hRight hDistinct ⟨h, h'⟩

/-- The way from a pattern down to an identifier that it binds leads through parts that are
patterns. -/
theorem Binds.through (h : pattern.Binds identifier) (hAround : pattern.Below around)
    (hChild : part ∈ around.children) (hBelow : part.Below identifier) :
    around.HasPart part ∧ part.Binds identifier := by
  induction h with
  | name =>
      -- There is no way down, for the part would be above the pattern.
      have hLater := precedes_of_below_child hChild (hBelow.trans hAround)
      exact absurd hLater hLater.asymm
  | @part pattern first identifier has inner ih =>
      rcases below_iff.mp hAround with rfl | ⟨child, hFirst, hAround⟩
      · cases eq_of_below_both hChild has.mem_children hBelow (below_of_binds inner)
        exact ⟨has, inner⟩
      · have hLower := hAround.trans ((below_of_mem_children hChild).trans hBelow)
        cases eq_of_below_both hFirst has.mem_children hLower (below_of_binds inner)
        exact ih hAround hBelow

/-- An aside is a type, or has a role in a pattern that has its names in another role. -/
theorem HasAside.outside_role (h : around.HasAside part) (notType : part.kind ≠ .typeClause) :
    around.kind.isPatternList = false ∧ part.node.field ≠ around.kind.patternRole? := by
  cases h with
  | defaultValue kind role =>
      rcases kind with kind | kind <;> simp [kind, role, Kind.isPatternList, Kind.patternRole?]
  | key kind role => simp [kind, role, Kind.isPatternList, Kind.patternRole?]
  | initialValue kind role =>
      rcases kind with kind | kind <;> simp [kind, role, Kind.isPatternList, Kind.patternRole?]
  | type kind => exact absurd kind notType

theorem HasPart.not_hasAside (h : around.HasPart part) (hBinds : part.Binds identifier) :
    ¬around.HasAside part := by
  intro hAside
  have hNotType : part.kind ≠ .typeClause :=
    fun hType => hBinds.not_standsBeside (Or.inr (Or.inl hType))
  obtain ⟨hNoList, hOther⟩ := hAside.outside_role hNotType
  cases h with
  | role kind _ role => exact hOther (role.trans kind.symm)
  | list kind _ _ => simp [kind] at hNoList

/-- The identifiers of a pattern stand in the order in which the walk comes to them. -/
theorem boundIdentifiers_sublist_walk (pattern : Cursor) :
    pattern.boundIdentifiers.Sublist pattern.walk := by
  induction pattern using induction_down with
  | step pattern ih =>
      have hParts : ∀ parts : List Cursor, parts.Sublist pattern.children →
          (parts.flatMap boundIdentifiers).Sublist (pattern.children.flatMap walk) :=
        fun parts hParts =>
          (hParts.flatMap boundIdentifiers).trans (List.Sublist.flatMap_right _ ih)
      rw [walk_eq]
      by_cases hName : pattern.kind.isPatternName = true
      · rw [boundIdentifiers_of_name hName]
        exact (List.nil_sublist _).cons_cons pattern
      · apply List.Sublist.cons
        cases hRole : pattern.kind.patternRole? with
        | some field =>
            rw [boundIdentifiers_of_role hRole]
            apply hParts
            cases hChild : pattern.child? field with
            | none => exact List.nil_sublist _
            | some part => exact List.singleton_sublist.mpr (mem_children_of_child? hChild)
        | none =>
            rw [boundIdentifiers_of_parts (by simpa using hName) hRole]
            apply hParts
            exact List.filter_sublist.trans List.filter_sublist

/-- The one child in a role is the first, and there is no other. -/
theorem exists_child?_of_only {field : Field} {node : Node}
    (only : pattern.node.children.filter (·.field = some field) = [node]) :
    ∃ part, part.node = node ∧ pattern.child? field = some part ∧
      ∀ other, other ∈ pattern.children ∧ other.node.field = some field ↔ other = part := by
  rw [← map_node_children, List.filter_map, List.map_eq_singleton_iff] at only
  obtain ⟨part, hOnly, hNode⟩ := only
  have hFilter : pattern.children.filter (·.node.field = some field) = [part] := hOnly
  refine ⟨part, hNode, ?_, ?_⟩
  · rw [child?, ← List.head?_filter, hFilter, List.head?_singleton]
  · intro other
    rw [← List.mem_singleton (b := part), ← hFilter, List.mem_filter, decide_eq_true_iff]

theorem boundIdentifiers_of_standsBeside (hBeside : pattern.node.StandsBeside)
    (hMay : pattern.mayBind = true) : pattern.boundIdentifiers = [] := by
  rcases hBeside with ⟨isComment, hLeaf⟩ | isType | isModifier
  · have hKind : pattern.kind = .comment := isComment
    rw [boundIdentifiers_of_parts (by rw [hKind]; rfl) (by rw [hKind]; rfl)]
    simp [namedChildren, children, hLeaf, childrenFrom]
  · simp [mayBind, kind, isType] at hMay
  · simp [mayBind, kind, isModifier] at hMay

theorem binds_iff_of_name (h : pattern.kind.isPatternName = true) :
    pattern.Binds identifier ↔ identifier = pattern := by
  constructor
  · intro hBinds
    cases hBinds with
    | name => rfl
    | part has _ =>
        cases has with
        | role hRole _ _ => simp [(Kind.cases_of_isPatternName h).1] at hRole
        | list hList _ _ => simp [(Kind.cases_of_isPatternName h).2] at hList
  · rintro rfl
    exact .name h

theorem binds_iff_of_role {field : Field} (h : pattern.kind.patternRole? = some field) :
    pattern.Binds identifier ↔
      ∃ part ∈ pattern.children, part.node.field = some field ∧ part.Binds identifier := by
  constructor
  · intro hBinds
    cases hBinds with
    | name hName => simp [(Kind.cases_of_isPatternName hName).1] at h
    | part has inner =>
        cases has with
        | role hRole hChild hField =>
            cases h.symm.trans hRole
            exact ⟨_, hChild, hField, inner⟩
        | list hList _ _ => simp [(Kind.cases_of_isPatternList hList).2] at h
  · rintro ⟨part, hChild, hField, inner⟩
    exact .part (.role h hChild hField) inner

theorem binds_iff_of_list (h : pattern.kind.isPatternList = true) :
    pattern.Binds identifier ↔ ∃ part ∈ pattern.namedChildren, part.Binds identifier := by
  constructor
  · intro hBinds
    cases hBinds with
    | name hName => simp [(Kind.cases_of_isPatternName hName).2] at h
    | part has inner =>
        cases has with
        | role hRole _ _ => simp [(Kind.cases_of_isPatternList h).2] at hRole
        | list _ hChild hNamed => exact ⟨_, List.mem_filter.mpr ⟨hChild, hNamed⟩, inner⟩
  · rintro ⟨part, hPart, inner⟩
    obtain ⟨hChild, hNamed⟩ := List.mem_filter.mp hPart
    exact .part (.list h hChild hNamed) inner

theorem mayBind_of_not_standsBeside (h : ¬pattern.node.StandsBeside) : pattern.mayBind = true := by
  apply decide_eq_true
  exact ⟨fun hType => h (Or.inr (Or.inl hType)), fun hModifier => h (Or.inr (Or.inr hModifier))⟩

/-- The traversal finds what a pattern binds, by induction on the grammar. -/
theorem mem_boundIdentifiers_iff (h : pattern.node.IsPattern) :
    identifier ∈ pattern.boundIdentifiers ↔ pattern.Binds identifier := by
  generalize hNode : pattern.node = node at h
  induction h generalizing pattern with
  | name kind =>
      have hName : pattern.kind.isPatternName = true := by rw [Cursor.kind, hNode, kind]
      rw [boundIdentifiers_of_name hName, List.mem_singleton, binds_iff_of_name hName]
  | @role _ _ field kind only _ ih =>
      have hRole : pattern.kind.patternRole? = some field := by rw [Cursor.kind, hNode, kind]
      obtain ⟨part, hPartNode, hPart, hOnly⟩ := exists_child?_of_only (hNode.symm ▸ only)
      rw [boundIdentifiers_of_role hRole, hPart, Option.toList_some, List.flatMap_singleton,
        ih hPartNode, binds_iff_of_role hRole]
      simp only [← and_assoc, hOnly, exists_eq_left]
  | list kind _ ih =>
      have hList : pattern.kind.isPatternList = true := by rw [Cursor.kind, hNode, kind]
      obtain ⟨hName, hRole⟩ := Kind.cases_of_isPatternList hList
      rw [boundIdentifiers_of_parts hName hRole, List.mem_flatMap, binds_iff_of_list hList]
      have hPart : ∀ part ∈ pattern.namedChildren, ¬part.node.StandsBeside →
          (identifier ∈ part.boundIdentifiers ↔ part.Binds identifier) := by
        intro part hPart hPlain
        obtain ⟨hChild, hNamed⟩ := List.mem_filter.mp hPart
        exact ih part.node (hNode ▸ node_mem_children hChild) hNamed hPlain rfl
      constructor
      · rintro ⟨part, hMem, hBound⟩
        obtain ⟨hNamed, hMay⟩ := List.mem_filter.mp hMem
        refine ⟨part, hNamed, (hPart part hNamed fun hBeside => ?_).mp hBound⟩
        rw [boundIdentifiers_of_standsBeside hBeside hMay] at hBound
        cases hBound
      · rintro ⟨part, hNamed, hBinds⟩
        have hPlain := hBinds.not_standsBeside
        have hMem := List.mem_filter.mpr ⟨hNamed, mayBind_of_not_standsBeside hPlain⟩
        exact ⟨part, hMem, (hPart part hNamed hPlain).mpr hBinds⟩

/-- The traversal of a binding pattern finds exactly the identifiers that it binds, once each and
in document order, and none inside a default value, a property key, the initial value of a
parameter or a type. -/
theorem boundIdentifiers_exact (pattern : Cursor) (h : pattern.node.IsPattern) :
    (∀ identifier, identifier ∈ pattern.boundIdentifiers ↔ pattern.Binds identifier) ∧
      pattern.boundIdentifiers.Nodup ∧ pattern.boundIdentifiers.Pairwise Precedes ∧
      ∀ around aside, pattern.Below around → aside ∈ around.children → around.HasAside aside →
        ∀ identifier ∈ pattern.boundIdentifiers, ¬aside.Below identifier := by
  have hOrder := (walk_in_order pattern).sublist (boundIdentifiers_sublist_walk pattern)
  refine ⟨fun identifier => mem_boundIdentifiers_iff h, ?_, hOrder, ?_⟩
  · apply hOrder.imp
    rintro first second hBefore rfl
    exact hBefore.asymm hBefore
  · intro around aside hAround hChild hAside identifier hBound hBelow
    obtain ⟨hPart, hBinds⟩ :=
      ((mem_boundIdentifiers_iff h).mp hBound).through hAround hChild hBelow
    exact hPart.not_hasAside hBinds hAside

/-- The parameters ``({a,/**/[k]:[b=d]}:typeof w=v,...c)``. -/
def nestedParameters : Node :=
  .phrase .formalParameters 0 35 none
    [.token "(" 0,
      .phrase .requiredParameter 1 29 none
        [.phrase .objectPattern 1 18 (some .pattern)
          [.token "\x7b" 1, .phrase .shorthandPattern 2 3 none [], .token "," 3,
            .phrase .comment 4 8 none [],
            .phrase .pairPattern 8 17 none
              [.phrase (.other "computed_property_name") 8 11 (some .key)
                [.token "[" 8, .phrase .identifier 9 10 none [], .token "]" 10],
                .token ":" 11,
                .phrase .arrayPattern 12 17 (some .value)
                  [.token "[" 12,
                    .phrase .assignmentPattern 13 16 none
                      [.phrase .identifier 13 14 (some .left) [], .token "=" 14,
                        .phrase .identifier 15 16 (some (.other "right")) []],
                    .token "]" 16]],
            .token "\x7d" 17],
          .phrase .typeClause 18 27 (some (.other "type"))
            [.token ":" 18,
              .phrase (.other "type_query") 19 27 none
                [.token "typeof" 19, .phrase .identifier 26 27 none []]],
          .token "=" 27, .phrase .identifier 28 29 (some .value) []],
      .token "," 29,
      .phrase .requiredParameter 30 34 none
        [.phrase .restPattern 30 34 (some .pattern)
          [.token "..." 30, .phrase .identifier 33 34 none []]],
      .token ")" 34]

/-- Of the seven names in the parameters three are bound, and the default value is not. -/
theorem boundIdentifiers_exact_nestedParameters :
    nestedParameters.IsPattern ∧
      (ofRoot nestedParameters).boundIdentifiers.map (·.node.start) = [2, 13, 33] ∧
      (∀ identifier, identifier ∈ (ofRoot nestedParameters).boundIdentifiers ↔
        (ofRoot nestedParameters).Binds identifier) ∧
      ∃ around aside, (ofRoot nestedParameters).Below around ∧ aside ∈ around.children ∧
        around.HasAside aside ∧ aside.node.start = 15 ∧
        ∀ identifier ∈ (ofRoot nestedParameters).boundIdentifiers, ¬aside.Below identifier := by
  have hPattern : nestedParameters.IsPattern := by
    refine .list rfl ?_
    simp only [nestedParameters, Node.phrase, Node.token, List.forall_mem_cons]
    refine ⟨nofun, fun _ _ => .role rfl rfl (.list rfl ?_), nofun,
      fun _ _ => .role rfl rfl (.list rfl ?_), nofun, nofun⟩
    · simp only [List.forall_mem_cons]
      refine ⟨nofun, fun _ _ => .name rfl, nofun, fun _ h => absurd (Or.inl ⟨rfl, rfl⟩) h,
        fun _ _ => .role rfl rfl (.list rfl ?_), nofun, nofun⟩
      simp only [List.forall_mem_cons]
      exact ⟨nofun, fun _ _ => .role rfl rfl (.name rfl), nofun, nofun⟩
    · simp only [List.forall_mem_cons]
      exact ⟨nofun, fun _ _ => .name rfl, nofun⟩
  have hDefault : ∃ around ∈ (ofRoot nestedParameters).walk, ∃ aside ∈ around.children,
      around.kind = .assignmentPattern ∧ aside.node.field = some (.other "right") ∧
        aside.node.start = 15 := by
    decide +kernel
  obtain ⟨around, hWalk, aside, hChild, hKind, hRole, hStart⟩ := hDefault
  have hAround := mem_walk_iff.mp hWalk
  have hAside : around.HasAside aside := .defaultValue (Or.inl hKind) hRole
  obtain ⟨hExact, _, _, hNone⟩ := boundIdentifiers_exact (ofRoot nestedParameters) hPattern
  exact ⟨hPattern, by decide +kernel, hExact, around, aside, hAround, hChild, hAside, hStart,
    hNone around aside hAround hChild hAside⟩

end Cursor

end ComponentQueries
