import ComponentQueries.Proofs.Extraction.Reading
import ComponentQueries.Proofs.Naming.NamedDocuments

/-! Files under two paths. The path of a file is written into its fragments and warnings and
into generated names. What is found, in which order, and what is wrong does not depend on it. -/
namespace ComponentQueries

/-- Two runs end with the same fault, or with results that belong together. -/
inductive EndAlike {α : Type} (related : α → α → Prop) :
    Except Fault α → Except Fault α → Prop where
  | fault (fault : Fault) : EndAlike related (.error fault) (.error fault)
  | results {left right : α} (h : related left right) : EndAlike related (.ok left) (.ok right)

namespace GraphQL

/-- A definition of a template as it stands in two copies of the document. Only a name that the
template does not give can differ. -/
structure Definition.Twins (original left right : Definition) : Prop where
  kinds : left.kind = original.kind ∧ right.kind = original.kind
  names : original.HasName → left.name = original.name ∧ right.name = original.name
  descriptions : left.description = original.description ∧ right.description = original.description
  contents : left.content = original.content ∧ right.content = original.content

/-- Documents with a definition that has a name and comes before all that lack one. -/
def Document.BeginsNamed (document : Document) : Prop :=
  ∃ before definition after, document.definitions = before ++ definition :: after ∧
    definition.HasName ∧ ∀ earlier ∈ before, earlier.HasName ∨ earlier.IsSchema

/-- A definition that is named in two ways differs in the name only. -/
theorem twins_named (name name' : String) (definition : Definition) :
    definition.Twins (definition.named name) (definition.named name') := by
  have hRest : ∀ given, (definition.named given).description = definition.description ∧
      (definition.named given).content = definition.content := by
    intro given
    have hCompleted := completed_named given definition
    generalize definition.named given = completed at hCompleted ⊢
    cases hCompleted with
    | kept => exact ⟨rfl, rfl⟩
    | given => exact ⟨rfl, rfl⟩
  constructor
  · exact ⟨kind_named, kind_named⟩
  · intro hName
    rw [named_of_done (Or.inl hName), named_of_done (Or.inl hName)]
    exact ⟨rfl, rfl⟩
  · exact ⟨(hRest name).1, (hRest name').1⟩
  · exact ⟨(hRest name).2, (hRest name').2⟩

/-- A name that comes before all generated ones is the first, whatever they are. -/
theorem Document.BeginsNamed.exists_firstName? {document : Document} (h : document.BeginsNamed) :
    ∃ first, ∀ name, (document.named name).firstName? = some first := by
  obtain ⟨before, definition, after, hSplit, ⟨given, hGiven, hNonempty⟩, hBefore⟩ := h
  have hFirst : definition.givenName? = some given :=
    givenName?_eq_some_iff.mpr ⟨hGiven, hNonempty⟩
  exists (before.findSome? Definition.givenName?).getD given
  intro name
  have hFront : before.map (Definition.named name) = before.map id :=
    List.map_congr_left fun earlier hEarlier => named_of_done (hBefore earlier hEarlier)
  show ((document.definitions.map (Definition.named name)).findSome? _) = _
  rw [hSplit, List.map_append, List.map_cons, hFront, List.map_id,
    named_of_done (Or.inl ⟨given, hGiven, hNonempty⟩), List.findSome?_append,
    List.findSome?_cons_of_isSome (by simp [hFirst]), hFirst]
  cases before.findSome? Definition.givenName? with
  | none => rfl
  | some earliest => rfl

end GraphQL

/-- The fragments of one query in a file under two paths. -/
structure Fragment.Moved (tag : Tag) (path path' : String) (left right : Fragment) : Prop where
  paths : left.path = path ∧ right.path = path'
  texts : left.text = tag.text ∧ right.text = tag.text
  hashes : left.hash = tag.hash ∧ right.hash = tag.hash
  ranges : left.templateRange = tag.templateRange ∧ right.templateRange = tag.templateRange
  keys : left.locationKey = tag.locationKey ∧ right.locationKey = tag.locationKey
  queryType : left.queryType = right.queryType
  isHook : left.isHook = right.isHook
  isAutoNamed : left.isAutoNamed = right.isAutoNamed
  counts : left.document.definitions.length = tag.document.definitions.length ∧
    right.document.definitions.length = tag.document.definitions.length
  definitions : ∀ (index : Nat) (original : GraphQL.Definition),
    tag.document.definitions[index]? = some original →
      ∃ definition definition', left.document.definitions[index]? = some definition ∧
        right.document.definitions[index]? = some definition' ∧
        original.Twins definition definition'
  name : tag.document.BeginsNamed → left.name = right.name

namespace Source

variable {source : Source} {path path' : String}

/-- A fragment differs by the path and the names that come from it. -/
theorem moved_fragmentOf (tag : Tag) (path path' : String) (route : Route)
    (queryType : QueryType) :
    Fragment.Moved tag path path' (fragmentOf path route queryType tag)
      (fragmentOf path' route queryType tag) where
  paths := ⟨rfl, rfl⟩
  texts := ⟨rfl, rfl⟩
  hashes := ⟨rfl, rfl⟩
  ranges := ⟨rfl, rfl⟩
  keys := ⟨rfl, rfl⟩
  queryType := rfl
  isHook := rfl
  isAutoNamed := rfl
  counts := ⟨List.length_map _, List.length_map _⟩
  definitions := by
    intro index original hOriginal
    have hNamed : ∀ name, (tag.document.named name).definitions[index]? =
        some (original.named name) := by
      intro name
      rw [GraphQL.Document.named, List.getElem?_map, hOriginal, Option.map_some]
    exact ⟨_, _, hNamed _, hNamed _, GraphQL.twins_named _ _ original⟩
  name := by
    intro hNamed
    obtain ⟨first, hFirst⟩ := hNamed.exists_firstName?
    have hName : ∀ path, (fragmentOf path route queryType tag).name = first := by
      intro path
      simp [fragmentOf, NamedDocument.ofDocument, hFirst]
    rw [hName path, hName path']

/-- The fragments that a visit leads to under two paths. -/
theorem readVisit_moved (source : Source) (path path' : String) (visit : Visit) :
    EndAlike (Option.Rel fun left right =>
        ∃ tag, source.readTag visit.template = .ok (some tag) ∧
          Fragment.Moved tag path path' left right)
      (source.readVisit path visit) (source.readVisit path' visit) := by
  unfold readVisit
  cases hTag : source.readTag visit.template with
  | error fault => exact .fault fault
  | ok tag? =>
      cases tag? with
      | none => exact .results .none
      | some tag =>
          cases source.queryTypeOf visit with
          | error fault => exact .fault fault
          | ok queryType =>
              have hMoved := moved_fragmentOf tag path path' visit.route queryType
              exact .results (.some ⟨tag, rfl, hMoved⟩)

/-- The fragments that one of some visits leads to under two paths. -/
def SameQuery (source : Source) (visits : List Visit) (path path' : String)
    (left right : Fragment) : Prop :=
  ∃ visit ∈ visits, ∃ tag, source.readTag visit.template = .ok (some tag) ∧
    Fragment.Moved tag path path' left right

/-- A query that some visits have in common is not lost by another visit before them. -/
theorem SameQuery.cons {visits : List Visit} {left right : Fragment} (visit : Visit)
    (h : source.SameQuery visits path path' left right) :
    source.SameQuery (visit :: visits) path path' left right := by
  obtain ⟨other, hOther, hRead⟩ := h
  exact ⟨other, List.mem_cons_of_mem visit hOther, hRead⟩

/-- Reading stops at the same visit, or goes through all and finds the same queries. -/
theorem readVisits_moved (source : Source) (path path' : String) (visits : List Visit) :
    EndAlike (List.Forall₂ (source.SameQuery visits path path'))
      (source.readVisits path visits) (source.readVisits path' visits) := by
  induction visits with
  | nil => exact .results .nil
  | cons visit others ih =>
      unfold readVisits
      have hVisit := readVisit_moved source path path' visit
      generalize source.readVisit path visit = first, source.readVisit path' visit = first'
        at hVisit ⊢
      -- A fault of this visit ends both runs before the others are read.
      cases hVisit with
      | fault fault => exact .fault fault
      | results hFirst =>
          generalize source.readVisits path others = rest, source.readVisits path' others = rest'
            at ih ⊢
          cases ih with
          | fault fault => exact .fault fault
          | results hRest =>
              have hOthers := hRest.imp fun _ _ => SameQuery.cons visit
              cases hFirst with
              | none => exact .results hOthers
              | some hMoved =>
                  exact .results (.cons ⟨visit, List.mem_cons_self, hMoved⟩ hOthers)

end Source

/-- The fragments that are kept are the same under both paths, for they have the same keys. -/
theorem forall₂_keepFirst {related : Fragment → Fragment → Prop}
    (keys : ∀ left right, related left right → left.locationKey = right.locationKey)
    {lefts rights : List Fragment} (h : List.Forall₂ related lefts rights)
    (seen : List (Int × Int)) :
    List.Forall₂ related (keepFirst seen lefts) (keepFirst seen rights) := by
  induction h generalizing seen with
  | nil => exact .nil
  | cons hHead _ ih =>
      unfold keepFirst
      rw [keys _ _ hHead]
      split
      · exact ih seen
      · exact .cons hHead (ih _)

/-- A warning in another file. -/
def UnresolvedVariable.movedTo (path : String) (warning : UnresolvedVariable) :
    UnresolvedVariable :=
  { warning with path }

/-- A finding in another file. -/
def Finding.movedTo (path : String) : Finding → Finding
  | template visit => template visit
  | unresolved warning => unresolved (warning.movedTo path)

theorem Finding.visit?_movedTo (path : String) (finding : Finding) :
    (finding.movedTo path).visit? = finding.visit? := by
  cases finding with
  | template visit => rfl
  | unresolved warning => rfl

theorem Finding.warning?_movedTo (path : String) (finding : Finding) :
    (finding.movedTo path).warning? = finding.warning?.map (UnresolvedVariable.movedTo path) := by
  cases finding with
  | template visit => rfl
  | unresolved warning => rfl

namespace Source

variable (source : Source) (path path' : String)

/-- The path goes into the warnings of a target and into nothing else. -/
theorem target?_movedTo (usage : String) (route : Route) :
    source.target? path' usage route =
      fun expression =>
        (source.target? path usage route expression).map (Finding.movedTo path') := by
  funext expression
  unfold target?
  dsimp only
  split
  · rfl
  · split
    · split
      · rfl
      · split
        · rfl
        · rfl
    · rfl

theorem elementFindings_movedTo :
    source.elementFindings path' = (source.elementFindings path).map (Finding.movedTo path') := by
  simp only [elementFindings, List.map_flatMap, List.map_filterMap]
  rw [source.target?_movedTo path path']

theorem hookFindings_movedTo :
    source.hookFindings path' = (source.hookFindings path).map (Finding.movedTo path') := by
  simp only [hookFindings, List.map_filterMap]
  rw [source.target?_movedTo path path']

/-- All findings are the same up to the path. -/
theorem findings_movedTo :
    source.findings path' = (source.findings path).map (Finding.movedTo path') := by
  unfold findings
  rw [source.elementFindings_movedTo path path', source.hookFindings_movedTo path path',
    List.map_append]
  split
  · rfl
  · rfl

/-- The same templates are visited whatever the path is. -/
theorem visits_movedTo : source.visits path' = source.visits path := by
  have hVisits : (source.findings path').filterMap Finding.visit? =
      (source.findings path).filterMap Finding.visit? := by
    rw [source.findings_movedTo path path', List.filterMap_map]
    congr 1
    funext finding
    exact finding.visit?_movedTo path'
  rw [visits, visits, hVisits]

/-- Warnings differ by the path only. -/
theorem warnings_movedTo :
    (source.findings path').filterMap Finding.warning? =
      ((source.findings path).filterMap Finding.warning?).map
        (UnresolvedVariable.movedTo path') := by
  rw [source.findings_movedTo path path', List.filterMap_map, List.map_filterMap]
  congr 1
  funext finding
  exact finding.warning?_movedTo path'

end Source

/-- The warnings about one variable in a file under two paths. -/
structure UnresolvedVariable.Moved (path path' : String) (left right : UnresolvedVariable) :
    Prop where
  paths : left.path = path ∧ right.path = path'
  name : left.name = right.name
  usage : left.usage = right.usage

theorem Source.moved_warnings (source : Source) (path path' : String) :
    List.Forall₂ (UnresolvedVariable.Moved path path')
      ((source.findings path).filterMap Finding.warning?)
      ((source.findings path').filterMap Finding.warning?) := by
  -- Both sides are the warnings under the first path, moved: the first ones to where they are.
  rw [source.warnings_movedTo path path', source.warnings_movedTo path path,
    List.map_map, List.forall₂_map_left_iff, List.forall₂_map_right_iff, List.forall₂_same]
  exact fun warning _ => ⟨⟨rfl, rfl⟩, rfl, rfl⟩

/-- The results for a file under two paths: the same queries and the same warnings, in the same
order. -/
structure Extraction.Moved (source : Source) (path path' : String) (left right : Extraction) :
    Prop where
  fragments : List.Forall₂ (source.SameQuery (source.visits path) path path')
    left.fragments right.fragments
  warnings : List.Forall₂ (UnresolvedVariable.Moved path path') left.warnings right.warnings

/-- A file that is moved has the same fault, or the same queries and warnings. Only paths and
generated names are others. -/
theorem Extraction.ofTree_moved_only_names (tree : SyntaxTree) (settings : Settings)
    (path path' : String) :
    EndAlike (Extraction.Moved (Source.ofTree tree settings) path path')
      (Extraction.ofTree tree path settings) (Extraction.ofTree tree path' settings) := by
  unfold Extraction.ofTree
  generalize Source.ofTree tree settings = source
  dsimp only
  rw [source.visits_movedTo path path']
  have hRead := source.readVisits_moved path path' (source.visits path)
  generalize source.readVisits path (source.visits path) = run,
    source.readVisits path' (source.visits path) = run' at hRead ⊢
  cases hRead with
  | fault fault => exact .fault fault
  | results hFragments =>
      refine .results ⟨forall₂_keepFirst ?_ hFragments [], source.moved_warnings path path'⟩
      rintro left right ⟨_, _, _, _, hMoved⟩
      rw [hMoved.keys.1, hMoved.keys.2]

end ComponentQueries
