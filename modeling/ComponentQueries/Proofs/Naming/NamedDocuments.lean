import ComponentQueries.Proofs.Naming.GeneratedNames
import Mathlib.Data.List.Forall2

/-! Documents whose definitions are given names. Only definitions that have a place for a name
and none in it are changed, and only in their names, so that nothing is left to be changed a
second time. -/
namespace ComponentQueries

namespace GraphQL

variable {name : String} {definition : Definition}

/-- Definitions with a name that is not empty. -/
def Definition.HasName (definition : Definition) : Prop :=
  ∃ name, definition.name = some name ∧ name ≠ ""

/-- Definitions and extensions of a schema, which have no place for a name. -/
def Definition.IsSchema (definition : Definition) : Prop :=
  definition.kind = .definition .schema ∨ definition.kind = .extension .schema

/-- What becomes of a definition when a name is given to those that lack one. -/
inductive Definition.Completed (name : String) : Definition → Definition → Prop where
  | kept {definition : Definition} (done : definition.HasName ∨ definition.IsSchema) :
      Completed name definition definition
  | given {definition : Definition} (unnamed : ¬definition.HasName)
      (named : ¬definition.IsSchema) :
      Completed name definition { definition with name := some name }

theorem givenName?_eq_some_iff {given : String} :
    definition.givenName? = some given ↔ definition.name = some given ∧ given ≠ "" := by
  simp [Definition.givenName?, Option.filter_eq_some_iff]

/-- An empty name counts as none. -/
theorem givenName?_eq_none_iff : definition.givenName? = none ↔ ¬definition.HasName := by
  rw [Option.eq_none_iff_forall_ne_some]
  simp [Definition.HasName, givenName?_eq_some_iff]

theorem isNamed_eq_false_iff : definition.kind.isNamed = false ↔ definition.IsSchema := by
  unfold Definition.IsSchema DefinitionKind.isNamed
  split <;> simp_all

/-- A definition lacks a name if it has none and is no schema, which never has one. -/
theorem lacksName_iff :
    definition.lacksName = true ↔ ¬definition.HasName ∧ ¬definition.IsSchema := by
  rw [Definition.lacksName, Bool.and_eq_true, Option.isNone_iff_eq_none, givenName?_eq_none_iff,
    ← isNamed_eq_false_iff, Bool.not_eq_false, and_comm]

/-- Naming completes a definition. -/
theorem completed_named (name : String) (definition : Definition) :
    definition.Completed name (definition.named name) := by
  unfold Definition.named
  split
  · next hLacks =>
      obtain ⟨hUnnamed, hPlace⟩ := lacksName_iff.mp hLacks
      exact .given hUnnamed hPlace
  · next hDone =>
      rw [lacksName_iff] at hDone
      exact .kept (or_iff_not_and_not.mpr hDone)

theorem named_of_not_lacksName (h : definition.lacksName = false) :
    definition.named name = definition := by
  simp [Definition.named, h]

/-- A definition that has a name, or needs none, is left as it is. -/
theorem named_of_done (h : definition.HasName ∨ definition.IsSchema) :
    definition.named name = definition := by
  apply named_of_not_lacksName
  rw [← Bool.not_eq_true, lacksName_iff]
  exact fun hLacks => h.elim hLacks.1 hLacks.2

/-- A definition that lacked a name is another one when it has been given one. -/
theorem named_ne_iff (h : name ≠ "") :
    definition.named name ≠ definition ↔ definition.lacksName = true := by
  constructor
  · intro hChanged
    by_contra hDone
    exact hChanged (named_of_not_lacksName (by simpa using hDone))
  · intro hLacks hSame
    have hName : (definition.named name).name = some name := by
      simp [Definition.named, hLacks]
    rw [hSame] at hName
    exact (lacksName_iff.mp hLacks).1 ⟨name, hName, h⟩

/-- After naming no name is missing. -/
theorem lacksName_named (h : name ≠ "") : (definition.named name).lacksName = false := by
  by_cases hLacks : definition.lacksName = true
  · rw [← Bool.not_eq_true, lacksName_iff]
    rintro ⟨hUnnamed, -⟩
    exact hUnnamed ⟨name, by simp [Definition.named, hLacks], h⟩
  · rw [Bool.not_eq_true] at hLacks
    rw [named_of_not_lacksName hLacks, hLacks]

theorem kind_named : (definition.named name).kind = definition.kind := by
  unfold Definition.named
  split
  · rfl
  · rfl

/-- The name that a document goes by: that of its first definition with a name, and another one
if no definition has a name. -/
inductive Document.GoesBy (document : Document) (otherwise : String) : String → Prop where
  | first {before after : List Definition} {definition : Definition} {name : String}
      (split : document.definitions = before ++ definition :: after)
      (given : definition.name = some name) (nonempty : name ≠ "")
      (unnamed : ∀ earlier ∈ before, ¬earlier.HasName) : GoesBy document otherwise name
  | otherwise (unnamed : ∀ definition ∈ document.definitions, ¬definition.HasName) :
      GoesBy document otherwise otherwise

/-- A document goes by its first name, or by another word if it has none. -/
theorem goesBy_firstName? (document : Document) (otherwise : String) :
    document.GoesBy otherwise (document.firstName?.getD otherwise) := by
  cases hFirst : document.firstName? with
  | none =>
      refine .otherwise fun definition hDefinition => ?_
      exact givenName?_eq_none_iff.mp (List.findSome?_eq_none_iff.mp hFirst definition hDefinition)
  | some name =>
      obtain ⟨before, definition, after, hSplit, hGiven, hBefore⟩ :=
        List.findSome?_eq_some_iff.mp hFirst
      obtain ⟨hName, hNonempty⟩ := givenName?_eq_some_iff.mp hGiven
      exact .first hSplit hName hNonempty fun earlier hEarlier =>
        givenName?_eq_none_iff.mp (hBefore earlier hEarlier)

/-- A document in which no name is missing is left as it is. -/
theorem document_named_of_not_lacksName {document : Document} (h : document.lacksName = false) :
    document.named name = document := by
  obtain ⟨definitions⟩ := document
  have hSame : definitions.map (Definition.named name) = definitions.map id :=
    List.map_congr_left fun definition hDefinition =>
      named_of_not_lacksName (by simpa using List.any_eq_false.mp h definition hDefinition)
  rw [Document.named, hSame, List.map_id]

theorem document_lacksName_named (h : name ≠ "") (document : Document) :
    (document.named name).lacksName = false := by
  rw [Document.lacksName, Document.named, List.any_map, List.any_eq_false]
  intro definition _
  simp [lacksName_named h]

/-- Some definition lacks a name if and only if some definition becomes another one. -/
theorem document_lacksName_iff (h : name ≠ "") (document : Document) :
    document.lacksName = true ↔
      ∃ index : Nat, (document.named name).definitions[index]? ≠ document.definitions[index]? := by
  constructor
  · intro hLacks
    obtain ⟨definition, hDefinition, hLacks⟩ := List.any_eq_true.mp hLacks
    obtain ⟨index, hIndex⟩ := List.mem_iff_getElem?.mp hDefinition
    refine ⟨index, ?_⟩
    rw [Document.named, List.getElem?_map, hIndex, Option.map_some]
    exact fun hSame => (named_ne_iff h).mpr hLacks (Option.some.inj hSame)
  · rintro ⟨index, hChanged⟩
    by_contra hDone
    rw [document_named_of_not_lacksName (by simpa using hDone)] at hChanged
    exact hChanged rfl

end GraphQL

open GraphQL

/-- The result of giving a name to the definitions of a document that lack one. -/
structure NamedDocument.Completes (result : NamedDocument) (document : Document)
    (generated : String) : Prop where
  count : result.document.definitions.length = document.definitions.length
  kinds : result.document.definitions.map Definition.kind =
    document.definitions.map Definition.kind
  definitions : List.Forall₂ (Definition.Completed generated) document.definitions
    result.document.definitions
  autoNamed : result.autoNamed = true ↔
    ∃ index : Nat, result.document.definitions[index]? ≠ document.definitions[index]?
  name : result.document.GoesBy generated result.name

/-- Generated names are given to the definitions that lack a name and change nothing else. The
document then goes by its first name, and giving names once more does nothing. -/
theorem NamedDocument.only_missing_names_given (document : Document) (queryType : QueryType)
    (path hash : String) (decimal : Naming.IsDecimal hash) :
    (NamedDocument.ofDocument document queryType.label path hash).Completes document
        (Naming.generatedName queryType.label path hash) ∧
      NamedDocument.ofDocument
          (NamedDocument.ofDocument document queryType.label path hash).document
          queryType.label path hash =
        { NamedDocument.ofDocument document queryType.label path hash with
          autoNamed := false } := by
  have hNonempty : Naming.generatedName queryType.label path hash ≠ "" :=
    Naming.generatedName_ne_empty (Naming.isSmallWord_label queryType) decimal path
  unfold NamedDocument.ofDocument
  generalize Naming.generatedName queryType.label path hash = generated at hNonempty ⊢
  have hDone := document_lacksName_named hNonempty document
  refine ⟨⟨?_, ?_, ?_, document_lacksName_iff hNonempty document, goesBy_firstName? _ _⟩, ?_⟩
  · exact List.length_map _
  · simp [Document.named, Function.comp_def, kind_named]
  · show List.Forall₂ _ _ (document.definitions.map (Definition.named generated))
    rw [List.forall₂_map_right_iff, List.forall₂_same]
    exact fun definition _ => completed_named generated definition
  · dsimp only
    rw [document_named_of_not_lacksName hDone, hDone]

/-- A schema, a query without a name and a fragment. -/
def GraphQL.Document.mixed : Document :=
  ⟨[⟨.definition .schema, none, none, .schema [] [(.query, "Query")]⟩,
    ⟨.operation, none, none, .operation .query [] [] [.spread "SiteId" []]⟩,
    ⟨.fragment, none, some "SiteId", .fragment "Site" [] [.field none "id" [] [] none]⟩]⟩

/-- The schema has no place for a name, the query is given one, and the fragment has one. -/
theorem NamedDocument.only_missing_names_given_mixed :
    Naming.IsDecimal "7" ∧
      (NamedDocument.ofDocument Document.mixed "page" "a.js" "7").document.definitions.map
        Definition.name = [none, some "pageAJs7", some "SiteId"] ∧
      (NamedDocument.ofDocument Document.mixed "page" "a.js" "7").Completes Document.mixed
        (Naming.generatedName "page" "a.js" "7") := by
  have hDecimal : Naming.IsDecimal "7" := ⟨by decide, by simp⟩
  exact ⟨hDecimal, by decide +kernel,
    (NamedDocument.only_missing_names_given Document.mixed .page "a.js" "7" hDecimal).1⟩

end ComponentQueries
