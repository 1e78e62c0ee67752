import ComponentQueries.Proofs.Extraction.Exactness
import ComponentQueries.Proofs.GraphQL.DefinitionNames
import ComponentQueries.Proofs.Naming.NamedDocuments

/-! The names of fragments. A fragment goes by a name from its document or by a generated one,
and both have the form of a name. -/
namespace ComponentQueries

namespace GraphQL

theorem namesWell_named {name : String} (h : isName name.toList = true) {definition : Definition}
    (hDefinition : definition.NamesWell) : (definition.named name).NamesWell := by
  unfold Definition.named
  split
  · intro given hGiven
    cases hGiven
    exact h
  · exact hDefinition

/-- A document goes by a name of the right form, if it has no other names. -/
theorem Document.GoesBy.isName {document : Document} {otherwise name : String}
    (h : document.GoesBy otherwise name)
    (hNames : ∀ definition ∈ document.definitions, definition.NamesWell)
    (hOtherwise : isName otherwise.toList = true) : isName name.toList = true := by
  cases h with
  | @first before after definition name hSplit hGiven _ _ =>
      have hDefinition : definition ∈ document.definitions := by simp [hSplit]
      exact hNames definition hDefinition name hGiven
  | otherwise _ => exact hOtherwise

end GraphQL

open Naming

/-- A document that was parsed goes by a name, also if all its names are generated. -/
theorem NamedDocument.isName_ofDocument {document : GraphQL.Document} {body : List Char}
    (parsed : GraphQL.Document.parse body = .ok document) {hash : String}
    (decimal : IsDecimal hash) (queryType : QueryType) (path : String) :
    GraphQL.isName (NamedDocument.ofDocument document queryType.label path hash).name.toList =
      true := by
  have hGenerated := isName_generatedName (isSmallWord_label queryType) decimal path
  refine (GraphQL.goesBy_firstName? _ _).isName (fun definition hDefinition => ?_) hGenerated
  obtain ⟨original, hOriginal, rfl⟩ := List.mem_map.mp hDefinition
  exact GraphQL.namesWell_named hGenerated (GraphQL.namesWell_of_parse parsed original hOriginal)

/-- The fragments of a file go by names. -/
theorem Extraction.isName_of_mem {tree : SyntaxTree} {path : String} {settings : Settings}
    {extraction : Extraction} (h : Extraction.ofTree tree path settings = .ok extraction)
    {fragment : Fragment} (hFragment : fragment ∈ extraction.fragments) :
    GraphQL.isName fragment.name.toList = true := by
  obtain ⟨visit, -, hVisit⟩ := Extraction.exists_visit_of_mem h hFragment
  obtain ⟨tag, queryType, hTag, -, rfl⟩ := Source.readVisit_eq_some hVisit
  obtain ⟨-, template, -, hTemplate⟩ := Source.readTag_eq_some hTag
  obtain ⟨-, hBody, hHash, -, -⟩ := Source.readTemplate_eq_ok hTemplate
  obtain ⟨-, -, -, -, hParsed⟩ := Source.readBody_eq_ok hBody
  have hDecimal : IsDecimal tag.hash := hHash ▸ isDecimal_fragmentHash tag.text
  exact NamedDocument.isName_ofDocument hParsed hDecimal queryType path

/-- Generated names consist of the type of the query, letters and digits that the path
contributes, and the hash. So they are names, in one file each type and hash has its own, and
every fragment of the file goes by a name. -/
theorem Naming.generated_names_valid_and_distinct (path : String) :
    (∀ c ∈ (pathPart path).toList, c.isAlphanum = true) ∧
    (∀ (queryType : QueryType) (hash : String), IsDecimal hash →
      generatedName queryType.label path hash = queryType.label ++ pathPart path ++ hash ∧
        GraphQL.isName (generatedName queryType.label path hash).toList = true) ∧
    (∀ (queryType queryType' : QueryType) (hash hash' : String),
      IsDecimal hash → IsDecimal hash' →
        (generatedName queryType.label path hash = generatedName queryType'.label path hash' ↔
          queryType.label = queryType'.label ∧ hash = hash')) ∧
    ∀ (tree : SyntaxTree) (settings : Settings) (extraction : Extraction),
      Extraction.ofTree tree path settings = .ok extraction →
        ∀ fragment ∈ extraction.fragments,
          fragment.name ≠ "" ∧ GraphQL.isName fragment.name.toList = true := by
  refine ⟨isAlphanum_of_mem_pathPart path, fun queryType hash decimal => ?_,
    fun queryType queryType' hash hash' decimal decimal' => ?_,
    fun tree settings extraction hResult fragment hFragment => ?_⟩
  · exact ⟨generatedName_eq (isSmallWord_label queryType) decimal path,
      isName_generatedName (isSmallWord_label queryType) decimal path⟩
  · rw [generatedName_inj decimal decimal']
    constructor
    · rintro ⟨rfl, rfl⟩
      exact ⟨rfl, rfl⟩
    · rintro ⟨hLabel, rfl⟩
      exact ⟨eq_of_label_append (congrArg (·.toList ++ []) hLabel), rfl⟩
  · have hName := Extraction.isName_of_mem hResult hFragment
    refine ⟨fun hEmpty => ?_, hName⟩
    rw [hEmpty] at hName
    cases hName

/-- A path with a directory, brackets, an underscore, two words in one and a number. -/
def Naming.mixedPath : String := "src/[id]/site_SQLHeader2.tsx"

/-- The path contributes five words. The separator of directories is none of the separators of
words, and a run of capitals ends in front of a capitalized word. -/
theorem Naming.generated_names_valid_and_distinct_mixedPath :
    pathPart mixedPath = "SrcidsiteSqlHeader2Tsx" ∧ IsDecimal "042" ∧
      generatedName "static" mixedPath "042" = "staticSrcidsiteSqlHeader2Tsx042" ∧
      GraphQL.isName (generatedName "static" mixedPath "042").toList = true ∧
      ∃ extraction, Extraction.ofTree Extraction.hookInExport mixedPath {} = .ok extraction ∧
        extraction.fragments.length = 1 ∧
        ∀ fragment ∈ extraction.fragments,
          fragment.name ≠ "" ∧ GraphQL.isName fragment.name.toList = true := by
  have hPart : pathPart mixedPath = "SrcidsiteSqlHeader2Tsx" := by decide +kernel
  have hDecimal : IsDecimal "042" := ⟨by decide, by simp⟩
  have hAll := Naming.generated_names_valid_and_distinct mixedPath
  obtain ⟨hParts, hName⟩ := hAll.2.1 .static "042" hDecimal
  have hFound : (Extraction.ofTree Extraction.hookInExport mixedPath {}).toOption.map
      (fun extraction => extraction.fragments.length) = some 1 := by
    decide +kernel
  refine ⟨hPart, hDecimal, ?_, hName, ?_⟩
  · rw [show "static" = QueryType.static.label from rfl, hParts, hPart]
    decide
  · cases hResult : Extraction.ofTree Extraction.hookInExport mixedPath {} with
    | error fault =>
        rw [hResult] at hFound
        cases hFound
    | ok extraction =>
        rw [hResult] at hFound
        exact ⟨extraction, rfl, Option.some.inj hFound, hAll.2.2.2 _ _ _ hResult⟩

end ComponentQueries
