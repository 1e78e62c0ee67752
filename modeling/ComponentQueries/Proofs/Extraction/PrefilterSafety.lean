import ComponentQueries.Proofs.Extraction.Reading
import ComponentQueries.Proofs.Extraction.Routes
import ComponentQueries.Proofs.SyntaxTree.NodeBuilders
import ComponentQueries.Proofs.SyntaxTree.Shape

/-! A file without any marker has neither a query nor a capability. Every tag of queries
and every exported name was read off the text, so the text contains it. -/
namespace ComponentQueries

namespace Text

/-- Trimming takes characters off the ends and leaves the rest as it was. -/
theorem trim_isInfix (drop : Char → Bool) (text : List Char) : trim drop text <:+: text := by
  have hStart : trimStart drop text <:+ text := List.dropWhile_suffix drop
  have hEnd : trimEnd drop (trimStart drop text) <+: trimStart drop text := by
    rw [← List.reverse_suffix, trimEnd, List.reverse_reverse]
    exact List.dropWhile_suffix drop
  exact hEnd.isInfix.trans hStart.isInfix

end Text

namespace SyntaxTree

variable {tree : SyntaxTree}

/-- Words that the text of a tree does not contain. -/
def Lacks (tree : SyntaxTree) (word : String) : Prop :=
  ¬word.toList <:+: tree.text

/-- The text of a node is a part of the text of the file. -/
theorem OnBoundaries.textOf_isInfix (boundaries : tree.OnBoundaries) {cursor : Cursor}
    (h : tree.top.Below cursor) : (tree.textOf cursor).toList <:+: tree.text := by
  rw [textOf, String.toList_ofList]
  exact Text.slice_isInfix (boundaries cursor h).1 (boundaries cursor h).2

/-- No node reads like a word that the text lacks. -/
theorem OnBoundaries.textOf_ne (boundaries : tree.OnBoundaries) {word : String}
    (hLacks : tree.Lacks word) {cursor : Cursor} (h : tree.top.Below cursor) :
    tree.textOf cursor ≠ word := by
  intro hWord
  exact hLacks (hWord ▸ boundaries.textOf_isInfix h)

/-- A name in a module is a word of the text, unless it is one of the two that stand for
an import without a name. -/
theorem Declares.imported_cases {cursor : Cursor} {binding : Binding} {word : String}
    (boundaries : tree.OnBoundaries) (hCursor : tree.top.Below cursor)
    (h : tree.Declares cursor binding) (hImported : binding.imported = some word) :
    word = "default" ∨ word = "*" ∨ word.toList <:+: tree.text := by
  cases h with
  | defaultImport _ => exact Or.inl (Option.some.inj hImported).symm
  | moduleImport _ => exact Or.inr (Or.inl (Option.some.inj hImported).symm)
  | namedImport _ hName =>
      obtain rfl := Option.some.inj hImported
      rw [String.toList_ofList]
      exact Or.inr (Or.inr ((Text.trim_isInfix _ _).trans
        (boundaries.textOf_isInfix (hCursor.trans hName))))
  | requiredModule => cases hImported
  | requiredProperty hKey =>
      obtain rfl := Option.some.inj hImported
      exact Or.inr (Or.inr (boundaries.textOf_isInfix (hCursor.trans hKey)))
  | own _ => cases hImported

/-- A name is the text of some node. -/
theorem exists_place_of_nameText? {top cursor : Cursor} {name : String} (h : top.Below cursor)
    (hName : tree.nameText? cursor = some name) :
    ∃ place, top.Below place ∧ tree.textOf place = name := by
  obtain ⟨place, hPlace, rfl⟩ := Option.map_eq_some_iff.mp hName
  exact ⟨place, h.role hPlace, rfl⟩

theorem exists_place_of_declaratorName? {top cursor : Cursor} {name : String}
    (h : top.Below cursor) (hName : tree.declaratorName? cursor = some name) :
    ∃ place, top.Below place ∧ tree.textOf place = name := by
  obtain ⟨declarator, hDeclarator, hName⟩ := Option.bind_eq_some_iff.mp hName
  obtain ⟨place, hPlace, hName⟩ := Option.bind_eq_some_iff.mp hName
  obtain ⟨_, _, hName⟩ := Option.bind_eq_some_iff.mp hName
  obtain rfl := Option.some.inj hName
  exact ⟨place, (h.named (List.mem_of_find?_eq_some hDeclarator)).role hPlace, rfl⟩

theorem exists_place_of_declaredApi? {top statement : Cursor} {name : String}
    (h : top.Below statement) (hName : tree.declaredApi? statement = some name) :
    ∃ place, top.Below place ∧ tree.textOf place = name := by
  unfold declaredApi? at hName
  split at hName
  · cases hName
  · next declaration hDeclaration =>
      have hBelow := h.role hDeclaration
      split at hName
      · exact exists_place_of_nameText? hBelow hName
      · exact exists_place_of_declaratorName? hBelow hName
      · exact exists_place_of_declaratorName? hBelow hName
      · cases hName

theorem exists_place_of_specifierName? {top specifier : Cursor} {name : String}
    (h : top.Below specifier) (hName : tree.specifierName? specifier = some name) :
    ∃ place, top.Below place ∧ tree.textOf place = name := by
  obtain ⟨place, hPlace, rfl⟩ := Option.map_eq_some_iff.mp hName
  rcases Option.or_eq_some_iff.mp hPlace with hRole | ⟨_, hRole⟩
  · exact ⟨place, h.role hRole, rfl⟩
  · exact ⟨place, h.role hRole, rfl⟩

/-- The name of an export stands somewhere in the file. -/
theorem exists_place_of_exportsName {name : String} (h : tree.exportsName name = true) :
    ∃ place, tree.top.Below place ∧ tree.textOf place = name := by
  obtain ⟨statement, hStatement, h⟩ := List.any_eq_true.mp h
  have hBelow := Cursor.Below.self.named (List.mem_filter.mp hStatement).1
  rcases Bool.or_eq_true_iff.mp h with h | h
  · obtain ⟨specifier, hSpecifier, h⟩ := List.any_eq_true.mp h
    obtain ⟨clause, hClause, _, hSpecifier, _⟩ := Source.mem_exportSpecifiers_iff.mp hSpecifier
    exact exists_place_of_specifierName? ((hBelow.named hClause).named hSpecifier)
      (beq_iff_eq.mp h)
  · exact exists_place_of_declaredApi? hBelow (beq_iff_eq.mp h)

/-- A name that the text lacks is not exported. -/
theorem OnBoundaries.exportsName_eq_false (boundaries : tree.OnBoundaries) {name : String}
    (hLacks : tree.Lacks name) : tree.exportsName name = false := by
  rw [Bool.eq_false_iff]
  intro h
  obtain ⟨place, hPlace, hName⟩ := exists_place_of_exportsName h
  exact boundaries.textOf_ne hLacks hPlace hName

end SyntaxTree

namespace Source

variable {tree : SyntaxTree} {settings : Settings}

/-- A name tag has nothing to do with queries if the text lacks the name of the tag. -/
theorem nameOrigin_eq_other (boundaries : tree.OnBoundaries)
    (hDefault : settings.tagName ≠ "default") (hModule : settings.tagName ≠ "*")
    (hLacks : tree.Lacks settings.tagName) {tag : Cursor} (h : tree.top.Below tag) :
    (ofTree tree settings).nameOrigin tag = .other := by
  unfold nameOrigin
  dsimp only
  split
  · exact if_neg (boundaries.textOf_ne hLacks h)
  · next binding hBinding =>
      apply if_neg
      rintro ⟨_, _, hImported⟩
      obtain ⟨cursor, hCursor, hDeclares⟩ :=
        ScopeTable.exists_declares_of_holds (ScopeTable.holds_of_resolve? hBinding)
      rcases hDeclares.imported_cases boundaries hCursor hImported with hWord | hWord | hWord
      · exact hDefault hWord
      · exact hModule hWord
      · exact hLacks hWord

/-- Neither has a member of a module. -/
theorem memberOrigin_eq_other (boundaries : tree.OnBoundaries)
    (hLacks : tree.Lacks settings.tagName) {tag : Cursor} (h : tree.top.Below tag) :
    (ofTree tree settings).memberOrigin tag = .other := by
  unfold memberOrigin
  split
  · rfl
  · next object property hParts =>
      split
      · rfl
      · apply if_neg
        rintro ⟨hProperty, _⟩
        obtain ⟨_, _, hParts⟩ := Option.bind_eq_some_iff.mp hParts
        obtain ⟨place, hPlace, hParts⟩ := Option.bind_eq_some_iff.mp hParts
        obtain ⟨_, _, hParts⟩ := Option.bind_eq_some_iff.mp hParts
        have hText : tree.textOf place = property :=
          congrArg Prod.snd (Option.some.inj hParts)
        exact boundaries.textOf_ne hLacks (h.role hPlace) (hText.trans hProperty)

/-- No tag of a text that lacks the name of the tag is that of queries, and none is missing
its declaration. -/
theorem tagOrigin_eq_other (boundaries : tree.OnBoundaries)
    (hDefault : settings.tagName ≠ "default") (hModule : settings.tagName ≠ "*")
    (hLacks : tree.Lacks settings.tagName) {tag : Cursor} (h : tree.top.Below tag) :
    (ofTree tree settings).tagOrigin tag = .other := by
  unfold tagOrigin
  split
  · exact nameOrigin_eq_other boundaries hDefault hModule hLacks h
  · exact memberOrigin_eq_other boundaries hLacks h
  · rfl

/-- A template is passed over, without any look at its body, if its tag is not that of
queries. -/
theorem readVisit_eq_none {source : Source} {path : String} {visit : Visit}
    (h : ∀ tag, visit.template.child? .function = some tag → source.tagOrigin tag = .other) :
    source.readVisit path visit = .ok none := by
  have hTag : source.readTag visit.template = .ok none := by
    unfold readTag
    split
    · split
      · next tag _ hTag _ => rw [h tag hTag]
      · rfl
    · rfl
  rw [readVisit, hTag]

/-- Visits without a fragment leave nothing behind. -/
theorem readVisits_eq_nil {source : Source} {path : String} {visits : List Visit}
    (h : ∀ visit ∈ visits, source.readVisit path visit = .ok none) :
    source.readVisits path visits = .ok [] := by
  induction visits with
  | nil => rfl
  | cons visit others ih =>
      rw [readVisits, h visit (.head _), ih fun other hOther => h other (.tail _ hOther)]
      rfl

end Source

namespace Prefilter

/-- A text that is turned down lacks all markers. -/
theorem lacks_of_not_passes {tree : SyntaxTree} {markers : List String}
    (rejected : passes tree.text markers = false) {marker : String} (h : marker ∈ markers) :
    tree.Lacks marker := by
  intro hInfix
  have hPasses : passes tree.text markers = true :=
    List.any_eq_true.mpr ⟨marker, h, (occursIn_iff_isInfix _ _).mpr hInfix⟩
  rw [rejected] at hPasses
  cases hPasses

/-- A file that the test rules out has no query, no fault that extraction could find, and no
capability. The two excluded names are those that the table gives to imports without one. -/
theorem rejected_has_no_result (tree : SyntaxTree) (path : String) (settings : Settings)
    (boundaries : tree.OnBoundaries) (hDefault : settings.tagName ≠ "default")
    (hModule : settings.tagName ≠ "*")
    (rejected : passes tree.text (markers settings.tagName) = false) :
    (∃ warnings, Extraction.ofTree tree path settings = .ok ⟨[], warnings⟩) ∧
      Features.ofTree tree = Features.none := by
  have hLacks : ∀ marker ∈ markers settings.tagName, tree.Lacks marker :=
    fun marker h => lacks_of_not_passes rejected h
  constructor
  · have hVisits : ∀ visit ∈ (Source.ofTree tree settings).visits path,
        (Source.ofTree tree settings).readVisit path visit = .ok none := by
      intro visit hVisit
      apply Source.readVisit_eq_none
      intro tag hTag
      have hPlace := (Source.mem_visits_iff.mp hVisit).place.role hTag
      exact Source.tagOrigin_eq_other boundaries hDefault hModule (hLacks _ (.head _)) hPlace
    unfold Extraction.ofTree
    dsimp only
    rw [Source.readVisits_eq_nil hVisits]
    exact ⟨_, rfl⟩
  · have hExports : ∀ name ∈ featureMarkers, tree.exportsName name = false :=
      fun name h => boundaries.exportsName_eq_false (hLacks name (.tail _ h))
    rw [Features.ofTree, configExport, hExports "getServerData" (by simp [featureMarkers]),
      hExports "config" (by simp [featureMarkers]), hExports "Head" (by simp [featureMarkers])]
    rfl

/-- The tree of ``export const a=f`x` ``. -/
def foreignTemplate : SyntaxTree :=
  ⟨.phrase .program 0 19 none
    [.phrase .exportStatement 0 19 none
      [.token "export" 0,
        .phrase .lexicalDeclaration 7 19 (some .declaration)
          [.token "const" 7,
            .phrase .variableDeclarator 13 19 none
              [.phrase .identifier 13 14 (some .name) [], .token "=" 14,
                .phrase .callExpression 15 19 (some .value)
                  [.phrase .identifier 15 16 (some .function) [],
                    .quoted .templateString "`" 16 19 (some .arguments)]]]]],
    "export const a=f`x`".toList, "a.js", .javascript⟩

theorem rejected_has_no_result_foreign :
    foreignTemplate.OnBoundaries ∧
      passes foreignTemplate.text (markers ({} : Settings).tagName) = false ∧
      (∃ warnings, Extraction.ofTree foreignTemplate "a.js" {} = .ok ⟨[], warnings⟩) ∧
      Features.ofTree foreignTemplate = Features.none :=
  have hBoundaries : foreignTemplate.OnBoundaries := by decide +kernel
  have hRejected : passes foreignTemplate.text (markers ({} : Settings).tagName) = false := by
    decide +kernel
  ⟨hBoundaries, hRejected, rejected_has_no_result foreignTemplate "a.js" {} hBoundaries
    (by decide) (by decide) hRejected⟩

end Prefilter

end ComponentQueries
