import ComponentQueries.Proofs.Extraction.Reading
import ComponentQueries.Proofs.Extraction.Routes
import ComponentQueries.Proofs.SyntaxTree.NodeBuilders
import ComponentQueries.Proofs.SyntaxTree.Shape
import Mathlib.Data.List.Forall2
import Mathlib.Data.List.Nodup

/-! Extraction yields one fragment for each template of a query on a route, and nothing
else. What a fragment counts as depends on the routes to its template alone. -/
namespace ComponentQueries

namespace Source

variable {source : Source}

/-- Only a name or a property of a name can be the tag of queries. -/
theorem isPlainTag_of_tagOrigin {tag : Cursor} (h : source.tagOrigin tag = .query) :
    tag.IsPlainTag := by
  unfold tagOrigin at h
  split at h
  · next hName => exact Or.inl hName
  · next hMember =>
      refine Or.inr ⟨hMember, ?_⟩
      unfold memberOrigin at h
      split at h
      · cases h
      · next hParts =>
          obtain ⟨object, hObject, hParts⟩ := Option.bind_eq_some_iff.mp hParts
          obtain ⟨_, _, hParts⟩ := Option.bind_eq_some_iff.mp hParts
          obtain ⟨_, hName, _⟩ := Option.bind_eq_some_iff.mp hParts
          exact ⟨object, hObject, (Option.guard_eq_some' _).mp hName⟩
  · cases h

theorem Recognises.isPlainCall {call : Cursor} (h : source.Recognises call) :
    call.IsPlainCall := by
  obtain ⟨hTagged, tag, hTag, hOrigin⟩ := h
  simp only [Cursor.isTaggedTemplate, Bool.and_eq_true, beq_iff_eq] at hTagged
  exact ⟨hTagged.1, tag, hTag, isPlainTag_of_tagOrigin hOrigin⟩

/-- In a tree with the promised shape, the key of a template tells it from all others. -/
theorem Recognises.eq_of_offset {tree : SyntaxTree} (shape : tree.WellShaped)
    {first second : Cursor} (hFirst : tree.top.Below first) (hSecond : tree.top.Below second)
    (recognised : source.Recognises first) (recognised' : source.Recognises second)
    (h : (Text.positionAt tree.text first.node.start).offset =
      (Text.positionAt tree.text second.node.start).offset) : first = second := by
  have hStart := Text.boundary_unique (shape first hFirst).startBoundary
    (shape second hSecond).startBoundary h
  exact Cursor.IsPlainCall.eq_of_start shape hFirst hSecond recognised.isPlainCall
    recognised'.isPlainCall hStart

/-- Templates whose nearest export statement declares the configuration of a page. -/
def InConfigExport (source : Source) (template : Cursor) : Prop :=
  ∃ statement, enclosingExport? template = some statement ∧
    source.tree.exportedName? statement = some configExport

theorem queryTypeOf_exported {template : Cursor} {queryType : QueryType}
    (h : source.queryTypeOf ⟨template, .exported⟩ = .ok queryType) :
    queryType ≠ .static ∧ (queryType = .config ↔ source.InConfigExport template) := by
  unfold queryTypeOf at h
  dsimp only at h
  unfold InConfigExport
  split at h
  · next hNone =>
      cases h
      simp [hNone]
  · next statement hStatement =>
      split at h
      · next hConfig =>
          split at h
          · cases h
            simp [hStatement, hConfig]
          · cases h
      · next hOther =>
          cases h
          simp [hStatement, hOther]

/-- The fragment of a template: what the template says, and what it counts as by the routes
to it. An element comes before a hook, and both come before an export. -/
structure Classified (source : Source) (path : String) (template : Cursor)
    (fragment : Fragment) : Prop where
  made : ∃ tag route, source.readTag template = .ok (some tag) ∧
    fragment = fragmentOf path route fragment.queryType tag
  isStatic : fragment.queryType = .static ↔
    source.Reaches .element template ∨ source.Reaches .hook template
  isHook : fragment.isHook = true ↔
    source.Reaches .hook template ∧ ¬source.Reaches .element template
  isConfig : fragment.queryType = .config ↔
    ¬source.Reaches .element template ∧ ¬source.Reaches .hook template ∧
      source.InConfigExport template

theorem Classified.locationKey {path : String} {template : Cursor} {fragment : Fragment}
    (h : source.Classified path template fragment) :
    fragment.locationKey =
      ((Text.positionAt source.tree.text template.node.start).offset, 0) := by
  obtain ⟨tag, route, hTag, hMade⟩ := h.made
  obtain ⟨_, _, _, hTemplate⟩ := readTag_eq_some hTag
  obtain ⟨_, _, _, _, hKey⟩ := readTemplate_eq_ok hTemplate
  rw [hMade]
  exact hKey

/-- No route of an earlier pass leads to a template that was not visited before. -/
theorem pass_le_of_reaches {path : String} {earlier later : List Visit} {visit : Visit}
    {route : Route} (hVisits : source.visits path = earlier ++ visit :: later)
    (hFirst : ∀ other ∈ earlier, other.template ≠ visit.template)
    (h : source.Reaches route visit.template) : visit.route.pass ≤ route.pass := by
  have hMem : (⟨visit.template, route⟩ : Visit) ∈ source.visits path := mem_visits_iff.mpr h
  have hPasses := source.visits_in_passes path
  rw [hVisits] at hMem hPasses
  rcases List.mem_append.mp hMem with hMem | hMem
  · exact absurd rfl (hFirst ⟨visit.template, route⟩ hMem)
  · rcases List.mem_cons.mp hMem with hSame | hMem
    · exact hSame ▸ Nat.le_refl _
    · exact (List.pairwise_cons.mp (List.pairwise_append.mp hPasses).2.1).1 _ hMem

/-- What is read when a template comes up for the first time is classified by its routes. -/
theorem classified_of_first {path : String} {earlier later : List Visit} {visit : Visit}
    {fragment : Fragment} (hVisits : source.visits path = earlier ++ visit :: later)
    (hFirst : ∀ other ∈ earlier, other.template ≠ visit.template)
    (h : source.readVisit path visit = .ok (some fragment)) :
    source.Classified path visit.template fragment := by
  obtain ⟨tag, queryType, hTag, hType, rfl⟩ := readVisit_eq_some h
  have hReaches : source.Reaches visit.route visit.template :=
    mem_visits_iff.mp (hVisits ▸ List.mem_append_right _ (List.mem_cons_self ..))
  have hLeast : ∀ route, source.Reaches route visit.template → visit.route.pass ≤ route.pass :=
    fun _ => pass_le_of_reaches hVisits hFirst
  obtain ⟨template, route⟩ := visit
  dsimp only at hTag hReaches hLeast ⊢
  have hMade : ∃ tag' route', source.readTag template = .ok (some tag') ∧
      fragmentOf path route queryType tag = fragmentOf path route' queryType tag' :=
    ⟨tag, route, hTag, rfl⟩
  cases route with
  | element =>
      cases hType
      exact ⟨hMade, by simp [fragmentOf, hReaches], by simp [fragmentOf, hReaches],
        by simp [fragmentOf, hReaches]⟩
  | hook =>
      cases hType
      have hElement : ¬source.Reaches .element template :=
        fun hElement => absurd (hLeast _ hElement) (by decide)
      exact ⟨hMade, by simp [fragmentOf, hReaches], by simp [fragmentOf, hReaches, hElement],
        by simp [fragmentOf, hReaches]⟩
  | exported =>
      have hElement : ¬source.Reaches .element template :=
        fun hElement => absurd (hLeast _ hElement) (by decide)
      have hHook : ¬source.Reaches .hook template :=
        fun hHook => absurd (hLeast _ hHook) (by decide)
      obtain ⟨hStatic, hConfig⟩ := queryTypeOf_exported hType
      exact ⟨hMade, by simp [fragmentOf, hElement, hHook, hStatic],
        by simp [fragmentOf, hHook], by simp [fragmentOf, hElement, hHook, hConfig]⟩

/-- A kept fragment is that of a visit before which no visit yields its key. -/
theorem exists_first_visit {path : String} {visits : List Visit} {fragment : Fragment}
    (h : fragment ∈ keepFirst [] (visits.filterMap (source.fragment? path))) :
    ∃ earlier visit later, visits = earlier ++ visit :: later ∧
      source.readVisit path visit = .ok (some fragment) ∧
      ∀ other ∈ earlier, ∀ found, source.readVisit path other = .ok (some found) →
        found.locationKey ≠ fragment.locationKey := by
  obtain ⟨before, after, hSplit, _, hBefore⟩ := mem_keepFirst_iff.mp h
  obtain ⟨front, rest, rfl, rfl, hRest⟩ := List.filterMap_eq_append_iff.mp hSplit
  obtain ⟨passed, visit, later, rfl, hPassed, hVisit, _⟩ := List.filterMap_eq_cons_iff.mp hRest
  refine ⟨front ++ passed, visit, later, (List.append_assoc ..).symm,
    fragment?_eq_some_iff.mp hVisit, ?_⟩
  intro other hOther found hFound
  rw [← fragment?_eq_some_iff] at hFound
  rcases List.mem_append.mp hOther with hOther | hOther
  · exact hBefore found (List.mem_filterMap.mpr ⟨other, hOther, hFound⟩)
  · rw [hPassed other hOther] at hFound
    cases hFound

/-- A recognised template on a route that is not faulty yields a fragment with its key. -/
theorem Recognises.readVisit_eq_some {path : String} {visit : Visit}
    (recognised : source.Recognises visit.template)
    (hSound : ∀ fault, source.readVisit path visit ≠ .error fault) :
    ∃ fragment, source.readVisit path visit = .ok (some fragment) := by
  cases hRead : source.readVisit path visit with
  | error fault => exact absurd hRead (hSound fault)
  | ok fragment =>
      cases fragment with
      | none => exact absurd hRead recognised.readVisit_ne_none
      | some fragment => exact ⟨fragment, rfl⟩

theorem locationKey_of_readVisit {path : String} {visit : Visit} {fragment : Fragment}
    (h : source.readVisit path visit = .ok (some fragment)) :
    source.Recognises visit.template ∧ fragment.locationKey =
      ((Text.positionAt source.tree.text visit.template.node.start).offset, 0) := by
  obtain ⟨tag, queryType, hTag, _, rfl⟩ := Source.readVisit_eq_some h
  obtain ⟨recognised, _, _, hTemplate⟩ := readTag_eq_some hTag
  obtain ⟨_, _, _, _, hKey⟩ := readTemplate_eq_ok hTemplate
  exact ⟨recognised, hKey⟩

/-- Every kept fragment has a recognised template on a route. The template came up first in
the visit that the fragment is from, since an earlier visit would have yielded its key. -/
theorem exists_template_of_kept {path : String} {fragment : Fragment}
    (hSound : ∀ visit ∈ source.visits path, ∀ fault, source.readVisit path visit ≠ .error fault)
    (h : fragment ∈ keepFirst [] ((source.visits path).filterMap (source.fragment? path))) :
    ∃ template, source.Recognises template ∧ (∃ route, source.Reaches route template) ∧
      source.Classified path template fragment := by
  obtain ⟨earlier, visit, later, hVisits, hRead, hEarlier⟩ := exists_first_visit h
  obtain ⟨recognised, hKey⟩ := locationKey_of_readVisit hRead
  have hFirst : ∀ other ∈ earlier, other.template ≠ visit.template := by
    intro other hOther hSame
    have hMem : other ∈ source.visits path := hVisits ▸ List.mem_append_left _ hOther
    have recognised' : source.Recognises other.template := hSame ▸ recognised
    obtain ⟨found, hFound⟩ := recognised'.readVisit_eq_some (hSound other hMem)
    obtain ⟨_, hFoundKey⟩ := locationKey_of_readVisit hFound
    exact hEarlier other hOther found hFound (by rw [hFoundKey, hKey, hSame])
  have hMem : visit ∈ source.visits path :=
    hVisits ▸ List.mem_append_right _ (List.mem_cons_self ..)
  exact ⟨visit.template, recognised, ⟨visit.route, mem_visits_iff.mp hMem⟩,
    classified_of_first hVisits hFirst hRead⟩

/-- Every recognised template on a route has its key among the kept fragments. -/
theorem exists_kept_of_template {path : String} {route : Route} {template : Cursor}
    (hSound : ∀ visit ∈ source.visits path, ∀ fault, source.readVisit path visit ≠ .error fault)
    (recognised : source.Recognises template) (h : source.Reaches route template) :
    ∃ fragment ∈ keepFirst [] ((source.visits path).filterMap (source.fragment? path)),
      fragment.locationKey =
        ((Text.positionAt source.tree.text template.node.start).offset, 0) := by
  have hMem : (⟨template, route⟩ : Visit) ∈ source.visits path := mem_visits_iff.mpr h
  obtain ⟨found, hFound⟩ := recognised.readVisit_eq_some (hSound _ hMem)
  obtain ⟨_, hKey⟩ := locationKey_of_readVisit hFound
  obtain ⟨kept, hKept, hSame⟩ := exists_mem_keepFirst
    (List.mem_filterMap.mpr ⟨_, hMem, fragment?_eq_some_iff.mpr hFound⟩) List.not_mem_nil
  exact ⟨kept, hKept, hSame.trans hKey⟩

/-- The fragments are those of the recognised templates on the routes, one for each. -/
def Exact (source : Source) (path : String) (fragments : List Fragment) : Prop :=
  ∃ templates : List Cursor, templates.Nodup ∧
    (∀ template, template ∈ templates ↔
      source.Recognises template ∧ ∃ route, source.Reaches route template) ∧
    List.Forall₂ (source.Classified path) templates fragments

/-- Kept fragments and recognised templates on the routes correspond. Two fragments of one
template have one key, and the shape of the tree excludes two templates with one key. -/
theorem exact_of_sound {tree : SyntaxTree} {settings : Settings} {path : String}
    (shape : tree.WellShaped)
    (hSound : ∀ visit ∈ (ofTree tree settings).visits path, ∀ fault,
      (ofTree tree settings).readVisit path visit ≠ .error fault) :
    (ofTree tree settings).Exact path (keepFirst []
      (((ofTree tree settings).visits path).filterMap ((ofTree tree settings).fragment? path))) := by
  have hNonempty : Nonempty Cursor := ⟨tree.top⟩
  have hKept : ∀ fragment ∈ keepFirst [] (((ofTree tree settings).visits path).filterMap
      ((ofTree tree settings).fragment? path)), _ :=
    fun _ => exists_template_of_kept hSound
  choose! template hTemplate using hKept
  refine ⟨_, ?_, fun other => ⟨?_, ?_⟩, List.forall₂_map_left_iff.mpr
    (List.forall₂_same.mpr fun fragment h => (hTemplate fragment h).2.2)⟩
  · have hKeys := keepFirst_keys_nodup [] (((ofTree tree settings).visits path).filterMap
      ((ofTree tree settings).fragment? path))
    refine List.Nodup.of_map (fun cursor : Cursor =>
      ((Text.positionAt tree.text cursor.node.start).offset, (0 : Int))) ?_
    rw [List.map_map]
    rwa [List.map_congr_left fun fragment h => ((hTemplate fragment h).2.2.locationKey)] at hKeys
  · intro hOther
    obtain ⟨fragment, hFragment, rfl⟩ := List.mem_map.mp hOther
    exact ⟨(hTemplate fragment hFragment).1, (hTemplate fragment hFragment).2.1⟩
  · rintro ⟨recognised, route, hReaches⟩
    obtain ⟨fragment, hFragment, hKey⟩ := exists_kept_of_template hSound recognised hReaches
    obtain ⟨recognised', ⟨route', hReaches'⟩, hClassified⟩ := hTemplate fragment hFragment
    have hOffset := congrArg Prod.fst (hClassified.locationKey.symm.trans hKey)
    have hSame := recognised'.eq_of_offset shape hReaches'.place hReaches.place recognised hOffset
    exact List.mem_map.mpr ⟨fragment, hFragment, hSame⟩

end Source

/-- Extraction either fails with the fault of a template on a route, or none of these is
faulty and it yields one fragment for each template of a query on a route. -/
theorem Extraction.ofTree_exact (tree : SyntaxTree) (path : String) (settings : Settings)
    (shape : tree.WellShaped) :
    match Extraction.ofTree tree path settings with
    | .ok extraction =>
      (∀ route template, (Source.ofTree tree settings).Reaches route template →
        ∀ fault, (Source.ofTree tree settings).readVisit path ⟨template, route⟩ ≠ .error fault) ∧
      (Source.ofTree tree settings).Exact path extraction.fragments
    | .error fault =>
      ∃ route template, (Source.ofTree tree settings).Reaches route template ∧
        (Source.ofTree tree settings).readVisit path ⟨template, route⟩ = .error fault := by
  unfold Extraction.ofTree
  dsimp only
  cases hRead : (Source.ofTree tree settings).readVisits path
      ((Source.ofTree tree settings).visits path) with
  | error fault =>
      obtain ⟨visit, hVisit, hFault⟩ := Source.readVisits_eq_error hRead
      exact ⟨visit.route, visit.template, Source.mem_visits_iff.mp hVisit, hFault⟩
  | ok fragments =>
      obtain ⟨hSound, rfl⟩ := Source.readVisits_eq_ok hRead
      refine ⟨fun route template h => ?_, Source.exact_of_sound shape hSound⟩
      exact hSound ⟨template, route⟩ (Source.mem_visits_iff.mpr h)

/-- The tree of ``import{graphql,useStaticQuery}from"gatsby";`` followed by
``export const a=useStaticQuery(graphql`{b}`)``. Two routes lead to the template. -/
def Extraction.hookInExport : SyntaxTree :=
  ⟨.phrase .program 0 86 none
    [.phrase .importStatement 0 43 none
      [.token "import" 0,
        .phrase .importClause 6 30 none
          [.phrase .namedImports 6 30 none
            [.token "\x7b" 6,
              .phrase .importSpecifier 7 14 none [.phrase .identifier 7 14 (some .name) []],
              .token "," 14,
              .phrase .importSpecifier 15 29 none [.phrase .identifier 15 29 (some .name) []],
              .token "\x7d" 29]],
        .token "from" 30, .quoted .string "\"" 34 42 (some .source), .token ";" 42],
      .phrase .exportStatement 43 86 none
        [.token "export" 43,
          .phrase .lexicalDeclaration 50 86 (some .declaration)
            [.token "const" 50,
              .phrase .variableDeclarator 56 86 none
                [.phrase .identifier 56 57 (some .name) [], .token "=" 57,
                  .phrase .callExpression 58 86 (some .value)
                    [.phrase .identifier 58 72 (some .function) [],
                      .phrase (.other "arguments") 72 86 (some .arguments)
                        [.token "(" 72,
                          .phrase .callExpression 73 85 none
                            [.phrase .identifier 73 80 (some .function) [],
                              .quoted .templateString "`" 80 85 (some .arguments)],
                          .token ")" 85]]]]]],
    ("import\x7bgraphql,useStaticQuery\x7dfrom\"gatsby\";" ++
      "export const a=useStaticQuery(graphql`\x7bb\x7d`)").toList, "a.js", .javascript⟩

/-- The template counts once, and as the argument of a hook. -/
theorem Extraction.ofTree_exact_hookInExport :
    hookInExport.WellShaped ∧
      (((Source.ofTree hookInExport {}).visits "a.js").map Visit.route = [.hook, .exported]) ∧
      ∃ extraction, Extraction.ofTree hookInExport "a.js" {} = .ok extraction ∧
        extraction.fragments.map (fun fragment => (fragment.queryType, fragment.isHook)) =
          [(.static, true)] ∧
        (Source.ofTree hookInExport {}).Exact "a.js" extraction.fragments := by
  have hShape : hookInExport.WellShaped := by decide +kernel
  -- The tree is a variable here, so that nothing is evaluated while the theorem is applied.
  have hExact : ∀ tree : SyntaxTree, tree.WellShaped → ∀ extraction,
      Extraction.ofTree tree "a.js" {} = .ok extraction →
        (Source.ofTree tree {}).Exact "a.js" extraction.fragments := by
    intro tree shape extraction hResult
    have h := Extraction.ofTree_exact tree "a.js" {} shape
    rw [hResult] at h
    exact h.2
  have hFound : (Extraction.ofTree hookInExport "a.js" {}).toOption.map
      (fun extraction => extraction.fragments.map
        fun fragment => (fragment.queryType, fragment.isHook)) = some [(.static, true)] := by
    decide +kernel
  refine ⟨hShape, by decide +kernel, ?_⟩
  cases hResult : Extraction.ofTree hookInExport "a.js" {} with
  | error fault =>
      rw [hResult] at hFound
      cases hFound
  | ok extraction =>
      rw [hResult] at hFound
      exact ⟨extraction, rfl, Option.some.inj hFound, hExact _ hShape _ hResult⟩

end ComponentQueries
