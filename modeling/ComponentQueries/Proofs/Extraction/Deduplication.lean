import ComponentQueries.Proofs.Extraction.Exactness
import Mathlib.Data.List.Induction

/-! Fragments are told apart by the places of their templates. Other calls may begin at the
same place, but no two templates of queries do, so only repetitions are dropped. -/
namespace ComponentQueries

/-- One more fragment stays unless its key was seen, or one of the others has the key. -/
theorem keepFirst_concat (seen : List (Int × Int)) (fragments : List Fragment)
    (fragment : Fragment) :
    keepFirst seen (fragments ++ [fragment]) =
      keepFirst seen fragments ++
        if fragment.locationKey ∈ seen ++ fragments.map Fragment.locationKey then []
        else [fragment] := by
  induction fragments generalizing seen with
  | nil => by_cases hSeen : fragment.locationKey ∈ seen <;> simp [keepFirst, hSeen]
  | cons first others ih =>
      rw [List.cons_append, keepFirst, keepFirst]
      split
      · next hFirst =>
          rw [List.contains_iff_mem] at hFirst
          rw [ih]
          congr 2
          simp only [List.mem_append, List.map_cons, List.mem_cons, eq_iff_iff]
          constructor
          · rintro (h | h)
            · exact Or.inl h
            · exact Or.inr (Or.inr h)
          · rintro (h | h | h)
            · exact Or.inl h
            · exact Or.inl (h ▸ hFirst)
            · exact Or.inr h
      · rw [ih, List.cons_append]
        congr 3
        simp only [List.mem_append, List.map_cons, List.mem_cons, eq_iff_iff]
        tauto

theorem mem_of_mem_keepFirst {seen : List (Int × Int)} {fragments : List Fragment}
    {fragment : Fragment} (h : fragment ∈ keepFirst seen fragments) : fragment ∈ fragments := by
  obtain ⟨before, after, rfl, -⟩ := mem_keepFirst_iff.mp h
  simp

/-- What is kept of fragments that were found one after the other, each in its template. A
fragment is kept if its template is new, and it is dropped only if another fragment of the
same template was kept before. -/
inductive Kept : List (Cursor × Fragment) → List Fragment → Prop where
  | nil : Kept [] []
  | keep {found : List (Cursor × Fragment)} {kept : List Fragment} {template : Cursor}
      {fragment : Fragment} (prior : Kept found kept)
      (new : ∀ entry ∈ found, entry.1 ≠ template) :
      Kept (found ++ [(template, fragment)]) (kept ++ [fragment])
  | drop {found : List (Cursor × Fragment)} {kept : List Fragment} {template : Cursor}
      {fragment first : Fragment} (prior : Kept found kept) (again : (template, first) ∈ found)
      (stays : first ∈ kept) : Kept (found ++ [(template, fragment)]) kept

/-- Keys keep the first fragment of each template, if they tell the templates apart. The
induction takes fragments off the end, so that what is left is what was found before. -/
theorem kept_keepFirst {found : List (Cursor × Fragment)}
    (apart : ∀ left ∈ found, ∀ right ∈ found,
      left.2.locationKey = right.2.locationKey ↔ left.1 = right.1) :
    Kept found (keepFirst [] (found.map Prod.snd)) := by
  induction found using List.reverseRecOn with
  | nil => exact .nil
  | append_singleton found entry ih =>
      obtain ⟨template, fragment⟩ := entry
      have prior := ih fun left hLeft right hRight =>
        apart left (List.mem_append_left _ hLeft) right (List.mem_append_left _ hRight)
      have hEntry : ∀ other ∈ found,
          other.2.locationKey = fragment.locationKey ↔ other.1 = template :=
        fun other hOther =>
          apart other (List.mem_append_left _ hOther) (template, fragment) (by simp)
      rw [List.map_append, List.map_singleton, keepFirst_concat]
      split
      · next hSeen =>
          rw [List.nil_append, List.map_map] at hSeen
          obtain ⟨other, hOther, hKey⟩ := List.mem_map.mp hSeen
          obtain ⟨first, hFirst, hSame⟩ := exists_mem_keepFirst
            (List.mem_map_of_mem hOther) List.not_mem_nil
          obtain ⟨origin, hOrigin, rfl⟩ := List.mem_map.mp (mem_of_mem_keepFirst hFirst)
          have hTemplate : origin.1 = template := (hEntry origin hOrigin).mp (hSame.trans hKey)
          rw [List.append_nil]
          exact .drop prior (hTemplate ▸ hOrigin) hFirst
      · next hNew =>
          refine .keep prior fun other hOther hTemplate => hNew ?_
          rw [List.nil_append, List.map_map]
          exact List.mem_map.mpr ⟨other, hOther, (hEntry other hOther).mpr hTemplate⟩

namespace Source

variable {source : Source}

/-- The fragments that visits yield, each with its template. -/
def yields (source : Source) (path : String) (visits : List Visit) : List (Cursor × Fragment) :=
  visits.filterMap fun visit => (source.fragment? path visit).map (visit.template, ·)

theorem map_snd_yields (path : String) (visits : List Visit) :
    (source.yields path visits).map Prod.snd = visits.filterMap (source.fragment? path) := by
  simp [yields, List.map_filterMap, Function.comp_def]

theorem mem_yields {path : String} {visits : List Visit} {entry : Cursor × Fragment}
    (h : entry ∈ source.yields path visits) :
    ∃ visit ∈ visits, visit.template = entry.1 ∧
      source.readVisit path visit = .ok (some entry.2) := by
  obtain ⟨visit, hVisit, hEntry⟩ := List.mem_filterMap.mp h
  obtain ⟨fragment, hFragment, rfl⟩ := Option.map_eq_some_iff.mp hEntry
  exact ⟨visit, hVisit, rfl, fragment?_eq_some_iff.mp hFragment⟩

theorem locationKey_of_readTag {call : Cursor} {tag : Tag}
    (h : source.readTag call = .ok (some tag)) :
    tag.locationKey = ((Text.positionAt source.tree.text call.node.start).offset, 0) := by
  obtain ⟨-, _, -, hTemplate⟩ := readTag_eq_some h
  exact (readTemplate_eq_ok hTemplate).2.2.2.2

/-- Two tags with one key are read from one template. -/
theorem eq_of_locationKey {tree : SyntaxTree} {settings : Settings} (shape : tree.WellShaped)
    {first second : Cursor} (hFirst : tree.top.Below first) (hSecond : tree.top.Below second)
    {tag other : Tag} (hTag : (ofTree tree settings).readTag first = .ok (some tag))
    (hOther : (ofTree tree settings).readTag second = .ok (some other))
    (hKey : tag.locationKey = other.locationKey) : first = second := by
  rw [locationKey_of_readTag hTag, locationKey_of_readTag hOther] at hKey
  exact (readTag_eq_some hTag).1.eq_of_offset shape hFirst hSecond (readTag_eq_some hOther).1
    (congrArg Prod.fst hKey)

/-- The keys of the fragments in a file tell their templates apart. -/
theorem yields_apart {tree : SyntaxTree} {settings : Settings} {path : String}
    (shape : tree.WellShaped) {left right : Cursor × Fragment}
    (hLeft : left ∈ (ofTree tree settings).yields path ((ofTree tree settings).visits path))
    (hRight : right ∈ (ofTree tree settings).yields path ((ofTree tree settings).visits path)) :
    left.2.locationKey = right.2.locationKey ↔ left.1 = right.1 := by
  obtain ⟨visit, hVisit, hTemplate, hRead⟩ := mem_yields hLeft
  obtain ⟨visit', hVisit', hTemplate', hRead'⟩ := mem_yields hRight
  obtain ⟨recognised, hKey⟩ := locationKey_of_readVisit hRead
  obtain ⟨recognised', hKey'⟩ := locationKey_of_readVisit hRead'
  rw [← hTemplate, ← hTemplate', hKey, hKey']
  constructor
  · intro hSame
    exact recognised.eq_of_offset shape (mem_visits_iff.mp hVisit).place
      (mem_visits_iff.mp hVisit').place recognised' (congrArg Prod.fst hSame)
  · intro hSame
    rw [hSame]

end Source

/-- The key of a tag tells its template from all others of the tree. So extraction drops a
fragment only after it has kept one of the same template, and keeps no key twice. -/
theorem Extraction.kept_by_template (tree : SyntaxTree) (path : String) (settings : Settings)
    (shape : tree.WellShaped) :
    (∀ first second tag other, tree.top.Below first → tree.top.Below second →
      (Source.ofTree tree settings).readTag first = .ok (some tag) →
      (Source.ofTree tree settings).readTag second = .ok (some other) →
      tag.locationKey = other.locationKey → first = second) ∧
    ∀ extraction, Extraction.ofTree tree path settings = .ok extraction →
      Kept ((Source.ofTree tree settings).yields path ((Source.ofTree tree settings).visits path))
        extraction.fragments ∧
      (extraction.fragments.map Fragment.locationKey).Nodup := by
  refine ⟨fun first second tag other hFirst hSecond hTag hOther hKey =>
    Source.eq_of_locationKey shape hFirst hSecond hTag hOther hKey, fun extraction hResult => ?_⟩
  unfold Extraction.ofTree at hResult
  dsimp only at hResult
  split at hResult
  · cases hResult
  · next fragments hRead =>
      cases hResult
      obtain ⟨-, rfl⟩ := Source.readVisits_eq_ok hRead
      refine ⟨?_, keepFirst_keys_nodup _ _⟩
      rw [← Source.map_snd_yields]
      exact kept_keepFirst fun left hLeft right hRight => Source.yields_apart shape hLeft hRight

/-- The tree of ``import{graphql}from"gatsby";`` followed by
``export const a=graphql`{b}``d`;export{a}``. A call of the template begins where the
template does, and the second export leads to both once more. -/
def Extraction.chainedTemplates : SyntaxTree :=
  ⟨.phrase .program 0 68 none
    [.tagImport 0,
      .phrase .exportStatement 28 59 none
        [.token "export" 28,
          .phrase .lexicalDeclaration 35 59 (some .declaration)
            [.token "const" 35,
              .phrase .variableDeclarator 41 58 none
                [.phrase .identifier 41 42 (some .name) [], .token "=" 42,
                  .phrase .callExpression 43 58 (some .value)
                    [.phrase .callExpression 43 55 (some .function)
                      [.phrase .identifier 43 50 (some .function) [],
                        .quoted .templateString "`" 50 55 (some .arguments)],
                      .quoted .templateString "`" 55 58 (some .arguments)]],
              .token ";" 58]],
      .phrase .exportStatement 59 68 none
        [.token "export" 59,
          .phrase .exportClause 65 68 none
            [.token "\x7b" 65,
              .phrase .exportSpecifier 66 67 none [.phrase .identifier 66 67 (some .name) []],
              .token "\x7d" 67]]],
    ("import\x7bgraphql\x7dfrom\"gatsby\";" ++
      "export const a=graphql`\x7bb\x7d``d`;export\x7ba\x7d").toList, "a.js", .javascript⟩

/-- Four calls that begin at one place are visited, and one fragment is kept. -/
theorem Extraction.kept_by_template_chainedTemplates :
    chainedTemplates.WellShaped ∧
      ((Source.ofTree chainedTemplates {}).visits "a.js").map
        (fun visit => (visit.template.node.start, visit.template.node.stop)) =
          [(43, 58), (43, 55), (43, 58), (43, 55)] ∧
      ∃ extraction, Extraction.ofTree chainedTemplates "a.js" {} = .ok extraction ∧
        extraction.fragments.map Fragment.locationKey = [(43, 0)] ∧
        Kept ((Source.ofTree chainedTemplates {}).yields "a.js"
          ((Source.ofTree chainedTemplates {}).visits "a.js")) extraction.fragments := by
  have hShape : chainedTemplates.WellShaped := by decide +kernel
  have hKept : ∀ tree : SyntaxTree, tree.WellShaped → ∀ extraction,
      Extraction.ofTree tree "a.js" {} = .ok extraction →
        Kept ((Source.ofTree tree {}).yields "a.js" ((Source.ofTree tree {}).visits "a.js"))
          extraction.fragments :=
    fun tree shape extraction hResult =>
      ((Extraction.kept_by_template tree "a.js" {} shape).2 extraction hResult).1
  have hFound : (Extraction.ofTree chainedTemplates "a.js" {}).toOption.map
      (fun extraction => extraction.fragments.map Fragment.locationKey) = some [(43, 0)] := by
    decide +kernel
  refine ⟨hShape, by decide +kernel, ?_⟩
  cases hResult : Extraction.ofTree chainedTemplates "a.js" {} with
  | error fault =>
      rw [hResult] at hFound
      cases hFound
  | ok extraction =>
      rw [hResult] at hFound
      exact ⟨extraction, rfl, Option.some.inj hFound, hKept _ hShape _ hResult⟩

end ComponentQueries
