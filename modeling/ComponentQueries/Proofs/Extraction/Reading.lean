import ComponentQueries.Extraction

/-! What comes out of a template that is read, and of a list of them. Each function has
one lemma that says all it can do. -/
namespace ComponentQueries

namespace Source

variable {source : Source}

/-- Tagged templates whose tag is that of queries. -/
def Recognises (source : Source) (call : Cursor) : Prop :=
  call.isTaggedTemplate = true ∧
    ∃ tag, call.child? .function = some tag ∧ source.tagOrigin tag = .query

/-- A body that can be read is a document with at least one token. -/
theorem readBody_eq_ok {body : List Char} {range : Range} {text : String}
    {document : GraphQL.Document} (h : readBody body range = .ok (text, document)) :
    ∃ stripped, GraphQL.minify body = .ok stripped ∧ stripped ≠ [] ∧
      text = String.ofList stripped ∧ GraphQL.Document.parse body = .ok document := by
  unfold readBody at h
  dsimp only at h
  split at h
  · cases h
  · cases h
  · next stripped hEmpty hStripped =>
      split at h
      · cases h
      · next parsed hDocument =>
          cases h
          exact ⟨stripped, hStripped, hEmpty, rfl, hDocument⟩

theorem readTemplate_eq_ok {call template : Cursor} {tag : Tag}
    (h : source.readTemplate call template = .ok tag) :
    substitution? template = none ∧
      readBody (source.templateBody template) (source.templateRange template) =
        .ok (tag.text, tag.document) ∧
      tag.hash = fragmentHash tag.text ∧ tag.templateRange = source.templateRange template ∧
      tag.locationKey = ((Text.positionAt source.tree.text call.node.start).offset, 0) := by
  unfold readTemplate at h
  split at h
  · cases h
  · next hPlain =>
      dsimp only at h
      split at h
      · cases h
      · next text document hBody =>
          cases h
          exact ⟨hPlain, hBody, rfl, rfl, rfl⟩

/-- A template is read only if its tag is that of queries. -/
theorem readTag_eq_some {call : Cursor} {tag : Tag} (h : source.readTag call = .ok (some tag)) :
    source.Recognises call ∧
      ∃ template, call.child? .arguments = some template ∧
        source.readTemplate call template = .ok tag := by
  unfold readTag at h
  split at h
  · next hTagged =>
      split at h
      · next name template hName hTemplate =>
          split at h
          · cases h
          · cases h
          · next hOrigin =>
              cases hRead : source.readTemplate call template with
              | error fault => rw [hRead] at h; cases h
              | ok read =>
                  rw [hRead] at h
                  cases h
                  exact ⟨⟨hTagged, name, hName, hOrigin⟩, template, hTemplate, hRead⟩
      · cases h
  · cases h

/-- A template with the tag of queries is not passed over. -/
theorem Recognises.readTag_ne_none {call : Cursor} (h : source.Recognises call) :
    source.readTag call ≠ .ok none := by
  obtain ⟨hTagged, tag, hTag, hOrigin⟩ := h
  have hTemplate : ∃ template, call.child? .arguments = some template := by
    simp only [Cursor.isTaggedTemplate, Bool.and_eq_true, Option.any_eq_true] at hTagged
    exact ⟨hTagged.2.choose, hTagged.2.choose_spec.1⟩
  obtain ⟨template, hTemplate⟩ := hTemplate
  simp only [readTag, hTagged, hTag, hTemplate, hOrigin, if_true]
  cases source.readTemplate call template <;> simp [Except.map]

theorem readVisit_eq_some {path : String} {visit : Visit} {fragment : Fragment}
    (h : source.readVisit path visit = .ok (some fragment)) :
    ∃ tag queryType, source.readTag visit.template = .ok (some tag) ∧
      source.queryTypeOf visit = .ok queryType ∧
      fragment = fragmentOf path visit.route queryType tag := by
  unfold readVisit at h
  split at h
  · cases h
  · cases h
  · next tag hTag =>
      split at h
      · cases h
      · next queryType hType =>
          cases h
          exact ⟨tag, queryType, hTag, hType, rfl⟩

theorem Recognises.readVisit_ne_none {path : String} {visit : Visit}
    (h : source.Recognises visit.template) : source.readVisit path visit ≠ .ok none := by
  unfold readVisit
  split
  · exact fun hNone => nomatch hNone
  · next hTag => exact absurd hTag h.readTag_ne_none
  · split
    · exact fun hNone => nomatch hNone
    · exact fun hNone => nomatch hNone

/-- The fragment of a visit, if the visit can be read and has one. -/
def fragment? (source : Source) (path : String) (visit : Visit) : Option Fragment :=
  match source.readVisit path visit with
  | .ok fragment => fragment
  | .error _ => none

theorem fragment?_eq_some_iff {path : String} {visit : Visit} {fragment : Fragment} :
    source.fragment? path visit = some fragment ↔
      source.readVisit path visit = .ok (some fragment) := by
  unfold fragment?
  cases source.readVisit path visit <;> simp

/-- Reading ends well if every visit does, and yields their fragments in order. -/
theorem readVisits_eq_ok {path : String} {visits : List Visit} {fragments : List Fragment}
    (h : source.readVisits path visits = .ok fragments) :
    (∀ visit ∈ visits, ∀ fault, source.readVisit path visit ≠ .error fault) ∧
      fragments = visits.filterMap (source.fragment? path) := by
  induction visits generalizing fragments with
  | nil =>
      cases h
      exact ⟨by simp, rfl⟩
  | cons visit others ih =>
      rw [readVisits] at h
      split at h
      · cases h
      · next first hFirst =>
          cases hOthers : source.readVisits path others with
          | error fault => rw [hOthers] at h; cases h
          | ok rest =>
              rw [hOthers] at h
              cases h
              obtain ⟨hGood, rfl⟩ := ih hOthers
              refine ⟨fun other hOther fault => ?_, ?_⟩
              · rcases List.mem_cons.mp hOther with rfl | hOther
                · rw [hFirst]
                  exact fun hError => nomatch hError
                · exact hGood other hOther fault
              · have hHead : source.fragment? path visit = first := by rw [fragment?, hFirst]
                cases first <;> simp [hHead]

/-- Reading fails with the fault of a visit. -/
theorem readVisits_eq_error {path : String} {visits : List Visit} {fault : Fault}
    (h : source.readVisits path visits = .error fault) :
    ∃ visit ∈ visits, source.readVisit path visit = .error fault := by
  induction visits with
  | nil => cases h
  | cons visit others ih =>
      rw [readVisits] at h
      split at h
      · next hFault =>
          cases h
          exact ⟨visit, List.mem_cons_self .., hFault⟩
      · cases hOthers : source.readVisits path others with
        | ok rest => rw [hOthers] at h; cases h
        | error other =>
            rw [hOthers] at h
            cases h
            obtain ⟨later, hLater, hFault⟩ := ih hOthers
            exact ⟨later, List.mem_cons_of_mem _ hLater, hFault⟩

end Source

/-- A fragment stays if its key was not seen and no fragment before it has the key. -/
theorem mem_keepFirst_iff {seen : List (Int × Int)} {fragments : List Fragment}
    {fragment : Fragment} :
    fragment ∈ keepFirst seen fragments ↔
      ∃ before after, fragments = before ++ fragment :: after ∧ fragment.locationKey ∉ seen ∧
        ∀ earlier ∈ before, earlier.locationKey ≠ fragment.locationKey := by
  induction fragments generalizing seen with
  | nil => simp [keepFirst]
  | cons first others ih =>
      rw [keepFirst]
      split
      · next hSeen =>
          rw [List.contains_iff_mem] at hSeen
          rw [ih]
          constructor
          · rintro ⟨before, after, rfl, hNew, hBefore⟩
            refine ⟨first :: before, after, rfl, hNew, List.forall_mem_cons.mpr ⟨?_, hBefore⟩⟩
            exact fun hKey => hNew (hKey ▸ hSeen)
          · rintro ⟨before, after, hSplit, hNew, hBefore⟩
            rcases List.cons_eq_append_iff.mp hSplit with ⟨rfl, hHead⟩ | ⟨rest, rfl, rfl⟩
            · cases hHead
              exact absurd hSeen hNew
            · exact ⟨rest, after, rfl, hNew, fun earlier h => hBefore earlier (.tail _ h)⟩
      · next hSeen =>
          rw [List.contains_iff_mem] at hSeen
          rw [List.mem_cons, ih]
          constructor
          · rintro (rfl | ⟨before, after, rfl, hNew, hBefore⟩)
            · exact ⟨[], others, rfl, hSeen, by simp⟩
            · rw [List.mem_cons, not_or] at hNew
              exact ⟨first :: before, after, rfl, hNew.2,
                List.forall_mem_cons.mpr ⟨Ne.symm hNew.1, hBefore⟩⟩
          · rintro ⟨before, after, hSplit, hNew, hBefore⟩
            rcases List.cons_eq_append_iff.mp hSplit with ⟨rfl, hHead⟩ | ⟨rest, rfl, rfl⟩
            · cases hHead
              exact Or.inl rfl
            · refine Or.inr ⟨rest, after, rfl, ?_, fun earlier h => hBefore earlier (.tail _ h)⟩
              rw [List.mem_cons, not_or]
              exact ⟨Ne.symm (hBefore first (.head _)), hNew⟩

/-- No key is left without a fragment. -/
theorem exists_mem_keepFirst {seen : List (Int × Int)} {fragments : List Fragment}
    {fragment : Fragment} (h : fragment ∈ fragments) (hNew : fragment.locationKey ∉ seen) :
    ∃ kept ∈ keepFirst seen fragments, kept.locationKey = fragment.locationKey := by
  induction fragments generalizing seen with
  | nil => cases h
  | cons first others ih =>
      rw [keepFirst]
      split
      · next hSeen =>
          rw [List.contains_iff_mem] at hSeen
          rcases List.mem_cons.mp h with rfl | h
          · exact absurd hSeen hNew
          · exact ih h hNew
      · by_cases hKey : first.locationKey = fragment.locationKey
        · exact ⟨first, .head _, hKey⟩
        · rcases List.mem_cons.mp h with rfl | h
          · exact absurd rfl hKey
          · have hNew' : fragment.locationKey ∉ first.locationKey :: seen := by
              rw [List.mem_cons, not_or]
              exact ⟨Ne.symm hKey, hNew⟩
            obtain ⟨kept, hKept, hSame⟩ := ih h hNew'
            exact ⟨kept, .tail _ hKept, hSame⟩

/-- The keys that are kept are all different. -/
theorem keepFirst_keys_nodup (seen : List (Int × Int)) (fragments : List Fragment) :
    ((keepFirst seen fragments).map Fragment.locationKey).Nodup := by
  induction fragments generalizing seen with
  | nil => simp [keepFirst]
  | cons first others ih =>
      rw [keepFirst]
      split
      · exact ih seen
      · rw [List.map_cons, List.nodup_cons]
        refine ⟨?_, ih _⟩
        intro hKey
        obtain ⟨other, hOther, hSame⟩ := List.mem_map.mp hKey
        obtain ⟨_, _, _, hNew, _⟩ := mem_keepFirst_iff.mp hOther
        exact hNew (hSame ▸ List.mem_cons_self ..)

/-- A fragment of a file comes from a visit. -/
theorem Extraction.exists_visit_of_mem {tree : SyntaxTree} {path : String} {settings : Settings}
    {extraction : Extraction} (h : Extraction.ofTree tree path settings = .ok extraction)
    {fragment : Fragment} (hFragment : fragment ∈ extraction.fragments) :
    ∃ visit ∈ (Source.ofTree tree settings).visits path,
      (Source.ofTree tree settings).readVisit path visit = .ok (some fragment) := by
  unfold Extraction.ofTree at h
  dsimp only at h
  split at h
  · cases h
  · next fragments hRead =>
      cases h
      obtain ⟨_, rfl⟩ := Source.readVisits_eq_ok hRead
      obtain ⟨before, after, hSplit, _, _⟩ := mem_keepFirst_iff.mp hFragment
      have hRead : fragment ∈ ((Source.ofTree tree settings).visits path).filterMap
          ((Source.ofTree tree settings).fragment? path) := by
        rw [hSplit]
        simp
      obtain ⟨visit, hVisit, hSome⟩ := List.mem_filterMap.mp hRead
      exact ⟨visit, hVisit, Source.fragment?_eq_some_iff.mp hSome⟩

end ComponentQueries
