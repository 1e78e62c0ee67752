import ComponentQueries.Digest.Md5
import ComponentQueries.Proofs.Extraction.Reading
import ComponentQueries.Proofs.Extraction.Routes
import ComponentQueries.Proofs.Session.CacheTransparency

/-! To which file the fragments of a call belong. A key is made from a path and a text with
nothing between them, so that a call may get the fragments of another file. -/
namespace ComponentQueries

namespace Text

theorem toList_loop (bytes : ByteArray) (index : Nat) (taken : List UInt8) :
    ByteArray.toList.loop bytes index taken = taken.reverse ++ bytes.data.toList.drop index := by
  fun_induction ByteArray.toList.loop bytes index taken with
  | case1 index taken hIndex ih =>
      have hData : index < bytes.data.toList.length := by simpa using hIndex
      have hByte : bytes.get! index = bytes.data.toList.get ⟨index, hData⟩ := by
        show bytes.data[index]! = _
        rw [getElem!_pos bytes.data index hIndex]
        simp
      rw [ih, List.drop_eq_getElem_cons hData, hByte]
      simp
  | case2 index taken hIndex =>
      have hData : bytes.data.toList.length ≤ index := by simpa using hIndex
      simp [List.drop_eq_nil_of_le hData]

theorem toBytes_eq (text : String) : toBytes text = text.toByteArray.data.toList := by
  rw [toBytes, ByteArray.toList, toList_loop]
  simp

theorem toBytes_append (left right : String) :
    toBytes (left ++ right) = toBytes left ++ toBytes right := by
  simp [toBytes_eq]

theorem toBytes_inj {left right : String} : toBytes left = toBytes right ↔ left = right := by
  rw [toBytes_eq, toBytes_eq, Array.toList_inj, ← String.toByteArray_inj, ByteArray.ext_iff]

end Text

namespace Toolkit

/-- A text is what is left of the body of a tagged template in a file, or in a variant that
the hook offers for the file. -/
def HoldsQuery (toolkit : Toolkit) (source : SourceFile) (text : String) : Prop :=
  ∃ version tree call template stripped,
    (version = source.text ∨
      ∃ variants, toolkit.variants source.path source.text = .ok variants ∧ version ∈ variants) ∧
    SyntaxTree.parseFile toolkit.grammar version (cleanPath source.path) = .ok tree ∧
    tree.top.Below call ∧ call.isTaggedTemplate = true ∧
    call.child? .arguments = some template ∧
    GraphQL.minify ((Source.ofTree tree toolkit.settings).templateBody template) = .ok stripped ∧
    text = String.ofList stripped

/-- A fragment bears the path of a file and is a query in it. -/
def Owns (toolkit : Toolkit) (source : SourceFile) (fragment : Fragment) : Prop :=
  fragment.path = source.path ∧ toolkit.HoldsQuery source fragment.text

theorem tree_eq_ok {toolkit : Toolkit} {path text : String} {tree : SyntaxTree}
    (h : toolkit.tree path text = .ok tree) :
    ∃ version,
      (version = text ∨
        ∃ variants, toolkit.variants path text = .ok variants ∧ version ∈ variants) ∧
      SyntaxTree.parseFile toolkit.grammar version (cleanPath path) = .ok tree := by
  unfold Toolkit.tree at h
  split at h
  · cases h
  · split at h
    · next read hRead =>
        cases h
        exact ⟨text, Or.inl rfl, hRead⟩
    · cases h
  · next variants _ hVariants =>
      dsimp only at h
      split at h
      · next read hFirst =>
          cases h
          obtain ⟨version, hVersion, hRead⟩ := List.exists_of_findSome?_eq_some hFirst
          refine ⟨version, Or.inr ⟨variants, hVariants, hVersion⟩, ?_⟩
          cases hParsed : SyntaxTree.parseFile toolkit.grammar version (cleanPath path) with
          | error location => rw [hParsed] at hRead; cases hRead
          | ok parsed =>
              rw [hParsed] at hRead
              cases hRead
              rfl
      · cases h

/-- A fragment that extraction of a file finds is its own. -/
theorem owns_of_extract {toolkit : Toolkit} {source : SourceFile} {result : FileResult}
    (h : toolkit.extract source.path source.text = .ok result) :
    ∀ fragment ∈ result.fragments, toolkit.Owns source fragment := by
  intro fragment hFragment
  unfold extract at h
  split at h
  · cases h
  · next tree hTree =>
      split at h
      · cases h
      · next extraction hExtraction =>
          cases h
          obtain ⟨visit, hVisit, hRead⟩ :=
            Extraction.exists_visit_of_mem hExtraction hFragment
          obtain ⟨tag, queryType, hTag, -, rfl⟩ := Source.readVisit_eq_some hRead
          obtain ⟨⟨hTagged, -⟩, template, hTemplate, hBody⟩ := Source.readTag_eq_some hTag
          obtain ⟨-, hBody, -⟩ := Source.readTemplate_eq_ok hBody
          obtain ⟨stripped, hStripped, -, hText, -⟩ := Source.readBody_eq_ok hBody
          obtain ⟨version, hVersion, hParsed⟩ := tree_eq_ok hTree
          have hPlace := (Source.mem_visits_iff.mp hVisit).place
          exact ⟨rfl, version, tree, visit.template, template, stripped, hVersion, hParsed,
            hPlace, hTagged, hTemplate, hStripped, hText⟩

/-- The digest tells apart the bytes that it is given for the files of calls. -/
def DigestFaithful (toolkit : Toolkit) (calls : List Call) : Prop :=
  ∀ first ∈ toolkit.sources calls, ∀ second ∈ toolkit.sources calls,
    toolkit.digest (Text.toBytes first.path ++ Text.toBytes first.text) =
        toolkit.digest (Text.toBytes second.path ++ Text.toBytes second.text) →
      Text.toBytes first.path ++ Text.toBytes first.text =
        Text.toBytes second.path ++ Text.toBytes second.text

instance (toolkit : Toolkit) (calls : List Call) : Decidable (toolkit.DigestFaithful calls) :=
  inferInstanceAs (Decidable (∀ first ∈ _, ∀ second ∈ _, _ = _ → _ = _))

theorem readSource_eq_ok {toolkit : Toolkit} {files : Files} {path : String}
    {source : SourceFile} (h : toolkit.readSource files path = .ok source) :
    source.path = path ∧ source.key = toolkit.key source.path source.text := by
  unfold readSource at h
  split at h
  · split at h
    · cases h
    · split at h
      · cases h
      · cases h
        exact ⟨rfl, rfl⟩
  · cases h

/-- Under a faithful digest two files share a key exactly if their paths followed by their
texts are the same characters. -/
theorem key_eq_iff {toolkit : Toolkit} {calls : List Call} {first second : SourceFile}
    (faithful : toolkit.DigestFaithful calls) (hFirst : first ∈ toolkit.sources calls)
    (hSecond : second ∈ toolkit.sources calls) :
    first.key = second.key ↔ first.path ++ first.text = second.path ++ second.text := by
  obtain ⟨_, _, hReadFirst⟩ := mem_sources_iff.mp hFirst
  obtain ⟨_, _, hReadSecond⟩ := mem_sources_iff.mp hSecond
  have hJoined : first.path ++ first.text = second.path ++ second.text ↔
      Text.toBytes first.path ++ Text.toBytes first.text =
        Text.toBytes second.path ++ Text.toBytes second.text := by
    rw [← Text.toBytes_inj, Text.toBytes_append, Text.toBytes_append]
  rw [(readSource_eq_ok hReadFirst).2, (readSource_eq_ok hReadSecond).2, key, key, contentKey,
    contentKey, hJoined]
  constructor
  · exact faithful first hFirst second hSecond
  · exact congrArg toolkit.digest

/-- The first call that comes to a result for the path and the text of a file, whatever of
them is path and whatever is text. -/
def owner? (toolkit : Toolkit) (calls : List Call) (source : SourceFile) :
    Option (SourceFile × FileResult) :=
  calls.findSome? (toolkit.settled?
    fun other => other.path ++ other.text = source.path ++ source.text)

theorem settled?_congr {toolkit : Toolkit} {call : Call} {left right : SourceFile → Bool}
    (agree : ∀ source, toolkit.readSource call.files call.path = .ok source →
      left source = right source) :
    toolkit.settled? left call = toolkit.settled? right call := by
  rw [settled?, settled?]
  cases hRead : toolkit.readSource call.files call.path with
  | error reason => rfl
  | ok source => simp only [agree source hRead]

/-- Under a faithful digest the first result for the key of a file is the owner's. -/
theorem owner?_eq {toolkit : Toolkit} {calls : List Call} {source : SourceFile}
    (faithful : toolkit.DigestFaithful calls) (hSource : source ∈ toolkit.sources calls) :
    toolkit.owner? calls source =
      calls.findSome? (toolkit.settled? (·.key = source.key)) := by
  have hCalls : ∀ call ∈ calls,
      toolkit.settled? (fun other => other.path ++ other.text = source.path ++ source.text) call =
        toolkit.settled? (·.key = source.key) call := by
    intro call hCall
    apply settled?_congr
    intro other hRead
    have hOther : other ∈ toolkit.sources calls := mem_sources_iff.mpr ⟨call, hCall, hRead⟩
    exact decide_eq_decide.mpr (key_eq_iff faithful hOther hSource).symm
  rw [owner?]
  clear faithful hSource
  induction calls with
  | nil => rfl
  | cons call others ih =>
      rw [List.findSome?_cons, List.findSome?_cons, hCalls call (.head _),
        ih fun other hOther => hCalls other (.tail _ hOther)]

/-- A call that returns fragments has read a file that may have some, and they are those of
the result that extraction comes to. -/
theorem answer_returns {toolkit : Toolkit} {call : Call}
    {extraction : SourceFile → Except Failure FileResult} {fragments : List Fragment}
    (h : (toolkit.answer call extraction).outcome = .ok (some fragments)) :
    ∃ source result, toolkit.readSource call.files call.path = .ok source ∧
      Prefilter.passes source.text.toList (Prefilter.markers toolkit.settings.tagName) = true ∧
      extraction source = .ok result ∧ fragments = result.fragments := by
  unfold answer at h
  split at h
  · cases h
  · cases h
  · next source hRead =>
      split at h
      · next hPasses =>
          cases hExtraction : extraction source with
          | ok result =>
              rw [hExtraction] at h
              cases h
              exact ⟨source, result, hRead, hPasses, hExtraction, rfl⟩
          | error failure =>
              rw [hExtraction] at h
              cases failure with
              | fault fault =>
                  by_cases hFatal : fault.kind.isFatal
                  · simp [Answer.ofExtraction, hFatal] at h
                  · simp [Answer.ofExtraction, Answer.ofFailure, hFatal] at h
              | foreign message => cases h
      · cases h

end Toolkit

namespace Session

/-- A result that a call gets after others is that of the first of all these calls that has
a result under its key. -/
theorem findSome?_settled_of_extraction {toolkit : Toolkit} {past : List Call} {call : Call}
    {source : SourceFile} {result : FileResult}
    (hRead : toolkit.readSource call.files call.path = .ok source)
    (hPasses : Prefilter.passes source.text.toList
      (Prefilter.markers toolkit.settings.tagName) = true)
    (h : (empty.after toolkit past).extraction toolkit source = .ok result) :
    ∃ owner, (past ++ [call]).findSome? (toolkit.settled? (·.key = source.key)) =
      some (owner, result) := by
  rw [extraction_eq, get?_after] at h
  rw [List.findSome?_append]
  cases hPast : past.findSome? (toolkit.settled? (·.key = source.key)) with
  | some entry =>
      rw [hPast] at h
      cases h
      exact ⟨entry.1, rfl⟩
  | none =>
      rw [hPast] at h
      have hOwn : toolkit.settled? (·.key = source.key) call = some (source, result) :=
        Toolkit.settled?_eq_some_iff.mpr ⟨hRead, hPasses, by simp, h⟩
      exact ⟨source, by simp [hOwn]⟩

/-- The fragments that a call returns after others are those of the owner, and they are the
call's own exactly if there are none or the owner has the call's path. -/
theorem fragments_own_iff (toolkit : Toolkit) (past : List Call) (call : Call)
    (fragments : List Fragment) (faithful : toolkit.DigestFaithful (past ++ [call]))
    (hReturned : ((empty.after toolkit past).parseFile toolkit call.files call.path).1 =
      .ok (some fragments)) :
    ∃ source owner result, toolkit.readSource call.files call.path = .ok source ∧
      toolkit.owner? (past ++ [call]) source = some (owner, result) ∧
      fragments = result.fragments ∧ (∀ fragment ∈ fragments, toolkit.Owns owner fragment) ∧
      ((∀ fragment ∈ fragments, toolkit.Owns source fragment) ↔
        fragments = [] ∨ owner.path = call.path) := by
  rw [(parseFile_shows toolkit _ call).1] at hReturned
  obtain ⟨source, result, hRead, hPasses, hExtraction, rfl⟩ := Toolkit.answer_returns hReturned
  have hSource : source ∈ toolkit.sources (past ++ [call]) :=
    Toolkit.mem_sources_iff.mpr ⟨call, by simp, hRead⟩
  obtain ⟨owner, hFirst⟩ := findSome?_settled_of_extraction hRead hPasses hExtraction
  rw [← Toolkit.owner?_eq faithful hSource] at hFirst
  obtain ⟨_, _, hSettled⟩ := List.exists_of_findSome?_eq_some hFirst
  obtain ⟨-, -, hJoined, hExtract⟩ := Toolkit.settled?_eq_some_iff.mp hSettled
  have hOwned := Toolkit.owns_of_extract hExtract
  have hPath : source.path = call.path := (Toolkit.readSource_eq_ok hRead).1
  refine ⟨source, owner, result, hRead, hFirst, rfl, hOwned, ?_, ?_⟩
  · intro hOwn
    cases hFragments : result.fragments with
    | nil => exact Or.inl rfl
    | cons first others =>
        have hMem : first ∈ result.fragments := by simp [hFragments]
        exact Or.inr ((hOwned first hMem).1.symm.trans ((hOwn first hMem).1.trans hPath))
  · rintro (hNone | hSame) fragment hFragment
    · rw [hNone] at hFragment
      cases hFragment
    · have hPaths : owner.path = source.path := hSame.trans hPath.symm
      have hTexts : owner.text = source.text := by
        have h := of_decide_eq_true hJoined
        rw [hPaths] at h
        exact (String.append_right_inj _).mp h
      have h := hOwned fragment hFragment
      unfold Toolkit.Owns Toolkit.HoldsQuery at h ⊢
      rwa [hPaths, hTexts] at h

/-- Two files that are the same characters if each path is followed by its text. -/
def ownCall : Call := callWith "a.js" ("x;" ++ queryText)

def otherCall : Call := callWith "a.jsx" (";" ++ queryText)

/-- The call for the second file returns the fragment of the first, which is not its own. -/
theorem fragments_own_iff_otherCall :
    twoTexts.DigestFaithful ([ownCall] ++ [otherCall]) ∧
      ∃ fragments, ((empty.after twoTexts [ownCall]).parseFile twoTexts otherCall.files
          otherCall.path).1 = .ok (some fragments) ∧
        fragments.map Fragment.path = ["a.js"] ∧
        ∃ source, twoTexts.readSource otherCall.files otherCall.path = .ok source ∧
          ¬∀ fragment ∈ fragments, twoTexts.Owns source fragment := by
  have hFaithful : twoTexts.DigestFaithful ([ownCall] ++ [otherCall]) := by decide +kernel
  have hPaths : ((empty.after twoTexts [ownCall]).parseFile twoTexts otherCall.files
      otherCall.path).1.toOption.join.map (·.map Fragment.path) = some ["a.js"] := by
    decide +kernel
  refine ⟨hFaithful, ?_⟩
  rcases hOutcome : ((empty.after twoTexts [ownCall]).parseFile twoTexts otherCall.files
    otherCall.path).1 with reason | _ | fragments
  · rw [hOutcome] at hPaths
    cases hPaths
  · rw [hOutcome] at hPaths
    cases hPaths
  · rw [hOutcome] at hPaths
    have hPaths' : fragments.map Fragment.path = ["a.js"] := Option.some.inj hPaths
    obtain ⟨source, owner, result, hRead, -, -, hOwned, hOwn⟩ :=
      fragments_own_iff twoTexts [ownCall] otherCall fragments hFaithful hOutcome
    refine ⟨fragments, rfl, hPaths', source, hRead, ?_⟩
    rw [hOwn]
    obtain ⟨fragment, rfl, hPath⟩ := List.map_eq_singleton_iff.mp hPaths'
    rintro (hNone | hSame)
    · cases hNone
    · rw [← (hOwned fragment (.head _)).1, hPath] at hSame
      exact absurd hSame (by decide)

end Session

end ComponentQueries
