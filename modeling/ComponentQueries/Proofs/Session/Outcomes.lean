import ComponentQueries.Proofs.Session.Attribution

/-! The four ways in which a call for a file can end, and what each of them leaves in the
session. A failure is reported once and told once, whoever notices it first. A path that
cannot be worked on is no failure of this kind: it breaks the call off. -/
namespace ComponentQueries

namespace ComponentStore

/-- Two stores know the same about all components but one. -/
def SameElsewhere (path : String) (before after : ComponentStore) : Prop :=
  ∀ other, other ≠ path → after.record? other = before.record? other ∧
    after.noticesFor other = before.noticesFor other

theorem SameElsewhere.refl (path : String) (store : ComponentStore) :
    SameElsewhere path store store :=
  fun _ _ => ⟨rfl, rfl⟩

theorem SameElsewhere.trans {path : String} {before middle after : ComponentStore}
    (first : SameElsewhere path before middle) (second : SameElsewhere path middle after) :
    SameElsewhere path before after := by
  intro other hOther
  obtain ⟨hRecord, hNotices⟩ := first other hOther
  obtain ⟨hRecord', hNotices'⟩ := second other hOther
  exact ⟨hRecord'.trans hRecord, hNotices'.trans hNotices⟩

/-- A notice concerns one component. -/
theorem sameElsewhere_notify (store : ComponentStore) (path : String) (notice : Notice) :
    SameElsewhere path store (store.notify path notice) := by
  intro other hOther
  constructor
  · exact Table.lookup_insert_of_ne hOther _ _
  · simp [noticesFor, notify, Ne.symm hOther]

end ComponentStore

namespace Session

open ComponentStore (SameElsewhere sameElsewhere_notify)

theorem sameElsewhere_notifyAll (session : Session) (path : String) (notices : List Notice) :
    SameElsewhere path session.store (session.notifyAll path notices).store := by
  induction notices generalizing session with
  | nil => exact .refl _ _
  | cons notice others ih =>
      exact (sameElsewhere_notify _ _ _).trans (ih (session.notify path notice))

theorem sameElsewhere_fail (toolkit : Toolkit) (session : Session) (path : String)
    (text : Option String) (failure : Failure) :
    SameElsewhere path session.store (session.fail toolkit path text failure).store := by
  unfold fail
  dsimp only
  split
  · exact .refl _ _
  · exact sameElsewhere_notify _ _ _

theorem sameElsewhere_succeed (session : Session) (path : String) (result : FileResult) :
    SameElsewhere path session.store (session.succeed path result).store := by
  unfold succeed
  dsimp only
  split
  · exact sameElsewhere_notify _ _ _
  · exact (sameElsewhere_notify _ _ _).trans (sameElsewhere_notify _ _ _)

theorem sameElsewhere_extractFile (toolkit : Toolkit) (session : Session) (source : SourceFile) :
    SameElsewhere source.path session.store (session.extractFile toolkit source).2.store := by
  have hBuilt : SameElsewhere source.path session.store
      (if (session.cache.get? source.key).isSome then session
        else session.buildTree toolkit source).store := by
    split
    · exact .refl _ _
    · exact sameElsewhere_notifyAll _ _ _
  unfold extractFile
  dsimp only
  generalize (if (session.cache.get? source.key).isSome then session
    else session.buildTree toolkit source) = built at hBuilt ⊢
  refine hBuilt.trans ?_
  split
  · exact sameElsewhere_succeed _ _ _
  · split
    · exact .refl _ _
    · exact sameElsewhere_fail _ _ _ _ _
  · exact sameElsewhere_fail _ _ _ _ _

/-- A call for a file leaves the records and the events of all other files as they are. -/
theorem sameElsewhere_parseFile (toolkit : Toolkit) (files : Files) (path : String)
    (session : Session) :
    SameElsewhere path session.store (session.parseFile toolkit files path).2.store := by
  unfold parseFile
  split
  · exact sameElsewhere_fail _ _ _ _ _
  · exact .refl _ _
  · next source hRead =>
      split
      · rw [← (Toolkit.readSource_eq_ok hRead).1]
        exact sameElsewhere_extractFile _ _ _
      · exact sameElsewhere_notify _ _ _

end Session

/-- A path can be worked on if it names a file and, should the file have a text, has an
encoding. -/
def Toolkit.Reaches (toolkit : Toolkit) (files : Files) (path : String) : Prop :=
  namesFile path = true ∧ ∀ text, files path = .ok text → toolkit.encodingFault? path = none

/-- Any other path is refused when it is read, for what is wrong with the path itself. -/
theorem Toolkit.readSource_of_not_reaches {toolkit : Toolkit} {files : Files} {path : String}
    (h : ¬toolkit.Reaches files path) :
    ∃ reason, toolkit.readSource files path = .error reason ∧
      (reason = .nullCharacter ∨
        ∃ message, toolkit.encodingFault? path = some message ∧ reason = .unencodable message) := by
  rw [readSource]
  cases hName : namesFile path with
  | false => exact ⟨_, rfl, Or.inl rfl⟩
  | true =>
      obtain ⟨text, hText, hFault⟩ :
          ∃ text, files path = .ok text ∧ toolkit.encodingFault? path ≠ none := by
        simpa [Reaches, hName] using h
      obtain ⟨message, hMessage⟩ := Option.ne_none_iff_exists'.mp hFault
      simp only [if_true, hText, hMessage]
      exact ⟨_, rfl, Or.inr ⟨message, rfl, rfl⟩⟩

/-- The ways in which a call for a file can end. -/
inductive Ending where
  | returned | passedOver | failed | brokenOff
  deriving DecidableEq, Repr

namespace Session

/-- What work on a file comes to in a session: the file cannot be read, or it is worth a
look, and then the cache has a result or extraction decides. -/
inductive ComesTo (toolkit : Toolkit) (files : Files) (path : String) (before : Session) :
    Except Failure FileResult → Prop where
  | unreadable {cause : String} (hRead : files path = .error cause) :
      ComesTo toolkit files path before (.error (.fault (.unreadable path cause)))
  | kept {text : String} {result : FileResult} (hRead : files path = .ok text)
      (passes : Prefilter.passes text.toList (Prefilter.markers toolkit.settings.tagName) = true)
      (hKept : before.cache.get? (toolkit.key path text) = some result) :
      ComesTo toolkit files path before (.ok result)
  | computed {text : String} (hRead : files path = .ok text)
      (passes : Prefilter.passes text.toList (Prefilter.markers toolkit.settings.tagName) = true)
      (hNone : before.cache.get? (toolkit.key path text) = none) :
      ComesTo toolkit files path before (toolkit.extract path text)

/-- What a call leaves behind if it ends in a certain way. Only a call that returns
fragments may change the cache. -/
inductive EndsAs (toolkit : Toolkit) (files : Files) (path : String) (before : Session)
    (outcome : FileOutcome) (after : Session) : Ending → Prop where
  | returned {result : FileResult} (hResult : ComesTo toolkit files path before (.ok result))
      (hOutcome : outcome = .ok (some result.fragments))
      (hDiagnostics : after.diagnostics = before.diagnostics)
      (hEvents : after.store.events = before.store.events ++ ⟨path, .features result.features⟩ ::
        if result.fragments = [] then [] else [⟨path, .succeeded⟩]) :
      EndsAs toolkit files path before outcome after .returned
  | passedOver {text : String} (hRead : files path = .ok text)
      (misses : Prefilter.passes text.toList (Prefilter.markers toolkit.settings.tagName) = false)
      (hOutcome : outcome = .ok none)
      (hDiagnostics : after.diagnostics = before.diagnostics)
      (hEvents : after.store.events =
        before.store.events ++ [⟨path, .features ⟨false, false, false⟩⟩])
      (hCache : after.cache = before.cache) :
      EndsAs toolkit files path before outcome after .passedOver
  | failed {failure : Failure} {diagnostic : Diagnostic} {message : Option String}
      (hFailure : ComesTo toolkit files path before (.error failure))
      (harmless : ∀ fault, failure = .fault fault → fault.kind.isFatal = false)
      (hOutcome : outcome = .ok none)
      (hDiagnostics : after.diagnostics = before.diagnostics ++ [diagnostic])
      (hPath : diagnostic.path = path)
      (hEvents : after.store.events = before.store.events ++ [⟨path, .failed message⟩])
      (hCache : after.cache = before.cache) :
      EndsAs toolkit files path before outcome after .failed
  | brokenOff
      (hFailure : ComesTo toolkit files path before
        (.error (.fault (.ambientTag (cleanPath path)))))
      (hOutcome : outcome = .error (.fault (.ambientTag (cleanPath path))))
      (hDiagnostics : after.diagnostics = before.diagnostics)
      (hEvents : after.store.events = before.store.events)
      (hCache : after.cache = before.cache) :
      EndsAs toolkit files path before outcome after .brokenOff

variable {toolkit : Toolkit} {files : Files} {path : String} {before after : Session}
  {outcome : FileOutcome}

/-- No call ends in two ways: what is returned tells all of them apart, except for a file
that was passed over and one that failed, and these differ in the reports. -/
theorem EndsAs.unique {first second : Ending}
    (hFirst : EndsAs toolkit files path before outcome after first)
    (hSecond : EndsAs toolkit files path before outcome after second) : first = second := by
  have hReports : ∀ diagnostic, before.diagnostics ≠ before.diagnostics ++ [diagnostic] := by
    intro diagnostic h
    simpa using congrArg List.length h
  cases hFirst with
  | returned _ hOutcome =>
      cases hSecond with
      | returned => rfl
      | passedOver _ _ hOther => rw [hOutcome] at hOther; cases hOther
      | failed _ _ hOther => rw [hOutcome] at hOther; cases hOther
      | brokenOff _ hOther => rw [hOutcome] at hOther; cases hOther
  | passedOver _ _ hOutcome hDiagnostics =>
      cases hSecond with
      | returned _ hOther => rw [hOutcome] at hOther; cases hOther
      | passedOver => rfl
      | failed _ _ _ hOther => exact absurd (hDiagnostics.symm.trans hOther) (hReports _)
      | brokenOff _ hOther => rw [hOutcome] at hOther; cases hOther
  | failed _ _ hOutcome hDiagnostics =>
      cases hSecond with
      | returned _ hOther => rw [hOutcome] at hOther; cases hOther
      | passedOver _ _ _ hOther => exact absurd (hOther.symm.trans hDiagnostics) (hReports _)
      | failed => rfl
      | brokenOff _ hOther => rw [hOutcome] at hOther; cases hOther
  | brokenOff _ hOutcome =>
      cases hSecond with
      | returned _ hOther => rw [hOutcome] at hOther; cases hOther
      | passedOver _ _ hOther => rw [hOutcome] at hOther; cases hOther
      | failed _ _ hOther => rw [hOutcome] at hOther; cases hOther
      | brokenOff => rfl

end Session

theorem Diagnostic.ofFailure_path (failure : Failure) (text : Option (List Char))
    (path : String) (highlight : Bool) :
    (Diagnostic.ofFailure failure text path highlight).path = path := by
  cases failure with
  | fault cause => rfl
  | foreign message => rfl

theorem Failure.exists_notice (failure : Failure) :
    ∃ message, failure.notice = .failed message := by
  unfold Failure.notice
  split
  · exact ⟨none, rfl⟩
  · exact ⟨_, rfl⟩

namespace Toolkit

theorem tree_path {toolkit : Toolkit} {path text : String} {tree : SyntaxTree}
    (h : toolkit.tree path text = .ok tree) : tree.path = cleanPath path := by
  obtain ⟨version, -, hParsed⟩ := tree_eq_ok h
  unfold SyntaxTree.parseFile SyntaxTree.parseAs at hParsed
  dsimp only at hParsed
  split at hParsed
  · cases hParsed
  · cases hParsed
    rfl

/-- The only fatal fault that extraction can come to is a tag without a declaration. -/
theorem eq_ambientTag_of_extract {toolkit : Toolkit} {path text : String} {fault : Fault}
    (h : toolkit.extract path text = .error (.fault fault)) (hFatal : fault.kind.isFatal = true) :
    fault = .ambientTag (cleanPath path) := by
  have hKind : fault.kind = .ambientTag := by simpa [FaultKind.isFatal] using hFatal
  unfold extract at h
  split at h
  · next hTree =>
      cases h
      rcases tree_eq_error hTree with ⟨message, hCause⟩ | ⟨location, errorId, hCause⟩
      · cases hCause
      · cases hCause
        cases hKind
  · next tree hTree =>
      split at h
      · next hExtraction =>
          cases h
          obtain ⟨visit, -, hFails⟩ := Extraction.exists_fails hExtraction
          rw [← tree_path hTree]
          exact hFails.eq_ambientTag hKind
      · cases h

end Toolkit

namespace Session

/-- A failure that concerns the file alone ends a call as failed, whichever part of the
program has noticed it. -/
theorem endsAs_failed {toolkit : Toolkit} {files : Files} {path : String} {before after : Session}
    {text : Option String} {failure : Failure}
    (hFailure : ComesTo toolkit files path before (.error failure))
    (harmless : ∀ fault, failure = .fault fault → fault.kind.isFatal = false)
    (hAdds : before.Adds after (.ofFailure toolkit path text failure))
    (hCache : after.cache = before.cache) :
    EndsAs toolkit files path before (.ok none) after .failed := by
  obtain ⟨message, hNotice⟩ := failure.exists_notice
  obtain ⟨hDiagnostics, hEvents⟩ := hAdds
  rw [Answer.ofFailure, hNotice] at hEvents
  have hPath := Diagnostic.ofFailure_path failure (text.map String.toList) path
    toolkit.settings.highlightCodeFrames
  exact .failed hFailure harmless rfl hDiagnostics hPath hEvents hCache

theorem endsAs_returned {toolkit : Toolkit} {files : Files} {path : String}
    {before after : Session} {result : FileResult}
    (hResult : ComesTo toolkit files path before (.ok result))
    (hAdds : before.Adds after (.ofResult path result)) :
    EndsAs toolkit files path before (.ok (some result.fragments)) after .returned := by
  obtain ⟨hDiagnostics, hEvents⟩ := hAdds
  refine .returned hResult rfl (hDiagnostics.trans (List.append_nil _)) (hEvents.trans ?_)
  simp [Answer.ofResult]

/-- Extraction of a file ends in one of three ways. The cases are those of the cache and of
what is computed if it has nothing. -/
theorem exists_endsAs_extractFile {toolkit : Toolkit} {files : Files} {source : SourceFile}
    (hRead : files source.path = .ok source.text)
    (hKey : toolkit.key source.path source.text = source.key)
    (hPasses : Prefilter.passes source.text.toList
      (Prefilter.markers toolkit.settings.tagName) = true) (session : Session) :
    ∃ ending, EndsAs toolkit files source.path session
      (session.extractFile toolkit source).1 (session.extractFile toolkit source).2 ending := by
  cases hKept : session.cache.get? source.key with
  | some kept =>
      have hComes : ComesTo toolkit files source.path session (.ok kept) :=
        .kept hRead hPasses (by rw [hKey, hKept])
      rw [extractFile_of_kept hKept]
      exact ⟨.returned, endsAs_returned hComes (adds_succeed _ _ _)⟩
  | none =>
      have hComes : ComesTo toolkit files source.path session
          (toolkit.extract source.path source.text) :=
        .computed hRead hPasses (by rw [hKey, hKept])
      cases hExtract : toolkit.extract source.path source.text with
      | ok result =>
          rw [hExtract] at hComes
          rw [extractFile_of_result hKept hExtract]
          exact ⟨.returned, endsAs_returned hComes (adds_succeed _ _ _)⟩
      | error failure =>
          rw [hExtract] at hComes
          by_cases hFatal : ∃ fault, failure = .fault fault ∧ fault.kind.isFatal = true
          · obtain ⟨fault, rfl, hFatal⟩ := hFatal
            rw [extractFile_of_fatal hKept hExtract hFatal]
            obtain rfl := Toolkit.eq_ambientTag_of_extract hExtract hFatal
            exact ⟨.brokenOff, .brokenOff hComes rfl rfl rfl rfl⟩
          · have hHarmless : ∀ fault, failure = .fault fault → fault.kind.isFatal = false := by
              intro fault hFault
              rw [Bool.eq_false_iff]
              exact fun h => hFatal ⟨fault, hFault, h⟩
            rw [extractFile_of_failure hKept hExtract hHarmless]
            refine ⟨.failed, endsAs_failed hComes hHarmless (adds_buildTree_fail hExtract) ?_⟩
            rw [cache_fail, cache_buildTree]

/-- Every call for a path that can be worked on ends in one of the four ways. -/
theorem exists_endsAs {toolkit : Toolkit} {files : Files} {path : String}
    (hReaches : toolkit.Reaches files path) (session : Session) :
    ∃ ending, EndsAs toolkit files path session (session.parseFile toolkit files path).1
      (session.parseFile toolkit files path).2 ending := by
  obtain ⟨hName, hEncodes⟩ := hReaches
  unfold parseFile Toolkit.readSource
  rw [if_pos hName]
  cases hRead : files path with
  | error cause =>
      have hHarmless : ∀ fault, Failure.fault (.unreadable path cause) = .fault fault →
          fault.kind.isFatal = false := by
        rintro fault ⟨⟩
        rfl
      have hParsable : (Failure.fault (.unreadable path cause)).isUnparsable = false := rfl
      exact ⟨.failed, endsAs_failed (.unreadable hRead) hHarmless
        (adds_fail toolkit session path none hParsable) (cache_fail _ _ _ _ _)⟩
  | ok text =>
      simp only [hEncodes text hRead]
      split
      · next hPasses =>
          exact @exists_endsAs_extractFile _ _ ⟨path, text, _⟩ hRead rfl hPasses session
      · next hMisses =>
          exact ⟨.passedOver, .passedOver hRead (Bool.eq_false_iff.mpr hMisses) rfl rfl rfl rfl⟩

/-- A call for any other path breaks off and leaves the session as it was. -/
theorem parseFile_of_not_reaches {toolkit : Toolkit} {files : Files} {path : String}
    (h : ¬toolkit.Reaches files path) (session : Session) :
    ∃ reason, session.parseFile toolkit files path = (.error reason, session) ∧
      (reason = .nullCharacter ∨
        ∃ message, toolkit.encodingFault? path = some message ∧ reason = .unencodable message) := by
  obtain ⟨reason, hRead, hReason⟩ := Toolkit.readSource_of_not_reaches h
  refine ⟨reason, ?_, hReason⟩
  rw [parseFile, hRead]
  rcases hReason with rfl | ⟨message, -, rfl⟩
  · rfl
  · rfl

/-- A call that breaks off for its path has ended in none of the four ways. -/
theorem not_endsAs_of_not_reaches {toolkit : Toolkit} {files : Files} {path : String}
    (h : ¬toolkit.Reaches files path) (session : Session) (ending : Ending) :
    ¬EndsAs toolkit files path session (session.parseFile toolkit files path).1
      (session.parseFile toolkit files path).2 ending := by
  obtain ⟨reason, hCall, hReason⟩ := parseFile_of_not_reaches h session
  rw [hCall]
  intro hEnds
  cases hEnds with
  | returned _ hOutcome => cases hOutcome
  | passedOver _ _ hOutcome => cases hOutcome
  | failed _ _ hOutcome => cases hOutcome
  | brokenOff _ hOutcome =>
      cases hOutcome
      rcases hReason with hReason | ⟨message, -, hReason⟩
      · cases hReason
      · cases hReason

/-- Number of failures that a session was told about, for paths of a kind. -/
def failures (wanted : String → Bool) (session : Session) : Nat :=
  session.store.events.countP fun event => wanted event.path && event.notice.label == "failed"

/-- Number of reports that a session has made, for paths of a kind. -/
def reports (wanted : String → Bool) (session : Session) : Nat :=
  session.diagnostics.countP fun diagnostic => wanted diagnostic.path

/-- A call that ends in one of the four ways makes as many reports as it tells failures. -/
theorem EndsAs.counts {toolkit : Toolkit} {files : Files} {path : String}
    {before after : Session} {outcome : FileOutcome} {ending : Ending}
    (h : EndsAs toolkit files path before outcome after ending) (wanted : String → Bool) :
    ∃ count, after.failures wanted = before.failures wanted + count ∧
      after.reports wanted = before.reports wanted + count := by
  cases h with
  | @returned result _ _ hDiagnostics hEvents =>
      refine ⟨0, ?_, by rw [reports, hDiagnostics]; rfl⟩
      rw [failures, hEvents]
      by_cases hEmpty : result.fragments = []
      · simp [hEmpty, failures, Notice.label]
      · simp [hEmpty, failures, Notice.label]
  | passedOver _ _ _ hDiagnostics hEvents =>
      refine ⟨0, ?_, by rw [reports, hDiagnostics]; rfl⟩
      simp [failures, hEvents, Notice.label]
  | failed _ _ _ hDiagnostics hPath hEvents =>
      refine ⟨if wanted path then 1 else 0, ?_, ?_⟩
      · simp [failures, hEvents, Notice.label, List.countP_cons]
      · simp [reports, hDiagnostics, hPath, List.countP_cons]
  | brokenOff _ _ hDiagnostics hEvents =>
      exact ⟨0, by rw [failures, hEvents]; rfl, by rw [reports, hDiagnostics]; rfl⟩

/-- So does every call, since a path that cannot be worked on leaves nothing behind. -/
theorem next_counts (toolkit : Toolkit) (session : Session) (call : Call)
    (wanted : String → Bool) :
    ∃ count, (session.next toolkit call).failures wanted = session.failures wanted + count ∧
      (session.next toolkit call).reports wanted = session.reports wanted + count := by
  by_cases hReaches : toolkit.Reaches call.files call.path
  · obtain ⟨ending, hEnds⟩ := exists_endsAs hReaches session
    exact hEnds.counts wanted
  · obtain ⟨reason, hCall, -⟩ := parseFile_of_not_reaches hReaches session
    have hSame : session.next toolkit call = session := by rw [next, hCall]
    exact ⟨0, by rw [hSame]; rfl, by rw [hSame]; rfl⟩

/-- Over a run, failures and reports grow by the same number. -/
theorem after_counts (toolkit : Toolkit) (calls : List Call) (session : Session)
    (wanted : String → Bool) :
    ∃ count, (session.after toolkit calls).failures wanted = session.failures wanted + count ∧
      (session.after toolkit calls).reports wanted = session.reports wanted + count := by
  induction calls generalizing session with
  | nil => exact ⟨0, rfl, rfl⟩
  | cons call others ih =>
      obtain ⟨first, hFailures, hReports⟩ := session.next_counts toolkit call wanted
      obtain ⟨rest, hFailures', hReports'⟩ := ih (session.next toolkit call)
      refine ⟨first + rest, ?_, ?_⟩
      · rw [after, List.foldl_cons, ← after, hFailures', hFailures, Nat.add_assoc]
      · rw [after, List.foldl_cons, ← after, hReports', hReports, Nat.add_assoc]

/-- A call for a path that can be worked on ends in exactly one of four ways, each with its
own trace in the session. A call for any other path breaks off for what is wrong with the path
and leaves no trace, and so ends in none of them. Neither concerns another file, and failures
and reports go together over any run. -/
theorem parseFile_ends_once (toolkit : Toolkit) (files : Files) (path : String)
    (session : Session) :
    (toolkit.Reaches files path →
      ∃! ending, EndsAs toolkit files path session (session.parseFile toolkit files path).1
        (session.parseFile toolkit files path).2 ending) ∧
    (¬toolkit.Reaches files path →
      (∃ reason, session.parseFile toolkit files path = (.error reason, session) ∧
        (reason = .nullCharacter ∨
          ∃ message, toolkit.encodingFault? path = some message ∧
            reason = .unencodable message)) ∧
      ∀ ending, ¬EndsAs toolkit files path session (session.parseFile toolkit files path).1
        (session.parseFile toolkit files path).2 ending) ∧
    (∀ other, other ≠ path →
      (session.parseFile toolkit files path).2.store.record? other =
          session.store.record? other ∧
        (session.parseFile toolkit files path).2.store.noticesFor other =
          session.store.noticesFor other) ∧
    ∀ (calls : List Call) (wanted : String → Bool), ∃ count,
      (session.after toolkit calls).failures wanted = session.failures wanted + count ∧
        (session.after toolkit calls).reports wanted = session.reports wanted + count := by
  refine ⟨fun hReaches => ?_, fun hNot => ?_, sameElsewhere_parseFile toolkit files path session,
    fun calls wanted => after_counts toolkit calls session wanted⟩
  · obtain ⟨ending, hEnds⟩ := exists_endsAs hReaches session
    exact ⟨ending, hEnds, fun other hOther => hOther.unique hEnds⟩
  · exact ⟨parseFile_of_not_reaches hNot session, not_endsAs_of_not_reaches hNot session⟩

/-- A parser that finds a fault in every text, with a hook that offers one variant. One path
has no encoding. -/
def brokenVariants : Toolkit where
  settings := {}
  grammar := fun _ _ => ⟨.program, true, false, true, 0, 0, none, []⟩
  preprocess := some fun _ _ => .ok (some ["("])
  digest := Digest.Md5.hexDigest
  encodingFault? := fun path => if path = "a.js?x" then some "surrogates not allowed" else none

/-- A call for a file that names the tag, and so is worth a look. -/
def brokenCall : Call := callWith "a.js" "graphql"

/-- A call for a file by a path that has no encoding. -/
def unencodableCall : Call := callWith "a.js?x" "graphql"

/-- No variant has a tree, which the store hears from the builder of trees alone. A second
call for the file fails like the first. A file with the same text is neither reported nor told
about if its path has no encoding. -/
theorem parseFile_ends_once_brokenVariants :
    (brokenVariants.Reaches brokenCall.files "a.js" ∧
      EndsAs brokenVariants brokenCall.files "a.js" empty
        (empty.parseFile brokenVariants brokenCall.files "a.js").1
        (empty.parseFile brokenVariants brokenCall.files "a.js").2 .failed ∧
      (empty.parseFile brokenVariants brokenCall.files "a.js").2.store.events =
        [⟨"a.js", .failed none⟩] ∧
      (empty.after brokenVariants [brokenCall, brokenCall]).failures (· == "a.js") = 2 ∧
      (empty.after brokenVariants [brokenCall, brokenCall]).reports (· == "a.js") = 2) ∧
    unencodableCall.files "a.js?x" = .ok "graphql" ∧
      empty.parseFile brokenVariants unencodableCall.files "a.js?x" =
        (.error (.unencodable "surrogates not allowed"), empty) ∧
      ∀ ending, ¬EndsAs brokenVariants unencodableCall.files "a.js?x" empty
        (empty.parseFile brokenVariants unencodableCall.files "a.js?x").1
        (empty.parseFile brokenVariants unencodableCall.files "a.js?x").2 ending := by
  have hReaches : brokenVariants.Reaches brokenCall.files "a.js" :=
    ⟨by decide +kernel, fun _ _ => by decide +kernel⟩
  have hText : unencodableCall.files "a.js?x" = .ok "graphql" := by simp [unencodableCall, callWith]
  have hFault : brokenVariants.encodingFault? "a.js?x" = some "surrogates not allowed" := by
    decide +kernel
  have hName : namesFile "a.js?x" = true := by decide +kernel
  have hNot : ¬brokenVariants.Reaches unencodableCall.files "a.js?x" := by
    rintro ⟨-, hEncodes⟩
    rw [hEncodes _ hText] at hFault
    cases hFault
  have hReports : (empty.parseFile brokenVariants brokenCall.files "a.js").2.diagnostics ≠
      empty.diagnostics := by
    decide +kernel
  obtain ⟨hOnce, -, -, hCounts⟩ :=
    parseFile_ends_once brokenVariants brokenCall.files "a.js" empty
  obtain ⟨ending, hEnds, -⟩ := hOnce hReaches
  obtain ⟨count, hFailures, hSame⟩ := hCounts [brokenCall, brokenCall] (· == "a.js")
  have hTwo : (empty.after brokenVariants [brokenCall, brokenCall]).failures (· == "a.js") = 2 := by
    decide +kernel
  have hNone : empty.failures (· == "a.js") = 0 := rfl
  have hCount : count = 2 := by omega
  obtain ⟨-, hRefused, -⟩ :=
    parseFile_ends_once brokenVariants unencodableCall.files "a.js?x" empty
  obtain ⟨-, hNoEnding⟩ := hRefused hNot
  refine ⟨⟨hReaches, ?_, by decide +kernel, hTwo, ?_⟩, hText, ?_, hNoEnding⟩
  · cases hEnds with
    | returned _ _ hDiagnostics => exact absurd hDiagnostics hReports
    | passedOver _ _ _ hDiagnostics => exact absurd hDiagnostics hReports
    | failed hFailure harmless hOutcome hDiagnostics hPath hEvents hCache =>
        exact .failed hFailure harmless hOutcome hDiagnostics hPath hEvents hCache
    | brokenOff _ _ hDiagnostics => exact absurd hDiagnostics hReports
  · rw [hSame, hCount]
    rfl
  · simp [parseFile, Toolkit.readSource, hName, hText, hFault]

end Session

end ComponentQueries
