import ComponentQueries.Proofs.Extraction.Faults
import ComponentQueries.Session

/-! What calls for files show to the outside, and what they leave in the cache. A call
looks at the session only through the result that the cache has for its file. -/
namespace ComponentQueries

namespace ResultCache

variable {α ε : Type}

theorem get?_offer (cache : ResultCache α) (key other : String) (result : α) :
    (cache.offer key result).2.get? other =
      (cache.get? other).or (if key = other then some result else none) := by
  cases hKept : cache.get? key with
  | some kept =>
      simp only [offer, hKept]
      by_cases hKey : key = other
      · simp [← hKey, hKept]
      · simp [hKey]
  | none =>
      simp only [offer, hKept]
      rw [get?, List.lookup_append]
      by_cases hKey : key = other
      · simp [get?, hKey]
      · have hOther : (other == key) = false := beq_eq_false_iff_ne.mpr (Ne.symm hKey)
        simp [get?, hKey, hOther, List.lookup_cons]

/-- A result is computed only where the cache has none. -/
theorem getOrCompute_result (cache : ResultCache α) (key : String)
    (compute : Unit → Except ε α) :
    (cache.getOrCompute key compute).1 =
      match cache.get? key with
      | some kept => .ok kept
      | none => compute () := by
  cases hKept : cache.get? key with
  | some kept => simp [getOrCompute, hKept]
  | none =>
      cases hComputed : compute () with
      | error error => simp [getOrCompute, hKept, hComputed]
      | ok result => simp [getOrCompute, hKept, hComputed, offer]

/-- The cache keeps what it has, and gains what was computed under the key. -/
theorem get?_getOrCompute (cache : ResultCache α) (key other : String)
    (compute : Unit → Except ε α) :
    (cache.getOrCompute key compute).2.get? other =
      (cache.get? other).or (if key = other then (compute ()).toOption else none) := by
  cases hKept : cache.get? key with
  | some kept =>
      by_cases hKey : key = other
      · simp [getOrCompute, ← hKey, hKept]
      · simp [getOrCompute, hKept, hKey]
  | none =>
      cases hComputed : compute () with
      | error error => simp [getOrCompute, hKept, hComputed, Except.toOption]
      | ok result =>
          simp only [getOrCompute, hKept, hComputed, Except.toOption]
          exact get?_offer cache key other result

/-- A failed computation leaves the cache as it was. -/
theorem eq_of_getOrCompute_error {cache after : ResultCache α} {key : String}
    {compute : Unit → Except ε α} {error : ε}
    (hFailed : cache.getOrCompute key compute = (.error error, after)) : after = cache := by
  rw [getOrCompute] at hFailed
  cases hKept : cache.get? key with
  | some kept => simp [hKept] at hFailed
  | none =>
      cases hComputed : compute () with
      | error _ =>
          simp only [hKept, hComputed, Prod.mk.injEq] at hFailed
          exact hFailed.2.symm
      | ok result => simp [hKept, hComputed] at hFailed

end ResultCache

/-- A call for a file, with the files as they are at that time. -/
structure Call where
  files : Files
  path : String

/-- What a call shows: what it returns or breaks off with, the reports that it makes, and
the events that it adds to the store. -/
structure Answer where
  outcome : FileOutcome
  diagnostics : List Diagnostic
  events : List Event

namespace Answer

/-- The answer to a result. -/
def ofResult (path : String) (result : FileResult) : Answer :=
  ⟨.ok (some result.fragments), [],
    ⟨path, .features result.features⟩ ::
      if result.fragments.isEmpty then [] else [⟨path, .succeeded⟩]⟩

/-- The answer to a failure that concerns the file alone. -/
def ofFailure (toolkit : Toolkit) (path : String) (text : Option String) (failure : Failure) :
    Answer :=
  ⟨.ok none, [Diagnostic.ofFailure failure (text.map String.toList) path
    toolkit.settings.highlightCodeFrames], [⟨path, failure.notice⟩]⟩

/-- The answer to what extraction of a file comes to. -/
def ofExtraction (toolkit : Toolkit) (source : SourceFile) :
    Except Failure FileResult → Answer
  | .ok result => ofResult source.path result
  | .error (.fault fault) =>
    if fault.kind.isFatal then ⟨.error (.fault fault), [], []⟩
    else ofFailure toolkit source.path (some source.text) (.fault fault)
  | .error failure => ofFailure toolkit source.path (some source.text) failure

end Answer

/-- The answer to a call, where `extraction` tells what the extraction of a file comes to. -/
def Toolkit.answer (toolkit : Toolkit) (call : Call)
    (extraction : SourceFile → Except Failure FileResult) : Answer :=
  match toolkit.readSource call.files call.path with
  | .error (.fault fault) => .ofFailure toolkit call.path none (.fault fault)
  | .error reason => ⟨.error reason, [], []⟩
  | .ok source =>
    if Prefilter.passes source.text.toList (Prefilter.markers toolkit.settings.tagName) then
      .ofExtraction toolkit source (extraction source)
    else ⟨.ok none, [], [⟨call.path, .features Features.none⟩]⟩

/-- A file is unreadable, if it cannot be read for a reason of its own. -/
theorem Toolkit.readSource_eq_fault {toolkit : Toolkit} {files : Files} {path : String}
    {fault : Fault} (h : toolkit.readSource files path = .error (.fault fault)) :
    ∃ cause, fault = .unreadable path cause := by
  unfold readSource at h
  split at h
  · split at h
    · next cause _ =>
        cases h
        exact ⟨cause, rfl⟩
    · split at h
      · cases h
      · cases h
  · cases h

/-- A tree is missing because of the hook or because of the text. -/
theorem Toolkit.tree_eq_error {toolkit : Toolkit} {path text : String} {failure : Failure}
    (h : toolkit.tree path text = .error failure) :
    (∃ message, failure = .foreign message) ∨
      ∃ location errorId, failure = .fault (.unparsable path location errorId) := by
  unfold Toolkit.tree at h
  split at h
  · next message _ =>
      cases h
      exact Or.inl ⟨message, rfl⟩
  · split at h
    · cases h
    · next location _ =>
        cases h
        exact Or.inr ⟨location, _, rfl⟩
  · dsimp only at h
    split at h
    · cases h
    · cases h
      exact Or.inr ⟨none, _, rfl⟩

/-- While its tree is built, the store is told about a file exactly if extraction of the file
fails for want of a tree. All that can fail after that is no fault of the text as a whole. -/
theorem Toolkit.treeNotices_eq (toolkit : Toolkit) (path text : String) :
    Failure.treeNotices (toolkit.tree path text) =
      match toolkit.extract path text with
      | .error failure => if failure.isUnparsable then [failure.notice] else []
      | .ok _ => [] := by
  rw [extract]
  cases hTree : toolkit.tree path text with
  | error failure =>
      rcases tree_eq_error hTree with ⟨message, rfl⟩ | ⟨location, errorId, rfl⟩
      · simp [Failure.treeNotices, Failure.isUnparsable]
      · simp [Failure.treeNotices, Failure.isUnparsable, Fault.kind]
  | ok tree =>
      dsimp only
      cases hExtraction : Extraction.ofTree tree path toolkit.settings with
      | error fault =>
          obtain ⟨visit, -, hFails⟩ := Extraction.exists_fails hExtraction
          simp [Failure.treeNotices, Failure.isUnparsable, hFails.kind_ne.2]
      | ok extraction => simp [Failure.treeNotices]

namespace Session

/-- What extraction of a file comes to in a session: what the cache has, or what is computed. -/
def extraction (toolkit : Toolkit) (session : Session) (source : SourceFile) :
    Except Failure FileResult :=
  (session.cache.getOrCompute source.key fun _ => toolkit.extract source.path source.text).1

/-- What a session shows in a call: the outcome, and what is new in the two logs. -/
def observe (toolkit : Toolkit) (session : Session) (call : Call) : Answer :=
  let (outcome, after) := session.parseFile toolkit call.files call.path
  ⟨outcome, after.diagnostics.drop session.diagnostics.length,
    after.store.events.drop session.store.events.length⟩

/-- The session after a call. -/
def next (toolkit : Toolkit) (session : Session) (call : Call) : Session :=
  (session.parseFile toolkit call.files call.path).2

/-- The answers to calls, one after the other. -/
def answers (toolkit : Toolkit) : List Call → Session → List Answer
  | [], _ => []
  | call :: others, session =>
    session.observe toolkit call :: answers toolkit others (session.next toolkit call)

/-- The session after calls. -/
def after (toolkit : Toolkit) (calls : List Call) (session : Session) : Session :=
  calls.foldl (next toolkit) session

theorem extraction_eq (toolkit : Toolkit) (session : Session) (source : SourceFile) :
    session.extraction toolkit source =
      match session.cache.get? source.key with
      | some kept => .ok kept
      | none => toolkit.extract source.path source.text := by
  rw [extraction, ResultCache.getOrCompute_result]
  cases session.cache.get? source.key with
  | some kept => rfl
  | none => rfl

/-- What a change of a session adds to its logs is what an answer has. -/
def Adds (before after : Session) (answer : Answer) : Prop :=
  after.diagnostics = before.diagnostics ++ answer.diagnostics ∧
    after.store.events = before.store.events ++ answer.events

theorem adds_succeed (session : Session) (path : String) (result : FileResult) :
    session.Adds (session.succeed path result) (.ofResult path result) := by
  by_cases hEmpty : result.fragments.isEmpty
  · simp [Adds, succeed, notify, ComponentStore.notify, Answer.ofResult, hEmpty]
  · simp [Adds, succeed, notify, ComponentStore.notify, Answer.ofResult, hEmpty]

theorem adds_fail (toolkit : Toolkit) (session : Session) (path : String)
    (text : Option String) {failure : Failure} (hParsable : failure.isUnparsable = false) :
    session.Adds (session.fail toolkit path text failure)
      (.ofFailure toolkit path text failure) := by
  simp [Adds, fail, hParsable, notify, ComponentStore.notify, Answer.ofFailure]

/-- Notices change neither the reports nor the results, and the store keeps them in order. -/
theorem notifyAll_eq (session : Session) (path : String) (notices : List Notice) :
    (session.notifyAll path notices).cache = session.cache ∧
      (session.notifyAll path notices).diagnostics = session.diagnostics ∧
      (session.notifyAll path notices).store.events =
        session.store.events ++ notices.map (Event.mk path) := by
  induction notices generalizing session with
  | nil => simp [notifyAll]
  | cons notice others ih =>
      obtain ⟨hCache, hDiagnostics, hEvents⟩ := ih (session.notify path notice)
      simp only [notifyAll, List.foldl_cons] at hCache hDiagnostics hEvents ⊢
      rw [hCache, hDiagnostics, hEvents]
      simp [notify, ComponentStore.notify]

/-- A failed extraction tells the store once: while the tree is built if there is none, and
after that otherwise. -/
theorem adds_buildTree_fail {toolkit : Toolkit} {session : Session} {source : SourceFile}
    {failure : Failure} (hFailed : toolkit.extract source.path source.text = .error failure) :
    session.Adds
      ((session.buildTree toolkit source).fail toolkit source.path (some source.text) failure)
      (.ofFailure toolkit source.path (some source.text) failure) := by
  have hNotices := toolkit.treeNotices_eq source.path source.text
  rw [hFailed] at hNotices
  obtain ⟨-, hDiagnostics, hEvents⟩ := notifyAll_eq
    { session with hookCalls := session.hookCalls ++ toolkit.hookCalls source.path source.text }
    source.path (Failure.treeNotices (toolkit.tree source.path source.text))
  rw [hNotices] at hDiagnostics hEvents
  cases hUnparsable : failure.isUnparsable with
  | true =>
      simp only [hUnparsable, if_true] at hNotices hDiagnostics hEvents
      simp [Adds, buildTree, hNotices, fail, hUnparsable, hDiagnostics, hEvents, Answer.ofFailure]
  | false =>
      simp only [hUnparsable, if_false, Bool.false_eq_true] at hNotices
      simp [Adds, buildTree, hNotices, notifyAll, fail, hUnparsable, notify, ComponentStore.notify,
        Answer.ofFailure]

/-- A tree that extraction can work with is built in silence. -/
theorem buildTree_eq_of_parsable {toolkit : Toolkit} {source : SourceFile}
    (hParsable : ∀ failure, toolkit.extract source.path source.text = .error failure →
      failure.isUnparsable = false) (session : Session) :
    session.buildTree toolkit source =
      { session with
        hookCalls := session.hookCalls ++ toolkit.hookCalls source.path source.text } := by
  have hNotices := toolkit.treeNotices_eq source.path source.text
  cases hExtract : toolkit.extract source.path source.text with
  | error failure =>
      simp only [hExtract, hParsable failure hExtract, if_false, Bool.false_eq_true] at hNotices
      simp [buildTree, hNotices, notifyAll]
  | ok result =>
      simp only [hExtract] at hNotices
      simp [buildTree, hNotices, notifyAll]

theorem cache_buildTree (toolkit : Toolkit) (session : Session) (source : SourceFile) :
    (session.buildTree toolkit source).cache = session.cache :=
  (notifyAll_eq _ _ _).1

/-- A file with a result in the cache needs no tree. -/
theorem extractFile_of_kept {toolkit : Toolkit} {session : Session} {source : SourceFile}
    {kept : FileResult} (hKept : session.cache.get? source.key = some kept) :
    session.extractFile toolkit source =
      (.ok (some kept.fragments), session.succeed source.path kept) := by
  simp [extractFile, hKept, ResultCache.getOrCompute]

/-- A new result goes into the cache. -/
theorem extractFile_of_result {toolkit : Toolkit} {session : Session} {source : SourceFile}
    {result : FileResult} (hNone : session.cache.get? source.key = none)
    (hResult : toolkit.extract source.path source.text = .ok result) :
    session.extractFile toolkit source =
      (.ok (some result.fragments), ({ session with
        cache := (session.cache.offer source.key result).2
        hookCalls := session.hookCalls ++ toolkit.hookCalls source.path source.text
        } : Session).succeed source.path result) := by
  have hParsable : ∀ failure, toolkit.extract source.path source.text = .error failure →
      failure.isUnparsable = false := by
    simp [hResult]
  have hBuilt := buildTree_eq_of_parsable hParsable session
  simp [extractFile, hNone, hBuilt, ResultCache.getOrCompute, hResult, ResultCache.offer]

/-- A fatal fault is handed on, and nobody else hears of it. -/
theorem extractFile_of_fatal {toolkit : Toolkit} {session : Session} {source : SourceFile}
    {fault : Fault} (hNone : session.cache.get? source.key = none)
    (hFailed : toolkit.extract source.path source.text = .error (.fault fault))
    (hFatal : fault.kind.isFatal = true) :
    session.extractFile toolkit source = (.error (.fault fault), { session with
      hookCalls := session.hookCalls ++ toolkit.hookCalls source.path source.text }) := by
  have hParsable : ∀ failure, toolkit.extract source.path source.text = .error failure →
      failure.isUnparsable = false := by
    have hKind : fault.kind = .ambientTag := by simpa [FaultKind.isFatal] using hFatal
    simp [hFailed, Failure.isUnparsable, hKind]
  have hBuilt := buildTree_eq_of_parsable hParsable session
  simp [extractFile, hNone, hBuilt, ResultCache.getOrCompute, hFailed, hFatal]

/-- Any other failure is one of the file alone. -/
theorem extractFile_of_failure {toolkit : Toolkit} {session : Session} {source : SourceFile}
    {failure : Failure} (hNone : session.cache.get? source.key = none)
    (hFailed : toolkit.extract source.path source.text = .error failure)
    (hHarmless : ∀ fault, failure = .fault fault → fault.kind.isFatal = false) :
    session.extractFile toolkit source = (.ok none,
      (session.buildTree toolkit source).fail toolkit source.path (some source.text) failure) := by
  have hCache := cache_buildTree toolkit session source
  cases failure with
  | fault fault =>
      simp [extractFile, hNone, hCache, ResultCache.getOrCompute, hFailed, hHarmless fault rfl]
  | foreign message =>
      simp [extractFile, hNone, hCache, ResultCache.getOrCompute, hFailed]

/-- Extraction of a file shows what it comes to in the session. -/
theorem extractFile_shows (toolkit : Toolkit) (session : Session) (source : SourceFile) :
    let answer := Answer.ofExtraction toolkit source (session.extraction toolkit source)
    (session.extractFile toolkit source).1 = answer.outcome ∧
      session.Adds (session.extractFile toolkit source).2 answer := by
  simp only [extraction, ResultCache.getOrCompute_result]
  cases hKept : session.cache.get? source.key with
  | some kept =>
      rw [extractFile_of_kept hKept]
      exact ⟨rfl, adds_succeed _ _ _⟩
  | none =>
      cases hExtract : toolkit.extract source.path source.text with
      | ok result =>
          rw [extractFile_of_result hKept hExtract]
          exact ⟨rfl, adds_succeed _ _ _⟩
      | error failure =>
          cases failure with
          | foreign message =>
              rw [extractFile_of_failure hKept hExtract (by simp)]
              exact ⟨rfl, adds_buildTree_fail hExtract⟩
          | fault fault =>
              cases hFatal : fault.kind.isFatal with
              | true =>
                  rw [extractFile_of_fatal hKept hExtract hFatal]
                  simp [Answer.ofExtraction, hFatal, Adds]
              | false =>
                  rw [extractFile_of_failure hKept hExtract (by simp [hFatal])]
                  simp only [Answer.ofExtraction, hFatal]
                  exact ⟨rfl, adds_buildTree_fail hExtract⟩

/-- A call shows an answer in which the session takes part only by what extraction comes
to in it, and the logs keep what they had. -/
theorem parseFile_shows (toolkit : Toolkit) (session : Session) (call : Call) :
    let answer := toolkit.answer call (session.extraction toolkit)
    (session.parseFile toolkit call.files call.path).1 = answer.outcome ∧
      session.Adds (session.next toolkit call) answer := by
  simp only [next, parseFile, Toolkit.answer]
  rcases hRead : toolkit.readSource call.files call.path with (fault | _ | _ | _) | source
  · obtain ⟨cause, rfl⟩ := Toolkit.readSource_eq_fault hRead
    exact ⟨rfl, adds_fail toolkit _ _ _ rfl⟩
  · simp [Adds]
  · simp [Adds]
  · simp [Adds]
  · by_cases hPasses :
        Prefilter.passes source.text.toList (Prefilter.markers toolkit.settings.tagName) = true
    · simp only [hPasses, if_true]
      exact extractFile_shows toolkit session source
    · simp [hPasses, Adds, notify, ComponentStore.notify]

theorem observe_eq (toolkit : Toolkit) (session : Session) (call : Call) :
    session.observe toolkit call = toolkit.answer call (session.extraction toolkit) := by
  obtain ⟨hOutcome, hDiagnostics, hEvents⟩ := parseFile_shows toolkit session call
  simp only [next] at hDiagnostics hEvents
  simp [observe, hOutcome, hDiagnostics, hEvents]

end Session

/-- The file that a call reads, with its result, if the file is a wanted one and extraction
of it comes to a result. -/
def Toolkit.settled? (toolkit : Toolkit) (wanted : SourceFile → Bool) (call : Call) :
    Option (SourceFile × FileResult) :=
  match toolkit.readSource call.files call.path with
  | .error _ => none
  | .ok source =>
    if Prefilter.passes source.text.toList (Prefilter.markers toolkit.settings.tagName) ∧
        wanted source then
      (toolkit.extract source.path source.text).toOption.map fun result => (source, result)
    else none

theorem Toolkit.settled?_eq_some_iff {toolkit : Toolkit} {wanted : SourceFile → Bool}
    {call : Call} {source : SourceFile} {result : FileResult} :
    toolkit.settled? wanted call = some (source, result) ↔
      toolkit.readSource call.files call.path = .ok source ∧
        Prefilter.passes source.text.toList (Prefilter.markers toolkit.settings.tagName) = true ∧
        wanted source = true ∧ toolkit.extract source.path source.text = .ok result := by
  rw [settled?]
  cases toolkit.readSource call.files call.path with
  | error reason => simp
  | ok read =>
      cases hResult : toolkit.extract read.path read.text <;> grind [Except.toOption]

namespace Session

theorem cache_succeed (session : Session) (path : String) (result : FileResult) :
    (session.succeed path result).cache = session.cache := by
  by_cases hEmpty : result.fragments.isEmpty
  · simp [succeed, notify, hEmpty]
  · simp [succeed, notify, hEmpty]

theorem cache_fail (toolkit : Toolkit) (session : Session) (path : String)
    (text : Option String) (failure : Failure) :
    (session.fail toolkit path text failure).cache = session.cache := by
  by_cases hUnparsable : failure.isUnparsable
  · simp [fail, hUnparsable]
  · simp [fail, hUnparsable, notify]

theorem get?_extractFile (toolkit : Toolkit) (session : Session) (source : SourceFile)
    (key : String) :
    (session.extractFile toolkit source).2.cache.get? key =
      (session.cache.get? key).or
        (if source.key = key then (toolkit.extract source.path source.text).toOption
          else none) := by
  rw [← ResultCache.get?_getOrCompute session.cache source.key key
    fun _ => toolkit.extract source.path source.text]
  have hBuilt : (if (session.cache.get? source.key).isSome then session
      else session.buildTree toolkit source).cache = session.cache := by
    split
    · rfl
    · exact cache_buildTree toolkit session source
  simp only [extractFile, hBuilt]
  cases hStep : session.cache.getOrCompute source.key
      fun _ => toolkit.extract source.path source.text with
  | mk extracted cache =>
      rcases extracted with (fault | message) | result
      · rw [ResultCache.eq_of_getOrCompute_error hStep]
        by_cases hFatal : fault.kind.isFatal
        · simp [hFatal, hBuilt]
        · simp [hFatal, cache_fail, hBuilt]
      · rw [ResultCache.eq_of_getOrCompute_error hStep]
        simp [cache_fail, hBuilt]
      · simp [cache_succeed]

/-- A call leaves a result under the key of its file, unless there is one. -/
theorem get?_next (toolkit : Toolkit) (session : Session) (call : Call) (key : String) :
    (session.next toolkit call).cache.get? key =
      (session.cache.get? key).or ((toolkit.settled? (·.key = key) call).map Prod.snd) := by
  simp only [next, parseFile, Toolkit.settled?]
  rcases toolkit.readSource call.files call.path with (fault | _ | _ | _) | source
  · simp [cache_fail]
  · simp
  · simp
  · simp
  · by_cases hPasses :
        Prefilter.passes source.text.toList (Prefilter.markers toolkit.settings.tagName) = true
    · simp only [hPasses, if_true, true_and]
      rw [get?_extractFile]
      by_cases hKey : source.key = key
      · simp [hKey, Function.comp_def]
      · simp [hKey]
    · simp [hPasses, notify]

/-- After calls, a key has the result of the first of them that could leave one under it. -/
theorem get?_after (toolkit : Toolkit) (calls : List Call) (session : Session) (key : String) :
    (session.after toolkit calls).cache.get? key =
      (session.cache.get? key).or
        ((calls.findSome? (toolkit.settled? (·.key = key))).map Prod.snd) := by
  induction calls generalizing session with
  | nil => simp [after]
  | cons call others ih =>
      have hRest := ih (session.next toolkit call)
      rw [get?_next] at hRest
      simp only [after, List.foldl_cons] at hRest ⊢
      rw [hRest, List.findSome?_cons]
      cases hCall : toolkit.settled? (·.key = key) call with
      | none => simp
      | some entry => simp

end Session

end ComponentQueries
