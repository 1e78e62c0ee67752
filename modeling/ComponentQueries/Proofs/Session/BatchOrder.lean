import ComponentQueries.Proofs.Session.History
import ComponentQueries.Proofs.Session.Outcomes

/-! Batches of files. Where the keys tell apart all versions of files that are read, a batch
comes to what its files come to alone, in whatever order they are listed and in whatever order
they are done with. -/
namespace ComponentQueries

/-- The files of a batch in the order in which they are done with. -/
def Scheduler.finished (scheduler : Scheduler) (settings : Settings) (paths : List String) :
    List String :=
  if positive : 0 < settings.maxConcurrency.toNat then
    (scheduler paths settings.maxConcurrency.toNat positive).order.map Prod.fst
  else []

/-- Where files are admitted at all, each file of a batch is done with as often as it is
listed. -/
theorem Scheduler.finished_perm (scheduler : Scheduler) {settings : Settings}
    (hPositive : 0 < settings.maxConcurrency) (paths : List String) :
    (scheduler.finished settings paths).Perm paths := by
  have hLimit : 0 < settings.maxConcurrency.toNat := by omega
  rw [finished, dif_pos hLimit]
  have hEach := (scheduler paths settings.maxConcurrency.toNat hLimit).each.map Prod.fst
  rwa [List.zipIdx_map_fst] at hEach

namespace FileOutcome

/-- A place with one outcome is looked up with that outcome. -/
theorem lookup_eq_some {outcomes : List (Nat × FileOutcome)} {place : Nat}
    {outcome : FileOutcome} (hMem : (place, outcome) ∈ outcomes)
    (hOnly : ∀ other, (place, other) ∈ outcomes → other = outcome) :
    outcomes.lookup place = some outcome := by
  induction outcomes with
  | nil => cases hMem
  | cons entry others ih =>
      obtain ⟨first, found⟩ := entry
      rw [List.lookup_cons]
      by_cases hFirst : place = first
      · subst hFirst
        rw [hOnly found List.mem_cons_self]
        simp
      · have hOther : (place, outcome) ∈ others := by
          rcases List.mem_cons.mp hMem with hSame | hOther
          · exact absurd (congrArg Prod.fst hSame) hFirst
          · exact hOther
        rw [beq_eq_false_iff_ne.mpr hFirst]
        exact ih hOther fun other h => hOnly other (List.mem_cons_of_mem _ h)

variable {paths : List String} {order : List (String × Nat)} {alone : String → FileOutcome}

/-- The first reason in the order in which the files are done with is handed on. -/
theorem gather_of_reason {reason : Breakoff} (count : Nat)
    (h : (order.map Prod.fst).findSome? (fun path => (alone path).reason?) = some reason) :
    gather count (order.map fun file => (file.2, alone file.1)) = .error reason := by
  rw [List.findSome?_map] at h
  rw [gather, List.findSome?_map]
  simp only [Function.comp_def] at h ⊢
  rw [h]

/-- In whatever order files return, their fragments are put back into the order of the batch,
because each outcome stands with the place of its file. -/
theorem gather_of_returns (each : order.Perm paths.zipIdx)
    (returns : ∀ path ∈ paths, ∃ fragments, alone path = .ok fragments) :
    gather paths.length (order.map fun file => (file.2, alone file.1)) =
      .ok (paths.flatMap fun path => (alone path).fragments) := by
  have hReason : (order.map fun file => (file.2, alone file.1)).findSome?
      (fun entry => entry.2.reason?) = none := by
    rw [List.findSome?_eq_none_iff]
    intro entry hEntry
    obtain ⟨⟨path, place⟩, hFile, rfl⟩ := List.mem_map.mp hEntry
    have hPath : path ∈ paths := (List.mem_zipIdx' (each.subset hFile)).2 ▸ List.getElem_mem _
    obtain ⟨fragments, hReturned⟩ := returns path hPath
    simp only [hReturned, reason?]
  have hLookup : ∀ file ∈ paths.zipIdx,
      (order.map fun file => (file.2, alone file.1)).lookup file.2 = some (alone file.1) := by
    rintro ⟨path, place⟩ hFile
    apply lookup_eq_some
    · exact List.mem_map.mpr ⟨(path, place), each.symm.subset hFile, rfl⟩
    · intro other hOther
      obtain ⟨⟨path', place'⟩, hFile', hSame⟩ := List.mem_map.mp hOther
      obtain ⟨rfl, rfl⟩ := Prod.mk.inj hSame
      rw [(List.mem_zipIdx' (each.subset hFile')).2, (List.mem_zipIdx' hFile).2]
  have hPlaces : List.range paths.length = paths.zipIdx.map Prod.snd := by
    rw [List.zipIdx_map_snd, List.range_eq_range']
  have hPaths : paths.flatMap (fun path => (alone path).fragments) =
      paths.zipIdx.flatMap fun file => (alone file.1).fragments := by
    rw [← List.flatMap_map Prod.fst (fun path => (alone path).fragments), List.zipIdx_map_fst]
  rw [gather, hReason, hPlaces, List.flatMap_map, hPaths, List.flatMap_def, List.flatMap_def]
  refine congrArg (fun lists => Except.ok (List.flatten lists)) (List.map_congr_left ?_)
  intro file hFile
  simp only [hLookup file hFile, Option.map_some, Option.getD_some]

end FileOutcome

namespace Session

/-- What comes of a file that is the only one of a session. -/
def outcomeAlone (toolkit : Toolkit) (files : Files) (path : String) : FileOutcome :=
  (empty.parseFile toolkit files path).1

def fragmentsAlone (toolkit : Toolkit) (files : Files) (path : String) : List Fragment :=
  (outcomeAlone toolkit files path).fragments

def reportsAlone (toolkit : Toolkit) (files : Files) (path : String) : List Diagnostic :=
  (empty.parseFile toolkit files path).2.diagnostics

theorem outcome_observe (toolkit : Toolkit) (session : Session) (call : Call) :
    (session.observe toolkit call).outcome =
      (session.parseFile toolkit call.files call.path).1 := by
  simp only [observe]

theorem diagnostics_observe_empty (toolkit : Toolkit) (files : Files) (path : String) :
    (empty.observe toolkit ⟨files, path⟩).diagnostics = reportsAlone toolkit files path := by
  simp only [observe]
  exact List.drop_zero

/-- The files of a batch are called for as they are done with. -/
theorem parseEach_eq (toolkit : Toolkit) (files : Files) (order : List (String × Nat))
    (session : Session) :
    let calls := (order.map Prod.fst).map (Call.mk files)
    session.parseEach toolkit files order =
      ((order.map Prod.snd).zip ((session.answers toolkit calls).map Answer.outcome),
        session.after toolkit calls) := by
  intro calls
  induction order generalizing session with
  | nil => rfl
  | cons file others ih =>
      obtain ⟨path, place⟩ := file
      have hRest := ih (session.next toolkit ⟨files, path⟩)
      simp only [next] at hRest
      simp only [calls, parseEach, hRest, List.map_cons, answers, after, List.foldl_cons,
        outcome_observe, next, List.zip_cons_cons]

section Batch

variable {toolkit : Toolkit} {files : Files} {paths : List String}

theorem answers_batch (apart : toolkit.KeysApart (paths.map (Call.mk files))) :
    empty.answers toolkit (paths.map (Call.mk files)) =
      paths.map fun path => empty.observe toolkit ⟨files, path⟩ := by
  have hAnswers := @answers_after toolkit [] (paths.map (Call.mk files)) apart
  rw [List.map_map] at hAnswers
  exact hAnswers

/-- Each file of a batch comes to what it comes to alone. -/
theorem parseEach_batch {order : List (String × Nat)}
    (apart : toolkit.KeysApart ((order.map Prod.fst).map (Call.mk files))) :
    empty.parseEach toolkit files order =
      (order.map fun file => (file.2, outcomeAlone toolkit files file.1),
        empty.after toolkit ((order.map Prod.fst).map (Call.mk files))) := by
  have hOutcomes : (empty.answers toolkit ((order.map Prod.fst).map (Call.mk files))).map
      Answer.outcome = order.map fun file => outcomeAlone toolkit files file.1 := by
    rw [answers_batch apart]
    simp only [List.map_map, Function.comp_def, outcome_observe, outcomeAlone]
  rw [parseEach_eq, hOutcomes, List.zip_map']

theorem keysApart_of_subset {few : List String}
    (apart : toolkit.KeysApart (paths.map (Call.mk files))) (hFew : few ⊆ paths) :
    toolkit.KeysApart (few.map (Call.mk files)) :=
  apart.mono (List.map_subset _ hFew)

/-- A batch of which files are admitted has gone through all of them at its end, and puts
together what they come to alone. -/
theorem parseFiles_of_positive (scheduler : Scheduler)
    (hPositive : 0 < toolkit.settings.maxConcurrency)
    (apart : toolkit.KeysApart (paths.map (Call.mk files))) :
    ∃ order : List (String × Nat), order.Perm paths.zipIdx ∧
      order.map Prod.fst = scheduler.finished toolkit.settings paths ∧
      empty.parseFiles toolkit files scheduler paths =
        some (FileOutcome.gather paths.length
            (order.map fun file => (file.2, outcomeAlone toolkit files file.1)),
          empty.after toolkit
            ((scheduler.finished toolkit.settings paths).map (Call.mk files))) := by
  have hLimit : 0 < toolkit.settings.maxConcurrency.toNat := by omega
  have hFinished : (scheduler paths _ hLimit).order.map Prod.fst =
      scheduler.finished toolkit.settings paths := by
    rw [Scheduler.finished, dif_pos hLimit]
  have hApart := keysApart_of_subset apart (scheduler.finished_perm hPositive paths).subset
  rw [← hFinished] at hApart
  refine ⟨_, (scheduler paths _ hLimit).each, hFinished, ?_⟩
  rw [parseFiles, if_neg (by omega), dif_pos hLimit, parseEach_batch hApart, hFinished]

/-- A batch breaks off for the file that is the first to do so in time. -/
theorem parseFiles_of_reason (scheduler : Scheduler)
    (hPositive : 0 < toolkit.settings.maxConcurrency)
    (apart : toolkit.KeysApart (paths.map (Call.mk files))) {reason : Breakoff}
    (hReason : (scheduler.finished toolkit.settings paths).findSome?
      (fun path => (outcomeAlone toolkit files path).reason?) = some reason) :
    ∃ session, empty.parseFiles toolkit files scheduler paths = some (.error reason, session) := by
  obtain ⟨order, -, hFinished, hBatch⟩ := parseFiles_of_positive scheduler hPositive apart
  rw [← hFinished] at hReason
  rw [hBatch, FileOutcome.gather_of_reason _ hReason]
  exact ⟨_, rfl⟩

/-- A batch of harmless files returns the fragments of each of them, in the order of the
batch. -/
theorem parseFiles_of_returns (scheduler : Scheduler)
    (hPositive : 0 < toolkit.settings.maxConcurrency)
    (apart : toolkit.KeysApart (paths.map (Call.mk files)))
    (returns : ∀ path ∈ paths, ∃ fragments, outcomeAlone toolkit files path = .ok fragments) :
    empty.parseFiles toolkit files scheduler paths =
      some (.ok (paths.flatMap (fragmentsAlone toolkit files)),
        empty.after toolkit
          ((scheduler.finished toolkit.settings paths).map (Call.mk files))) := by
  obtain ⟨order, hEach, -, hBatch⟩ := parseFiles_of_positive scheduler hPositive apart
  rw [hBatch, FileOutcome.gather_of_returns hEach returns]
  rfl

/-- A batch reports what is reported about each of its files. -/
theorem after_reports (apart : toolkit.KeysApart (paths.map (Call.mk files))) :
    (empty.after toolkit (paths.map (Call.mk files))).diagnostics =
      paths.flatMap (reportsAlone toolkit files) := by
  rw [(adds_after toolkit _ empty).1, answers_batch apart, List.flatMap_map]
  simp only [diagnostics_observe_empty]
  rfl

/-- What the cache holds after a batch, without regard to the order: two results under one
key are of one version of a file. -/
theorem get?_after_eq_some_iff {calls : List Call} (apart : toolkit.KeysApart calls)
    {key : String} {result : FileResult} :
    (empty.after toolkit calls).cache.get? key = some result ↔
      ∃ call ∈ calls, ∃ source, toolkit.settled? (·.key = key) call = some (source, result) := by
  have hGet : (empty.after toolkit calls).cache.get? key =
      (calls.findSome? (toolkit.settled? (·.key = key))).map Prod.snd := by
    rw [get?_after]
    rfl
  rw [hGet, Option.map_eq_some_iff]
  constructor
  · rintro ⟨⟨source, found⟩, hFound, rfl⟩
    obtain ⟨call, hCall, hSettled⟩ := List.exists_of_findSome?_eq_some hFound
    exact ⟨call, hCall, source, hSettled⟩
  · rintro ⟨call, hCall, source, hSettled⟩
    have hSome : (calls.findSome? (toolkit.settled? (·.key = key))).isSome := by
      rw [List.findSome?_isSome_iff]
      exact ⟨call, hCall, by rw [hSettled]; rfl⟩
    obtain ⟨⟨first, found⟩, hFound⟩ := Option.isSome_iff_exists.mp hSome
    obtain ⟨owner, hOwner, hOwned⟩ := List.exists_of_findSome?_eq_some hFound
    obtain ⟨hRead, -, hKey, hExtract⟩ := Toolkit.settled?_eq_some_iff.mp hSettled
    obtain ⟨hReadFirst, -, hKeyFirst, hExtractFirst⟩ := Toolkit.settled?_eq_some_iff.mp hOwned
    have hKeys : first.key = source.key :=
      (of_decide_eq_true hKeyFirst).trans (of_decide_eq_true hKey).symm
    obtain ⟨hPath, hText⟩ := apart first (Toolkit.mem_sources_iff.mpr ⟨owner, hOwner, hReadFirst⟩)
      source (Toolkit.mem_sources_iff.mpr ⟨call, hCall, hRead⟩) hKeys
    rw [hPath, hText, hExtract] at hExtractFirst
    cases hExtractFirst
    exact ⟨_, hFound, rfl⟩

/-- Two batches leave the same results if the same files of them come to a result. -/
theorem get?_after_congr {calls others : List Call} (apart : toolkit.KeysApart calls)
    (apart' : toolkit.KeysApart others)
    (hSettled : ∀ call wanted, (toolkit.settled? wanted call).isSome →
      (call ∈ calls ↔ call ∈ others)) (key : String) :
    (empty.after toolkit calls).cache.get? key = (empty.after toolkit others).cache.get? key := by
  apply Option.ext
  intro result
  rw [get?_after_eq_some_iff apart, get?_after_eq_some_iff apart']
  refine exists_congr fun call => ?_
  constructor
  · rintro ⟨hCall, source, h⟩
    exact ⟨(hSettled call _ (by rw [h]; rfl)).mp hCall, source, h⟩
  · rintro ⟨hCall, source, h⟩
    exact ⟨(hSettled call _ (by rw [h]; rfl)).mpr hCall, source, h⟩

/-- The notices about a file after a batch are those of its own calls. All of these say the
same, so that only their number counts. -/
theorem noticesFor_after (apart : toolkit.KeysApart (paths.map (Call.mk files)))
    (path : String) :
    (empty.after toolkit (paths.map (Call.mk files))).store.noticesFor path =
      (List.replicate (paths.count path) path).flatMap fun own =>
        (empty.observe toolkit ⟨files, own⟩).events.map Event.notice := by
  have hEvents : (empty.after toolkit (paths.map (Call.mk files))).store.events =
      paths.flatMap fun own => (empty.observe toolkit ⟨files, own⟩).events := by
    rw [(adds_after toolkit _ empty).2, answers_batch apart, List.flatMap_map]
    rfl
  rw [ComponentStore.noticesFor, hEvents]
  clear apart hEvents
  induction paths with
  | nil => rfl
  | cons first others ih =>
      rw [List.flatMap_cons, List.filter_append, List.map_append, ih, List.count_cons]
      have hOwn : ∀ event ∈ (empty.observe toolkit ⟨files, first⟩).events,
          event.path = first := by
        rw [observe_eq]
        exact fun event => Toolkit.path_of_mem_answer_events
      by_cases hFirst : first = path
      · subst hFirst
        have hAll : (empty.observe toolkit ⟨files, first⟩).events.filter (·.path = first) =
            (empty.observe toolkit ⟨files, first⟩).events :=
          List.filter_eq_self.mpr fun event hEvent => decide_eq_true (hOwn event hEvent)
        rw [hAll]
        simp [List.replicate_succ]
      · have hNone : (empty.observe toolkit ⟨files, first⟩).events.filter (·.path = path) = [] := by
          rw [List.filter_eq_nil_iff]
          intro event hEvent
          simp [hOwn event hEvent, hFirst]
        rw [hNone]
        simp [hFirst]

/-- Two batches leave the same record of a file and have told the same about it, if they
call for it equally often. -/
theorem record?_after_congr {others : List String}
    (apart : toolkit.KeysApart (paths.map (Call.mk files)))
    (apart' : toolkit.KeysApart (others.map (Call.mk files))) {path : String}
    (hCount : paths.count path = others.count path) :
    (empty.after toolkit (paths.map (Call.mk files))).store.record? path =
        (empty.after toolkit (others.map (Call.mk files))).store.record? path ∧
      (empty.after toolkit (paths.map (Call.mk files))).store.noticesFor path =
        (empty.after toolkit (others.map (Call.mk files))).store.noticesFor path := by
  have hNotices : (empty.after toolkit (paths.map (Call.mk files))).store.noticesFor path =
      (empty.after toolkit (others.map (Call.mk files))).store.noticesFor path := by
    rw [noticesFor_after apart, noticesFor_after apart', hCount]
  have hReplays := fun calls =>
    @replays_after toolkit calls empty ComponentStore.replays_empty
  exact ⟨by rw [hReplays, hReplays, hNotices], hNotices⟩

/-- A file that comes to a result is one that fragments are returned for. -/
theorem outcome_of_settled {wanted : SourceFile → Bool} {call : Call}
    (hSettled : (toolkit.settled? wanted call).isSome) :
    ∃ fragments, (empty.parseFile toolkit call.files call.path).1 = .ok (some fragments) := by
  obtain ⟨⟨source, result⟩, h⟩ := Option.isSome_iff_exists.mp hSettled
  obtain ⟨hRead, hPasses, -, hExtract⟩ := Toolkit.settled?_eq_some_iff.mp h
  refine ⟨result.fragments, ?_⟩
  rw [(parseFile_shows toolkit empty call).1, Toolkit.answer, hRead]
  simp only [hPasses, if_true, extraction_empty, hExtract]
  rfl

/-- The results are the same without a file that no fragments are returned for. -/
theorem get?_after_filter {failing : String}
    (apart : toolkit.KeysApart (paths.map (Call.mk files)))
    (hFailing : (empty.parseFile toolkit files failing).1 = .ok none) (key : String) :
    (empty.after toolkit ((paths.filter (· ≠ failing)).map (Call.mk files))).cache.get? key =
      (empty.after toolkit (paths.map (Call.mk files))).cache.get? key := by
  have hFew : (paths.filter (· ≠ failing)).map (Call.mk files) ⊆ paths.map (Call.mk files) :=
    List.map_subset _ List.filter_sublist.subset
  refine get?_after_congr (apart.mono hFew) apart (fun call wanted hSettled => ?_) key
  refine ⟨fun hCall => hFew hCall, fun hCall => ?_⟩
  obtain ⟨path, hPath, rfl⟩ := List.mem_map.mp hCall
  obtain ⟨fragments, hReturned⟩ := outcome_of_settled hSettled
  have hOther : path ≠ failing := by
    rintro rfl
    rw [hFailing] at hReturned
    cases hReturned
  exact List.mem_map_of_mem (List.mem_filter.mpr ⟨hPath, decide_eq_true hOther⟩)

/-- The fragments are the same without a file that has none. -/
theorem flatMap_fragmentsAlone_filter {failing : String}
    (hFailing : fragmentsAlone toolkit files failing = []) :
    (paths.filter (· ≠ failing)).flatMap (fragmentsAlone toolkit files) =
      paths.flatMap (fragmentsAlone toolkit files) := by
  induction paths with
  | nil => rfl
  | cons path others ih =>
      by_cases hPath : path = failing
      · rw [List.filter_cons_of_neg (by simp [hPath]), ih, List.flatMap_cons, hPath, hFailing,
          List.nil_append]
      · rw [List.filter_cons_of_pos (by simp [hPath]), List.flatMap_cons, ih, List.flatMap_cons]

end Batch

/-- A batch of harmless files returns what its files return alone, in the order of the
batch. Neither the order of the batch nor the order in which files are done with is seen in
anything that is left but the sequence of the reports, and a file that failed or was passed over
is seen in nothing that concerns another one. -/
theorem parseFiles_in_any_order (toolkit : Toolkit) (files : Files) (scheduler : Scheduler)
    (paths : List String) (hPositive : 0 < toolkit.settings.maxConcurrency)
    (apart : toolkit.KeysApart (paths.map (Call.mk files)))
    (harmless : ∀ path ∈ paths, ∃ fragments,
      (empty.parseFile toolkit files path).1 = .ok fragments) :
    ∃ session, empty.parseFiles toolkit files scheduler paths =
        some (.ok (paths.flatMap (fragmentsAlone toolkit files)), session) ∧
      (∃ done : List String, done.Perm paths ∧
        session.diagnostics = done.flatMap (reportsAlone toolkit files)) ∧
      (∀ (other : Scheduler) (order : List String), order.Perm paths →
        ∃ after, empty.parseFiles toolkit files other order =
            some (.ok (order.flatMap (fragmentsAlone toolkit files)), after) ∧
          (∀ key, after.cache.get? key = session.cache.get? key) ∧
          (∀ path, after.store.record? path = session.store.record? path) ∧
          ∃ done : List String, done.Perm paths ∧
            after.diagnostics = done.flatMap (reportsAlone toolkit files)) ∧
      ∀ (other : Scheduler) (failing : String),
        (empty.parseFile toolkit files failing).1 = .ok none →
        let others := paths.filter (· ≠ failing)
        ∃ after, empty.parseFiles toolkit files other others =
            some (.ok (paths.flatMap (fragmentsAlone toolkit files)), after) ∧
          (∀ key, after.cache.get? key = session.cache.get? key) ∧
          ComponentStore.SameElsewhere failing session.store after.store ∧
          ∃ done : List String, done.Perm others ∧
            after.diagnostics = done.flatMap (reportsAlone toolkit files) := by
  have hDone : ∀ (scheduler : Scheduler) (few : List String),
      (scheduler.finished toolkit.settings few).Perm few :=
    fun scheduler few => scheduler.finished_perm hPositive few
  have hApart : ∀ (scheduler : Scheduler), ∀ few ⊆ paths, toolkit.KeysApart
      ((scheduler.finished toolkit.settings few).map (Call.mk files)) :=
    fun scheduler few hFew =>
      keysApart_of_subset apart (List.Subset.trans (hDone scheduler few).subset hFew)
  have hBatch : ∀ (scheduler : Scheduler), ∀ few ⊆ paths, _ := fun scheduler few hFew =>
    parseFiles_of_returns scheduler hPositive (keysApart_of_subset apart hFew)
      fun path hPath => harmless path (hFew hPath)
  have hAll := List.Subset.refl paths
  refine ⟨_, hBatch scheduler paths hAll,
    ⟨_, hDone scheduler paths, after_reports (hApart scheduler paths hAll)⟩, ?_, ?_⟩
  · intro other order hOrder
    have hSame : (other.finished toolkit.settings order).Perm
        (scheduler.finished toolkit.settings paths) :=
      (hDone other order).trans (hOrder.trans (hDone scheduler paths).symm)
    have hApartOrder := hApart other order hOrder.subset
    refine ⟨_, hBatch other order hOrder.subset, ?_, fun path => ?_,
      ⟨_, (hDone other order).trans hOrder, after_reports hApartOrder⟩⟩
    · exact get?_after_congr hApartOrder (hApart scheduler paths hAll)
        fun call _ _ => (hSame.map (Call.mk files)).mem_iff
    · exact (record?_after_congr hApartOrder (hApart scheduler paths hAll)
        (hSame.count_eq path)).1
  · intro other failing hFailing others
    have hFew : others ⊆ paths := List.filter_sublist.subset
    have hNone : fragmentsAlone toolkit files failing = [] := by
      rw [fragmentsAlone, outcomeAlone, hFailing]
      rfl
    have hSame : (other.finished toolkit.settings others).Perm
        ((scheduler.finished toolkit.settings paths).filter (· ≠ failing)) :=
      (hDone other others).trans ((hDone scheduler paths).symm.filter _)
    have hApartOthers := hApart other others hFew
    have hBatchOthers := hBatch other others hFew
    rw [flatMap_fragmentsAlone_filter hNone] at hBatchOthers
    refine ⟨_, hBatchOthers, fun key => ?_, fun path hPath => ?_,
      ⟨_, hDone other others, after_reports hApartOthers⟩⟩
    · rw [← get?_after_filter (hApart scheduler paths hAll) hFailing key]
      exact get?_after_congr hApartOthers
        (keysApart_of_subset (hApart scheduler paths hAll) List.filter_sublist.subset)
        (fun call _ _ => (hSame.map (Call.mk files)).mem_iff) key
    · refine record?_after_congr hApartOthers (hApart scheduler paths hAll) ?_
      rw [hSame.count_eq path]
      exact List.count_filter (decide_eq_true hPath)

/-- Two files with a query, one that cannot be parsed, and one that is not worth a look. -/
def mixedFiles : Files := fun path =>
  let texts := [("a.js", "x;" ++ queryText), ("b.js", ";" ++ queryText), ("c.js", "graphql"),
    ("d.js", "")]
  match texts.lookup path with
  | some text => .ok text
  | none => .error "No such file or directory"

/-- A parser with a fault in the name of the tag alone. The bytes themselves are the keys. -/
def queriesOnly : Toolkit :=
  { twoTexts with
    grammar := fun language text =>
      if text = "graphql" then brokenVariants.grammar language text
      else twoTexts.grammar language text
    digest := fun bytes => String.ofList (bytes.map fun byte => Char.ofNat byte.toNat) }

/-- The first two files of a batch are done with in reverse, if two are worked on at a time. -/
def swapped : Scheduler := fun paths limit positive =>
  match paths with
  | first :: second :: others =>
    if two : 1 < limit then
      { order := (second, 1) :: (first, 0) :: others.zipIdx 2
        each := .swap _ _ _
        admitted := by
          intro turn file hFile
          match turn with
          | 0 => cases hFile; dsimp only; omega
          | 1 => cases hFile; dsimp only; omega
          | turn + 2 =>
              have hRest : (others.zipIdx 2)[turn]? = some file := hFile
              rw [List.getElem?_zipIdx] at hRest
              obtain ⟨path, -, rfl⟩ := Option.map_eq_some_iff.mp hRest
              dsimp only
              omega }
    else Schedule.inOrder _ limit positive
  | paths => Schedule.inOrder paths limit positive

/-- Two files are reported and two others have a query. The order in which the files are done
with is not seen in the fragments, and neither is the file that cannot be parsed. -/
theorem parseFiles_in_any_order_mixedFiles :
    let paths := ["c.js", "a.js", "gone.js", "d.js", "b.js"]
    (paths.map fun path => (fragmentsAlone queriesOnly mixedFiles path).length) =
        [0, 1, 0, 0, 1] ∧
      (paths.map fun path => (reportsAlone queriesOnly mixedFiles path).length) =
        [1, 0, 1, 0, 0] ∧
      swapped.finished queriesOnly.settings paths.reverse =
        ["d.js", "b.js", "gone.js", "a.js", "c.js"] ∧
      ∃ session after without,
        empty.parseFiles queriesOnly mixedFiles Schedule.inOrder paths =
          some (.ok (paths.flatMap (fragmentsAlone queriesOnly mixedFiles)), session) ∧
        empty.parseFiles queriesOnly mixedFiles swapped paths.reverse =
          some (.ok (paths.reverse.flatMap (fragmentsAlone queriesOnly mixedFiles)), after) ∧
        (∀ path, after.store.record? path = session.store.record? path) ∧
        empty.parseFiles queriesOnly mixedFiles swapped (paths.filter (· ≠ "c.js")) =
          some (.ok (paths.flatMap (fragmentsAlone queriesOnly mixedFiles)), without) := by
  intro paths
  have hHarmless : ∀ path ∈ paths, ∃ fragments,
      (empty.parseFile queriesOnly mixedFiles path).1 = .ok fragments := by
    have hOk : ∀ path ∈ paths,
        (empty.parseFile queriesOnly mixedFiles path).1.toOption.isSome := by decide +kernel
    intro path hPath
    have h := hOk path hPath
    cases hOutcome : (empty.parseFile queriesOnly mixedFiles path).1 with
    | error reason =>
        rw [hOutcome] at h
        cases h
    | ok fragments => exact ⟨fragments, rfl⟩
  obtain ⟨session, hBatch, -, hOrders, hWithout⟩ :=
    parseFiles_in_any_order queriesOnly mixedFiles Schedule.inOrder paths
      (by decide) (by decide +kernel) hHarmless
  obtain ⟨after, hReversed, -, hRecords, -⟩ := hOrders swapped paths.reverse paths.reverse_perm
  have hFailing : (empty.parseFile queriesOnly mixedFiles "c.js").1 = .ok none := by
    rfl
  obtain ⟨without, hLess, -⟩ := hWithout swapped "c.js" hFailing
  exact ⟨by decide +kernel, by decide +kernel, by decide +kernel, session, after, without,
    hBatch, hReversed, hRecords, hLess⟩

/-- With a negative number of files at a time no batch is worked on, even if it is one file
with a query, and with none at a time such a batch never ends. -/
theorem parseFiles_negative_concurrency :
    let toolkit := { queriesOnly with settings := { maxConcurrency := -1 } }
    toolkit.KeysApart [⟨mixedFiles, "a.js"⟩] ∧
      (fragmentsAlone toolkit mixedFiles "a.js").length = 1 ∧
      ∀ scheduler : Scheduler, empty.parseFiles toolkit mixedFiles scheduler ["a.js"] =
        some (.error .negativeConcurrency, empty) ∧
      empty.parseFiles { toolkit with settings := { maxConcurrency := 0 } } mixedFiles scheduler
        ["a.js"] = none := by
  intro toolkit
  refine ⟨by decide +kernel, by decide +kernel, fun scheduler => ⟨?_, ?_⟩⟩
  · rw [parseFiles, if_pos (by decide)]
  · rw [parseFiles, if_neg (by decide), dif_neg (by decide), if_neg (by decide)]

end Session

end ComponentQueries
