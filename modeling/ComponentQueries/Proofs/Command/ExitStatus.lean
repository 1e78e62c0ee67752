import ComponentQueries.Command
import ComponentQueries.Proofs.Command.Display
import ComponentQueries.Proofs.Extraction.FragmentNames
import ComponentQueries.Proofs.Session.BatchOrder

/-! The exit status of an extraction. It tells whether a file has broken the extraction off
or has failed, unless what there is to print cannot be printed. Of several files that break
off, the one that is done with first decides. -/
namespace ComponentQueries

namespace Session

variable {toolkit : Toolkit} {files : Files} {paths : List String} {path : String}

/-- A file that is the only one of a session breaks off, as it uses a tag that is declared
nowhere. -/
def RaisesAlone (toolkit : Toolkit) (files : Files) (path : String) : Prop :=
  outcomeAlone toolkit files path = .error (.fault (.ambientTag (cleanPath path)))

/-- A file that is the only one of a session cannot be read, parsed or extracted. -/
def FailsAlone (toolkit : Toolkit) (files : Files) (path : String) : Prop :=
  ∃ failure, ComesTo toolkit files path empty (.error failure)

/-- Work on a file comes to one thing only. -/
theorem ComesTo.unique {before : Session} {first second : Except Failure FileResult}
    (hFirst : ComesTo toolkit files path before first)
    (hSecond : ComesTo toolkit files path before second) : first = second := by
  cases hFirst with
  | unreadable hRead =>
      cases hSecond with
      | unreadable hOther => cases hRead.symm.trans hOther; rfl
      | kept hOther => cases hRead.symm.trans hOther
      | computed hOther => cases hRead.symm.trans hOther
  | kept hRead _ hKept =>
      cases hSecond with
      | unreadable hOther => cases hRead.symm.trans hOther
      | kept hOther _ hKept' =>
          cases hRead.symm.trans hOther
          cases hKept.symm.trans hKept'
          rfl
      | computed hOther _ hNone =>
          cases hRead.symm.trans hOther
          cases hKept.symm.trans hNone
  | computed hRead _ hNone =>
      cases hSecond with
      | unreadable hOther => cases hRead.symm.trans hOther
      | kept hOther _ hKept =>
          cases hRead.symm.trans hOther
          cases hNone.symm.trans hKept
      | computed hOther => cases hRead.symm.trans hOther; rfl

/-- A text is worked on only if it is worth a look. -/
theorem ComesTo.passes {before : Session} {extracted : Except Failure FileResult}
    {text : String} (h : ComesTo toolkit files path before extracted)
    (hRead : files path = .ok text) :
    Prefilter.passes text.toList (Prefilter.markers toolkit.settings.tagName) = true := by
  cases h with
  | unreadable hOther => cases hRead.symm.trans hOther
  | kept hOther passes =>
      cases hRead.symm.trans hOther
      exact passes
  | computed hOther passes =>
      cases hRead.symm.trans hOther
      exact passes

/-- A file that can be worked on and does not break off returns, with fragments or without. -/
theorem raisesAlone_or_returns (hReaches : toolkit.Reaches files path) :
    RaisesAlone toolkit files path ∨
      ∃ fragments, outcomeAlone toolkit files path = .ok fragments := by
  obtain ⟨ending, hEnds⟩ := exists_endsAs hReaches empty
  cases hEnds with
  | returned _ hOutcome => exact Or.inr ⟨_, hOutcome⟩
  | passedOver _ _ hOutcome => exact Or.inr ⟨_, hOutcome⟩
  | failed _ _ hOutcome => exact Or.inr ⟨_, hOutcome⟩
  | brokenOff _ hOutcome => exact Or.inl hOutcome

/-- Such a file is reported exactly if it fails. -/
theorem reportsAlone_eq_nil_iff (hReaches : toolkit.Reaches files path)
    (hReturns : ¬RaisesAlone toolkit files path) :
    reportsAlone toolkit files path = [] ↔ ¬FailsAlone toolkit files path := by
  obtain ⟨ending, hEnds⟩ := exists_endsAs hReaches empty
  cases hEnds with
  | returned hResult _ hDiagnostics =>
      refine ⟨fun _ ⟨failure, hFailure⟩ => ?_, fun _ => hDiagnostics⟩
      cases hResult.unique hFailure
  | passedOver hRead misses _ hDiagnostics =>
      refine ⟨fun _ ⟨failure, hFailure⟩ => ?_, fun _ => hDiagnostics⟩
      cases misses.symm.trans (hFailure.passes hRead)
  | failed hFailure _ _ hDiagnostics =>
      rw [reportsAlone, hDiagnostics]
      exact ⟨fun h => by simp at h, fun h => absurd ⟨_, hFailure⟩ h⟩
  | brokenOff _ hOutcome => exact absurd hOutcome hReturns

/-- The fragments of a file are found in its text. -/
theorem exists_extract_of_mem_fragmentsAlone (hReaches : toolkit.Reaches files path)
    {fragment : Fragment} (hFragment : fragment ∈ fragmentsAlone toolkit files path) :
    ∃ text result, toolkit.extract path text = .ok result ∧ fragment ∈ result.fragments := by
  obtain ⟨ending, hEnds⟩ := exists_endsAs hReaches empty
  rw [fragmentsAlone, outcomeAlone] at hFragment
  cases hEnds with
  | @returned result hResult hOutcome =>
      rw [hOutcome] at hFragment
      generalize hExtract : (Except.ok result : Except Failure FileResult) = extracted at hResult
      cases hResult with
      | unreadable => cases hExtract
      | kept _ _ hKept => cases hKept
      | @computed text => exact ⟨text, result, hExtract.symm, hFragment⟩
  | passedOver _ _ hOutcome => rw [hOutcome] at hFragment; cases hFragment
  | failed _ _ hOutcome => rw [hOutcome] at hFragment; cases hFragment
  | brokenOff _ hOutcome => rw [hOutcome] at hFragment; cases hFragment

/-- The fragments of a file bear its path and go by names. -/
theorem bears_of_mem_fragmentsAlone (hReaches : toolkit.Reaches files path) {fragment : Fragment}
    (hFragment : fragment ∈ fragmentsAlone toolkit files path) :
    fragment.path = path ∧ GraphQL.isName fragment.name.toList = true := by
  obtain ⟨text, result, hExtract, hMem⟩ :=
    exists_extract_of_mem_fragmentsAlone hReaches hFragment
  refine ⟨(@Toolkit.owns_of_extract _ ⟨path, text, ""⟩ _ hExtract fragment hMem).1, ?_⟩
  unfold Toolkit.extract at hExtract
  split at hExtract
  · cases hExtract
  · split at hExtract
    · cases hExtract
    · next extraction hExtraction =>
        cases hExtract
        exact Extraction.isName_of_mem hExtraction hMem

/-- What is printed for a file is plain: the line in case it breaks off, and the places of its
fragments. -/
structure PrintsPlainly (toolkit : Toolkit) (files : Files) (path : String) : Prop where
  line : Report.Plain (Fault.ambientTag (cleanPath path)).message
  places : ∀ fragment ∈ fragmentsAlone toolkit files path,
    Report.Plain (Report.place path fragment.templateRange.start)

/-- The reason of the first file that breaks off is the first reason. -/
theorem findSome?_reason_of_first {before after : List String} {first : String}
    {reason : Breakoff}
    (hBefore : ∀ earlier ∈ before, ∃ fragments, outcomeAlone toolkit files earlier = .ok fragments)
    (hFirst : outcomeAlone toolkit files first = .error reason) :
    (before ++ first :: after).findSome?
      (fun path => (outcomeAlone toolkit files path).reason?) = some reason := by
  have hNone : before.findSome? (fun path => (outcomeAlone toolkit files path).reason?) = none := by
    rw [List.findSome?_eq_none_iff]
    intro earlier hEarlier
    obtain ⟨fragments, hReturned⟩ := hBefore earlier hEarlier
    rw [hReturned]
    rfl
  rw [List.findSome?_append, hNone, Option.none_or, List.findSome?_cons, hFirst]
  rfl

/-- If some file breaks off, one of them is the first. -/
theorem exists_first_raisesAlone (h : ∃ path ∈ paths, RaisesAlone toolkit files path) :
    ∃ before first after, paths = before ++ first :: after ∧
      (∀ earlier ∈ before, ¬RaisesAlone toolkit files earlier) ∧
      RaisesAlone toolkit files first := by
  classical
  obtain ⟨path, hPath, hRaises⟩ := h
  have hFound : (paths.find? (RaisesAlone toolkit files ·)).isSome :=
    List.find?_isSome.mpr ⟨path, hPath, decide_eq_true hRaises⟩
  obtain ⟨first, hFirst⟩ := Option.isSome_iff_exists.mp hFound
  obtain ⟨hIs, before, after, rfl, hBefore⟩ := List.find?_eq_some_iff_append.mp hFirst
  refine ⟨before, first, after, rfl, fun earlier hEarlier => ?_, of_decide_eq_true hIs⟩
  simpa using hBefore earlier hEarlier

end Session

namespace Command

variable {toolkit : Toolkit} {files : Files} {scheduler : Scheduler} {paths : List String}

/-- What remains of a batch is the exit status of its reports, even if these cannot be
printed. -/
theorem Printed.outcome_of_shown (text : List Char) (session : Session) :
    let outcome := (Printed.of (.ok text) session.diagnostics).outcome (exitCode session)
    outcome.stdout = text ∧ outcome.exitCode = if session.diagnostics = [] then 0 else 1 := by
  obtain ⟨cache, store, diagnostics, hookCalls⟩ := session
  cases diagnostics with
  | nil => exact ⟨rfl, rfl⟩
  | cons diagnostic others =>
      simp only [Printed.of, outcome, exitCode]
      split
      · exact ⟨rfl, rfl⟩
      · exact ⟨rfl, rfl⟩

/-- The command ends, if it admits files at all. -/
theorem exists_extractFiles (json : Bool) (hPositive : 0 < toolkit.settings.maxConcurrency)
    (apart : toolkit.KeysApart (paths.map (Call.mk files))) :
    ∃ outcome, extractFiles toolkit files scheduler paths json = some outcome := by
  obtain ⟨_, -, -, hBatch⟩ := Session.parseFiles_of_positive scheduler hPositive apart
  rw [extractFiles, hBatch]
  exact ⟨_, rfl⟩

section First

variable {before after : List String} {first : String} {outcome : Outcome} {json : Bool}
  (hOutcome : extractFiles toolkit files scheduler paths json = some outcome)
  (hPositive : 0 < toolkit.settings.maxConcurrency)
  (apart : toolkit.KeysApart (paths.map (Call.mk files)))
  (hFinished : scheduler.finished toolkit.settings paths = before ++ first :: after)
  (hBefore : ∀ earlier ∈ before,
    toolkit.Reaches files earlier ∧ ¬Session.RaisesAlone toolkit files earlier)

include hOutcome hPositive apart hFinished hBefore

/-- The first file in time that breaks off decides on the outcome. -/
theorem outcome_of_first {reason : Breakoff}
    (hFirst : Session.outcomeAlone toolkit files first = .error reason) :
    ∃ session, outcome = conclude json (.error reason, session) := by
  have hReturned : ∀ earlier ∈ before, ∃ fragments,
      Session.outcomeAlone toolkit files earlier = .ok fragments := by
    intro earlier hEarlier
    obtain ⟨hReaches, hReturns⟩ := hBefore earlier hEarlier
    exact (Session.raisesAlone_or_returns hReaches).resolve_left hReturns
  have hReason := @Session.findSome?_reason_of_first _ _ _ after _ _ hReturned hFirst
  rw [← hFinished] at hReason
  obtain ⟨session, hBatch⟩ := Session.parseFiles_of_reason scheduler hPositive apart hReason
  rw [extractFiles, hBatch] at hOutcome
  exact ⟨session, (Option.some.inj hOutcome).symm⟩

/-- A file with a tag that is declared nowhere makes the status 2, if the line for it can be
printed. -/
theorem outcome_of_first_raises (hFirst : Session.RaisesAlone toolkit files first) :
    (∀ text, Report.fatal (.ambientTag (cleanPath first)) = .ok text →
        outcome = ⟨2, [], text, none⟩) ∧
      ∀ error, Report.fatal (.ambientTag (cleanPath first)) = .error error →
        outcome = .broken [] [] (.report error) := by
  obtain ⟨session, rfl⟩ :=
    outcome_of_first hOutcome hPositive apart hFinished hBefore hFirst
  constructor
  · intro text hText
    simp only [conclude, hText]
  · intro error hError
    simp only [conclude, hError]

/-- A path that cannot be worked on breaks the command off without a status of its own. -/
theorem outcome_of_first_not_reaches (hFirst : ¬toolkit.Reaches files first) :
    ∃ reason, Session.outcomeAlone toolkit files first = .error reason ∧
      outcome = .broken [] [] (.extraction reason) := by
  obtain ⟨reason, hCall, hReason⟩ := Session.parseFile_of_not_reaches hFirst Session.empty
  have hAlone : Session.outcomeAlone toolkit files first = .error reason := by
    rw [Session.outcomeAlone, hCall]
  obtain ⟨session, rfl⟩ :=
    outcome_of_first hOutcome hPositive apart hFinished hBefore hAlone
  refine ⟨reason, hAlone, ?_⟩
  rcases hReason with rfl | ⟨message, -, rfl⟩
  · rfl
  · rfl

end First

section Printing

variable {outcome : Outcome} {json : Bool}
  (hOutcome : extractFiles toolkit files scheduler paths json = some outcome)
  (hPositive : 0 < toolkit.settings.maxConcurrency)
  (apart : toolkit.KeysApart (paths.map (Call.mk files)))

include hOutcome hPositive apart

/-- The outcome of a batch of which no file breaks off. -/
theorem outcome_of_returns (hReturns : ∀ path ∈ paths,
      toolkit.Reaches files path ∧ ¬Session.RaisesAlone toolkit files path) :
    let fragments := paths.flatMap (Session.fragmentsAlone toolkit files)
    let shown := if json then .ok (Report.json fragments) else Report.table fragments
    (∀ error, shown = .error error → outcome = .broken [] [] (.report error)) ∧
      ∀ text, shown = .ok text → outcome.stdout = text ∧
        (outcome.exitCode = 1 ↔ ∃ path ∈ paths, Session.FailsAlone toolkit files path) ∧
        (outcome.exitCode = 0 ↔ ∀ path ∈ paths, ¬Session.FailsAlone toolkit files path) := by
  intro fragments shown
  have hDone := scheduler.finished_perm hPositive paths
  have hBatch := Session.parseFiles_of_returns scheduler hPositive apart fun path hPath =>
    (Session.raisesAlone_or_returns (hReturns path hPath).1).resolve_left (hReturns path hPath).2
  rw [extractFiles, hBatch] at hOutcome
  have hPrinted : outcome = (Printed.of shown _).outcome _ := (Option.some.inj hOutcome).symm
  have hReports : (Session.empty.after toolkit
      ((scheduler.finished toolkit.settings paths).map (Call.mk files))).diagnostics = [] ↔
        ∀ path ∈ paths, ¬Session.FailsAlone toolkit files path := by
    rw [Session.after_reports (Session.keysApart_of_subset apart hDone.subset),
      List.flatMap_eq_nil_iff]
    refine forall_congr' fun path => ?_
    rw [hDone.mem_iff]
    exact imp_congr_right fun hPath =>
      Session.reportsAlone_eq_nil_iff (hReturns path hPath).1 (hReturns path hPath).2
  constructor
  · intro error hShown
    rw [hPrinted, hShown]
    rfl
  · intro text hShown
    rw [hShown] at hPrinted
    obtain ⟨hStdout, hCode⟩ := Printed.outcome_of_shown text (Session.empty.after toolkit
      ((scheduler.finished toolkit.settings paths).map (Call.mk files)))
    rw [← hPrinted] at hStdout hCode
    by_cases hFails : ∃ path ∈ paths, Session.FailsAlone toolkit files path
    · have hNot : ¬∀ path ∈ paths, ¬Session.FailsAlone toolkit files path := by simpa using hFails
      rw [if_neg (mt hReports.mp hNot)] at hCode
      exact ⟨hStdout, iff_of_true hCode hFails, iff_of_false (by omega) hNot⟩
    · have hNone : ∀ path ∈ paths, ¬Session.FailsAlone toolkit files path := by
        simpa using hFails
      rw [if_pos (hReports.mpr hNone)] at hCode
      exact ⟨hStdout, iff_of_false (by omega) hFails, iff_of_true hCode hNone⟩

/-- Where all is printed plainly, a file with a tag that is declared nowhere makes the status 2,
whichever of them is the first in time. -/
theorem exitCode_of_plain_raises
    (hPlain : ∀ path ∈ paths,
      toolkit.Reaches files path ∧ Session.PrintsPlainly toolkit files path)
    (hRaises : ∃ path ∈ paths, Session.RaisesAlone toolkit files path) :
    outcome.exitCode = 2 := by
  have hDone := scheduler.finished_perm hPositive paths
  obtain ⟨path, hPath, hRaised⟩ := hRaises
  obtain ⟨before, first, after, hFinished, hBefore, hFirst⟩ :=
    Session.exists_first_raisesAlone ⟨path, hDone.symm.subset hPath, hRaised⟩
  have hMem : ∀ path ∈ before ++ first :: after, path ∈ paths := by
    rw [← hFinished]
    exact fun path hPath => hDone.subset hPath
  have hEarlier : ∀ earlier ∈ before,
      toolkit.Reaches files earlier ∧ ¬Session.RaisesAlone toolkit files earlier :=
    fun earlier hEarlier =>
      ⟨(hPlain earlier (hMem earlier (List.mem_append_left _ hEarlier))).1,
        hBefore earlier hEarlier⟩
  obtain ⟨hText, -⟩ :=
    outcome_of_first_raises hOutcome hPositive apart hFinished hEarlier hFirst
  obtain ⟨text, hLine, -⟩ := Report.fatal_yields (hPlain first (hMem first (by simp))).2.line
  rw [hText text hLine]

omit hOutcome hPositive apart in
/-- Where all is printed plainly, the fragments are printed. -/
theorem shown_yields
    (hPlain : ∀ path ∈ paths,
      toolkit.Reaches files path ∧ Session.PrintsPlainly toolkit files path) :
    let fragments := paths.flatMap (Session.fragmentsAlone toolkit files)
    Yields (fun _ => True) (if json then .ok (Report.json fragments) else Report.table fragments) := by
  intro fragments
  cases json with
  | true => exact .ok True.intro
  | false =>
      refine Report.table_yields (fun fragment hFragment => ?_) fun fragment hFragment => ?_
      · obtain ⟨path, hPath, hOwn⟩ := List.mem_flatMap.mp hFragment
        exact (Session.bears_of_mem_fragmentsAlone (hPlain path hPath).1 hOwn).2
      · obtain ⟨path, hPath, hOwn⟩ := List.mem_flatMap.mp hFragment
        rw [(Session.bears_of_mem_fragmentsAlone (hPlain path hPath).1 hOwn).1]
        exact (hPlain path hPath).2.places fragment hOwn

end Printing

/-- The exit status of the command for the paths that it has collected, whatever the order in
which their files are done with. The file that is the first in time to break off makes it 2, or
breaks the command off if its path cannot be worked on. If none breaks off, the status is 1 if a
file fails and 0 if none fails, and all fragments are printed in the order of the paths. But it
is 1 whenever the line for the file that breaks off, or the table of the fragments, cannot be
printed. This does not happen to paths that can be worked on and are printed plainly. -/
theorem exitCode_extractFiles (toolkit : Toolkit) (files : Files) (scheduler : Scheduler)
    (paths : List String) (json : Bool) (hPositive : 0 < toolkit.settings.maxConcurrency)
    (apart : toolkit.KeysApart (paths.map (Call.mk files))) :
    let reaches := toolkit.Reaches files
    let raises := Session.RaisesAlone toolkit files
    let fails := Session.FailsAlone toolkit files
    let finished := scheduler.finished toolkit.settings paths
    let fragments := paths.flatMap (Session.fragmentsAlone toolkit files)
    let shown := if json then .ok (Report.json fragments) else Report.table fragments
    finished.Perm paths ∧
    ∃ outcome, extractFiles toolkit files scheduler paths json = some outcome ∧
      (∀ world settings arguments, Command.toolkit world settings = toolkit →
        world.workspace.files = files → world.scheduler = scheduler →
        world.workspace.collect arguments = .ok paths →
        extract world settings arguments json = some outcome) ∧
      (∀ before first after, finished = before ++ first :: after →
        (∀ earlier ∈ before, reaches earlier ∧ ¬raises earlier) →
        (raises first →
          (∀ text, Report.fatal (.ambientTag (cleanPath first)) = .ok text →
            outcome = ⟨2, [], text, none⟩) ∧
          ∀ error, Report.fatal (.ambientTag (cleanPath first)) = .error error →
            outcome = .broken [] [] (.report error)) ∧
        (¬reaches first → ∃ reason, Session.outcomeAlone toolkit files first = .error reason ∧
          outcome = .broken [] [] (.extraction reason))) ∧
      ((∀ path ∈ paths, reaches path ∧ ¬raises path) →
        (∀ error, shown = .error error → outcome = .broken [] [] (.report error)) ∧
        ∀ text, shown = .ok text → outcome.stdout = text ∧
          (outcome.exitCode = 1 ↔ ∃ path ∈ paths, fails path) ∧
          (outcome.exitCode = 0 ↔ ∀ path ∈ paths, ¬fails path)) ∧
      ((∀ path ∈ paths, reaches path ∧ Session.PrintsPlainly toolkit files path) →
        (outcome.exitCode = 2 ↔ ∃ path ∈ paths, raises path) ∧
        ((∀ path ∈ paths, ¬raises path) → shown = .ok outcome.stdout ∧
          (outcome.exitCode = 1 ↔ ∃ path ∈ paths, fails path) ∧
          (outcome.exitCode = 0 ↔ ∀ path ∈ paths, ¬fails path))) := by
  intro reaches raises fails finished fragments shown
  obtain ⟨outcome, hOutcome⟩ := @exists_extractFiles _ _ scheduler _ json hPositive apart
  refine ⟨scheduler.finished_perm hPositive paths, outcome, hOutcome, ?_, ?_,
    outcome_of_returns hOutcome hPositive apart, fun hPlain => ?_⟩
  · rintro world settings arguments rfl rfl rfl hCollected
    rw [extract, hCollected]
    exact hOutcome
  · intro before first after hFinished hBefore
    exact ⟨outcome_of_first_raises hOutcome hPositive apart hFinished hBefore,
      outcome_of_first_not_reaches hOutcome hPositive apart hFinished hBefore⟩
  · have hReturned : (∀ path ∈ paths, ¬raises path) → shown = .ok outcome.stdout ∧
        (outcome.exitCode = 1 ↔ ∃ path ∈ paths, fails path) ∧
        (outcome.exitCode = 0 ↔ ∀ path ∈ paths, ¬fails path) := by
      intro hNone
      obtain ⟨-, hText⟩ := outcome_of_returns hOutcome hPositive apart
        fun path hPath => ⟨(hPlain path hPath).1, hNone path hPath⟩
      obtain ⟨text, hShown, -⟩ := @shown_yields _ _ _ json hPlain
      obtain ⟨rfl, hStatus⟩ := hText text hShown
      exact ⟨hShown, hStatus⟩
    refine ⟨⟨fun hCode => ?_, ?_⟩, hReturned⟩
    · by_contra hRaises
      have hNone : ∀ path ∈ paths, ¬raises path :=
        fun path hPath hRaised => hRaises ⟨path, hPath, hRaised⟩
      obtain ⟨-, hOne, hZero⟩ := hReturned hNone
      by_cases hFails : ∃ path ∈ paths, fails path
      · have := hOne.mpr hFails
        omega
      · have := hZero.mpr fun path hPath hFailed => hFails ⟨path, hPath, hFailed⟩
        omega
    · exact exitCode_of_plain_raises hOutcome hPositive apart hPlain

/-- An exported query without the import of its tag, behind as many spaces. -/
def bareText : String :=
  String.ofList (List.replicate 28 ' ') ++ "export const q=graphql`\x7ba\x7d`"

/-- A toolkit that knows the text without an import, too. -/
def bareExport : Toolkit :=
  { Session.queriesOnly with
    grammar := fun language text =>
      if text = bareText then .phrase .program 0 55 none ((Session.queryNodes 0).drop 1)
      else Session.queriesOnly.grammar language text }

/-- A directory whose name is an opening bracket, with a query in one file and a query without
an import in another. A file beside the directory has a query without an import, too. -/
def bracketFiles : Files := fun path =>
  if path = "[/].js" then .ok ("x;" ++ Session.queryText)
  else if path = "[/].jsx" || path = "b.jsx" then .ok bareText
  else Session.mixedFiles path

theorem bareExport_reaches (path : String) (h : namesFile path = true) :
    bareExport.Reaches bracketFiles path :=
  ⟨h, fun _ _ => rfl⟩

theorem raisesAlone_bareExport {path : String} (hName : namesFile path = true)
    (hNone : (Session.outcomeAlone bareExport bracketFiles path).toOption = none) :
    Session.RaisesAlone bareExport bracketFiles path := by
  refine (Session.raisesAlone_or_returns (bareExport_reaches path hName)).resolve_right ?_
  rintro ⟨fragments, hReturned⟩
  rw [hReturned] at hNone
  cases hNone

/-- The path of a sound file ends a style that is not open. As data its fragment is printed,
but not in a table. Of two files that break off, one has a line that can be printed. It depends
on which of them is done with first whether the status is 2. -/
theorem exitCode_extractFiles_bracketFiles :
    (¬Session.FailsAlone bareExport bracketFiles "[/].js" ∧
        (∃ outcome, extractFiles bareExport bracketFiles Schedule.inOrder ["[/].js"] true =
          some outcome ∧ outcome.exitCode = 0) ∧
        ∃ outcome, extractFiles bareExport bracketFiles Schedule.inOrder ["[/].js"] false =
          some outcome ∧ outcome.exitCode = 1) ∧
      Session.RaisesAlone bareExport bracketFiles "[/].jsx" ∧
      Session.RaisesAlone bareExport bracketFiles "b.jsx" ∧
      (∃ outcome, extractFiles bareExport bracketFiles Schedule.inOrder ["[/].jsx", "b.jsx"] true =
        some outcome ∧ outcome.exitCode = 1) ∧
      ∃ outcome, extractFiles bareExport bracketFiles Session.swapped ["[/].jsx", "b.jsx"] true =
        some outcome ∧ outcome.exitCode = 2 := by
  have hName : namesFile "[/].js" = true := by decide +kernel
  have hApart : bareExport.KeysApart [⟨bracketFiles, "[/].js"⟩] := by decide +kernel
  have hApart' : bareExport.KeysApart (["[/].jsx", "b.jsx"].map (Call.mk bracketFiles)) := by
    decide +kernel
  have hReaches := bareExport_reaches "[/].js" hName
  have hReturns : ¬Session.RaisesAlone bareExport bracketFiles "[/].js" := by
    intro hRaises
    have hSome : (Session.outcomeAlone bareExport bracketFiles "[/].js").toOption.isSome := by
      decide +kernel
    rw [hRaises] at hSome
    cases hSome
  have hRaises : Session.RaisesAlone bareExport bracketFiles "[/].jsx" :=
    raisesAlone_bareExport (by decide +kernel) (by decide +kernel)
  have hRaises' : Session.RaisesAlone bareExport bracketFiles "b.jsx" :=
    raisesAlone_bareExport (by decide +kernel) (by decide +kernel)
  have hSound : ¬Session.FailsAlone bareExport bracketFiles "[/].js" := by
    have hReports : Session.reportsAlone bareExport bracketFiles "[/].js" = [] := by
      decide +kernel
    exact (Session.reportsAlone_eq_nil_iff hReaches hReturns).mp hReports
  obtain ⟨-, data, hData, -, -, hShown, -⟩ := exitCode_extractFiles bareExport bracketFiles
    Schedule.inOrder ["[/].js"] true (by decide) hApart
  obtain ⟨-, table, hTable, -, -, hTabled, -⟩ := exitCode_extractFiles bareExport bracketFiles
    Schedule.inOrder ["[/].js"] false (by decide) hApart
  obtain ⟨-, early, hEarly, -, hFirst, -⟩ := exitCode_extractFiles bareExport bracketFiles
    Schedule.inOrder ["[/].jsx", "b.jsx"] true (by decide) hApart'
  obtain ⟨-, late, hLate, -, hSecond, -⟩ := exitCode_extractFiles bareExport bracketFiles
    Session.swapped ["[/].jsx", "b.jsx"] true (by decide) hApart'
  have hAll : ∀ path ∈ ["[/].js"], bareExport.Reaches bracketFiles path ∧
      ¬Session.RaisesAlone bareExport bracketFiles path :=
    List.forall_mem_singleton.mpr ⟨hReaches, hReturns⟩
  refine ⟨⟨hSound, ⟨data, hData, ?_⟩, table, hTable, ?_⟩, hRaises, hRaises',
    ⟨early, hEarly, ?_⟩, late, hLate, ?_⟩
  · obtain ⟨-, -, hZero⟩ := (hShown hAll).2 _ rfl
    exact hZero.mpr (List.forall_mem_singleton.mpr hSound)
  · have hNone : (Report.table (["[/].js"].flatMap
        (Session.fragmentsAlone bareExport bracketFiles))).toOption = none := by
      decide +kernel
    cases hPrinted : Report.table (["[/].js"].flatMap
        (Session.fragmentsAlone bareExport bracketFiles)) with
    | error error =>
        rw [(hTabled hAll).1 error hPrinted]
        rfl
    | ok text => rw [hPrinted] at hNone; cases hNone
  · have hNone : (Report.fatal (.ambientTag (cleanPath "[/].jsx"))).toOption = none := by
      decide +kernel
    obtain ⟨-, hError⟩ := (hFirst [] "[/].jsx" ["b.jsx"] (by decide +kernel) (by simp)).1 hRaises
    cases hLine : Report.fatal (.ambientTag (cleanPath "[/].jsx")) with
    | error error =>
        rw [hError error hLine]
        rfl
    | ok text => rw [hLine] at hNone; cases hNone
  · have hPlain : Report.Plain (Fault.ambientTag (cleanPath "b.jsx")).message :=
      ⟨by decide +kernel, by decide +kernel⟩
    obtain ⟨text, hLine, -⟩ := Report.fatal_yields hPlain
    rw [((hSecond [] "b.jsx" ["[/].jsx"] (by decide +kernel) (by simp)).1 hRaises').1 text hLine]

end Command

end ComponentQueries
