import ComponentQueries.Digest.Md5
import ComponentQueries.Proofs.Session.Answers
import ComponentQueries.Proofs.SyntaxTree.NodeBuilders

/-! Where the keys tell apart all versions of files that are read, nobody can see from the
answers to calls that there is a cache. -/
namespace ComponentQueries

namespace Toolkit

/-- The versions of files that calls read. -/
def sources (toolkit : Toolkit) (calls : List Call) : List SourceFile :=
  calls.filterMap fun call => (toolkit.readSource call.files call.path).toOption

theorem mem_sources_iff {toolkit : Toolkit} {calls : List Call} {source : SourceFile} :
    source ∈ toolkit.sources calls ↔
      ∃ call ∈ calls, toolkit.readSource call.files call.path = .ok source := by
  simp only [sources, List.mem_filterMap]
  refine exists_congr fun call => and_congr_right fun _ => ?_
  cases toolkit.readSource call.files call.path with
  | error reason => simp [Except.toOption]
  | ok read => simp [Except.toOption]

/-- No two versions of files that calls read share a key. -/
def KeysApart (toolkit : Toolkit) (calls : List Call) : Prop :=
  ∀ first ∈ toolkit.sources calls, ∀ second ∈ toolkit.sources calls,
    first.key = second.key → first.path = second.path ∧ first.text = second.text

instance (toolkit : Toolkit) (calls : List Call) : Decidable (toolkit.KeysApart calls) :=
  inferInstanceAs (Decidable (∀ first ∈ _, ∀ second ∈ _, _ → _ ∧ _))

theorem KeysApart.mono {toolkit : Toolkit} {few all : List Call} (apart : toolkit.KeysApart all)
    (hSubset : few ⊆ all) : toolkit.KeysApart few := by
  have hSources : toolkit.sources few ⊆ toolkit.sources all := by
    intro source hSource
    obtain ⟨call, hCall, hRead⟩ := mem_sources_iff.mp hSource
    exact mem_sources_iff.mpr ⟨call, hSubset hCall, hRead⟩
  intro first hFirst second hSecond
  exact apart first (hSources hFirst) second (hSources hSecond)

/-- Two extractions that agree on the file of a call give one answer to it. -/
theorem answer_congr {toolkit : Toolkit} {call : Call}
    {left right : SourceFile → Except Failure FileResult}
    (agree : ∀ source, toolkit.readSource call.files call.path = .ok source →
      left source = right source) :
    toolkit.answer call left = toolkit.answer call right := by
  rw [answer, answer]
  cases hRead : toolkit.readSource call.files call.path with
  | error reason =>
      cases reason with
      | fault _ | nullCharacter | unencodable _ | negativeConcurrency => rfl
  | ok source => simp only [agree source hRead]

end Toolkit

namespace Session

theorem extraction_empty (toolkit : Toolkit) (source : SourceFile) :
    empty.extraction toolkit source = toolkit.extract source.path source.text := by
  rw [extraction_eq]
  rfl

/-- After calls, extraction of a file comes to what it would without a cache, if no other
version of a file that they read has its key. -/
theorem extraction_after {toolkit : Toolkit} {past : List Call} {source : SourceFile}
    (hApart : ∀ other ∈ toolkit.sources past, other.key = source.key →
      other.path = source.path ∧ other.text = source.text) :
    (empty.after toolkit past).extraction toolkit source =
      toolkit.extract source.path source.text := by
  rw [extraction_eq, get?_after]
  cases hOwner : past.findSome? (toolkit.settled? (·.key = source.key)) with
  | none => rfl
  | some entry =>
      obtain ⟨owner, result⟩ := entry
      obtain ⟨call, hCall, hSettled⟩ := List.exists_of_findSome?_eq_some hOwner
      obtain ⟨hRead, -, hKey, hExtract⟩ := Toolkit.settled?_eq_some_iff.mp hSettled
      have hMem : owner ∈ toolkit.sources past :=
        Toolkit.mem_sources_iff.mpr ⟨call, hCall, hRead⟩
      obtain ⟨hPath, hText⟩ := hApart owner hMem (of_decide_eq_true hKey)
      rw [← hPath, ← hText, hExtract]
      rfl

/-- A call after others is answered as in a new session. -/
theorem observe_after {toolkit : Toolkit} {past : List Call} {call : Call}
    (apart : toolkit.KeysApart (past ++ [call])) :
    (empty.after toolkit past).observe toolkit call = empty.observe toolkit call := by
  rw [observe_eq, observe_eq]
  apply Toolkit.answer_congr
  intro source hRead
  have hSource : source ∈ toolkit.sources (past ++ [call]) :=
    Toolkit.mem_sources_iff.mpr ⟨call, by simp, hRead⟩
  rw [extraction_empty, extraction_after]
  intro other hOther
  refine apart other ?_ source hSource
  simp only [Toolkit.sources, List.filterMap_append, List.mem_append] at hOther ⊢
  exact Or.inl hOther

/-- The calls that follow others are answered as in new sessions. The induction is on the
calls to come; what the cache holds is known from those that are past. -/
theorem answers_after {toolkit : Toolkit} {past calls : List Call}
    (apart : toolkit.KeysApart (past ++ calls)) :
    (empty.after toolkit past).answers toolkit calls = calls.map (empty.observe toolkit) := by
  induction calls generalizing past with
  | nil => rfl
  | cons call others ih =>
      have hFirst : toolkit.KeysApart (past ++ [call]) :=
        apart.mono (by simp)
      have hNext : (empty.after toolkit past).next toolkit call =
          empty.after toolkit (past ++ [call]) := by
        simp [after]
      rw [answers, List.map_cons, observe_after hFirst, hNext]
      rw [ih (by simpa using apart)]

/-- The logs of a session after calls are what it had, followed by what each answer has. -/
theorem adds_after (toolkit : Toolkit) (calls : List Call) (session : Session) :
    (session.after toolkit calls).diagnostics =
        session.diagnostics ++ (session.answers toolkit calls).flatMap Answer.diagnostics ∧
      (session.after toolkit calls).store.events =
        session.store.events ++ (session.answers toolkit calls).flatMap Answer.events := by
  induction calls generalizing session with
  | nil => simp [after, answers]
  | cons call others ih =>
      obtain ⟨hDiagnostics, hEvents⟩ := ih (session.next toolkit call)
      obtain ⟨-, hNewDiagnostics, hNewEvents⟩ := parseFile_shows toolkit session call
      rw [← observe_eq] at hNewDiagnostics hNewEvents
      simp only [after, List.foldl_cons] at hDiagnostics hEvents ⊢
      rw [hDiagnostics, hEvents, hNewDiagnostics, hNewEvents]
      simp [answers]

/-- Each call of a run returns or breaks off, reports, and tells the store as it would as
the only call of a new session. The logs at the end hold that and nothing else. -/
theorem answers_eq_of_keysApart (toolkit : Toolkit) (calls : List Call)
    (apart : toolkit.KeysApart calls) :
    let alone := calls.map (empty.observe toolkit)
    empty.answers toolkit calls = alone ∧
      (empty.after toolkit calls).diagnostics = alone.flatMap Answer.diagnostics ∧
      (empty.after toolkit calls).store.events = alone.flatMap Answer.events := by
  have hAnswers : empty.answers toolkit calls = calls.map (empty.observe toolkit) :=
    @answers_after toolkit [] calls apart
  obtain ⟨hDiagnostics, hEvents⟩ := adds_after toolkit calls empty
  rw [hAnswers] at hDiagnostics hEvents
  exact ⟨hAnswers, by simpa [empty] using hDiagnostics,
    by simpa [empty, ComponentStore.empty] using hEvents⟩

/-- The import of a tag and an exported query. -/
def queryText : String :=
  "import\x7bgraphql\x7dfrom\"gatsby\";export const q=graphql`\x7ba\x7d`"

/-- The nodes of the import and of the export, if they begin at an offset. -/
def queryNodes (offset : Nat) : List Node :=
  [.tagImport offset,
    .phrase .exportStatement (offset + 28) (offset + 55) none
      [.token "export" (offset + 28),
        .phrase .lexicalDeclaration (offset + 35) (offset + 55) (some .declaration)
          [.token "const" (offset + 35),
            .phrase .variableDeclarator (offset + 41) (offset + 55) none
              [.phrase .identifier (offset + 41) (offset + 42) (some .name) [],
                .token "=" (offset + 42),
                .phrase .callExpression (offset + 43) (offset + 55) (some .value)
                  [.phrase .identifier (offset + 43) (offset + 50) (some .function) [],
                    .quoted .templateString "`" (offset + 50) (offset + 55)
                      (some .arguments)]]]]]

/-- A toolkit for two texts: a name or nothing, a semicolon, and the query. -/
def twoTexts : Toolkit where
  settings := {}
  grammar := .ofTrees
    [((.javascript, "x;" ++ queryText), .phrase .program 0 57 none
        (.phrase (.other "expression_statement") 0 2 none
          [.phrase .identifier 0 1 none [], .token ";" 1] :: queryNodes 2)),
      ((.javascript, ";" ++ queryText), .phrase .program 0 56 none
        (.phrase (.other "empty_statement") 0 1 none [.token ";" 0] :: queryNodes 1))]
  preprocess := none
  digest := Digest.Md5.hexDigest

/-- A call for the only file that there is. -/
def callWith (path text : String) : Call :=
  ⟨fun other => if other = path then .ok text else .error "No such file or directory", path⟩

/-- A file is looked at twice, changes, and is gone. -/
def changingFile : List Call :=
  [callWith "a.js" ("x;" ++ queryText), callWith "a.js" ("x;" ++ queryText),
    callWith "a.js" (";" ++ queryText), ⟨(callWith "a.js" "").files, "b.js"⟩]

/-- The second call is served from the cache, the third is not, and the last one fails. -/
theorem answers_eq_of_keysApart_changingFile :
    twoTexts.KeysApart changingFile ∧
      (empty.after twoTexts changingFile).cache.size = 2 ∧
      (empty.after twoTexts changingFile).diagnostics.length = 1 ∧
      empty.answers twoTexts changingFile = changingFile.map (empty.observe twoTexts) := by
  have hApart : twoTexts.KeysApart changingFile := by decide +kernel
  exact ⟨hApart, by decide +kernel, by decide +kernel,
    (answers_eq_of_keysApart twoTexts changingFile hApart).1⟩

end Session

end ComponentQueries
