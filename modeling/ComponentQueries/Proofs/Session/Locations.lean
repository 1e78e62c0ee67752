import ComponentQueries.Proofs.Diagnostic.FragmentErrors
import ComponentQueries.Proofs.Extraction.Routes
import ComponentQueries.Proofs.Session.Attribution

/-! The places that reports name. They are taken from the version of the file that was parsed,
and the code frame is cut from the file itself, so the two agree where both texts have the
same lines. -/
namespace ComponentQueries

open Text (pointAfter lastLine IsPoint)

/-- The points that a range names. -/
def Range.ends (range : Range) : List Position :=
  range.start :: range.stop.toList

/-- A point that a fault of a kind is reported at. Its line and column are those of a point of
the version, and so is its offset, but that of an error inside a query is looked up in the
file. -/
def FaultKind.Places (kind : FaultKind) (version file : List Char) (point : Position)
    (before : List Char) : Prop :=
  before <+: version ∧ point.line = (pointAfter before).line ∧
    point.column = (pointAfter before).column ∧
    point.offset =
      if kind = .fragmentSyntax then Text.offsetOf file point.line point.column
      else before.length

/-- The file has a reported point exactly if it has the line and the column of the version,
and, where the offset is not looked up, at the same offset. -/
theorem FaultKind.Places.isPoint_iff {kind : FaultKind} {version file before : List Char}
    {point : Position} (h : kind.Places version file point before) :
    IsPoint file point ↔ ∃ above, above <+: file ∧
      above.count '\n' = before.count '\n' ∧
      (lastLine above).length = (lastLine before).length ∧
      (kind ≠ .fragmentSyntax → above.length = before.length) := by
  obtain ⟨-, hLine, hColumn, hOffset⟩ := h
  rw [Text.isPoint_iff]
  constructor
  · rintro ⟨above, below, hFile, rfl⟩
    simp only [pointAfter] at hLine hColumn hOffset
    refine ⟨above, ⟨below, hFile.symm⟩, by omega, by omega, fun hKind => ?_⟩
    rw [if_neg hKind] at hOffset
    omega
  · rintro ⟨above, ⟨below, rfl⟩, hFeeds, hLast, hLength⟩
    refine ⟨above, below, rfl, ?_⟩
    have hSame : point.line = (pointAfter above).line ∧
        point.column = (pointAfter above).column := by
      rw [hLine, hColumn]
      simp only [pointAfter]
      omega
    have hAt : point.offset = (pointAfter above).offset := by
      rw [hOffset]
      -- An offset that was looked up follows from the line and the column.
      split
      · rw [hSame.1, hSame.2, (Text.isPoint_pointAfter above below).offsetOf_eq]
      · next hKind =>
          have := hLength hKind
          simp only [pointAfter]
          omega
    obtain ⟨line, column, offset⟩ := point
    simp only at hSame hAt
    rw [hSame.1, hSame.2, hAt]

/-- A version that is the file itself has all points that are reported. -/
theorem FaultKind.Places.isPoint {kind : FaultKind} {file before : List Char} {point : Position}
    (h : kind.Places file file point before) : IsPoint file point :=
  h.isPoint_iff.mpr ⟨before, h.1, rfl, rfl, fun _ => rfl⟩

theorem FaultKind.exists_places_positionAt {kind : FaultKind} (hKind : kind ≠ .fragmentSyntax)
    (version file : List Char) (bytes : Nat) :
    ∃ before, kind.Places version file (Text.positionAt version bytes) before := by
  obtain ⟨before, after, rfl, hPoint⟩ := Text.exists_positionAt_eq version bytes
  refine ⟨before, ⟨after, rfl⟩, by rw [hPoint], by rw [hPoint], ?_⟩
  rw [hPoint, if_neg hKind]
  rfl

/-- Two offsets in bytes lead to points of the version. -/
theorem FaultKind.exists_places_rangeBetween {kind : FaultKind} (hKind : kind ≠ .fragmentSyntax)
    (version file : List Char) (start stop : Nat) :
    ∀ point ∈ (Text.rangeBetween version start stop).ends,
      ∃ before, kind.Places version file point before := by
  intro point hPoint
  simp only [Range.ends, Text.rangeBetween, Option.toList_some, List.mem_cons, List.not_mem_nil,
    or_false] at hPoint
  rcases hPoint with rfl | rfl
  · exact exists_places_positionAt hKind version file start
  · exact exists_places_positionAt hKind version file stop

/-- An error inside a query is reported on the line and at the column of the version, at the
offset that they have in the file. -/
theorem Source.Faulty.exists_places {source : Source} {call : Cursor} {quoted : String}
    {error : FragmentError} {body : Range}
    (h : source.Faulty call (.fragmentSyntax quoted error body))
    (hCall : source.tree.top.Below call) (hBodies : source.tree.BodiesOnBoundaries)
    (hReturns : '\r' ∉ source.tree.text) {file : List Char} {range : Range}
    (hPlace : Diagnostic.placeOf (.fragmentSyntax quoted error body) (some file) = some range) :
    ∀ point ∈ range.ends,
      ∃ before, FaultKind.fragmentSyntax.Places source.tree.text file point before := by
  obtain ⟨template, cause, before, part, rest, after, -, -, -, -, -, rfl, hText, -, hStart⟩ :=
    h.exists_error_place hReturns hBodies hCall
  cases hPlace
  intro point hPoint
  have hPoint : point = positionInFile file body.start (GraphQL.locationAfter part).line
      (GraphQL.locationAfter part).column := by
    simpa [Range.ends] using hPoint
  rw [hStart, positionInFile_locationAfter] at hPoint
  subst hPoint
  refine ⟨before ++ part, ⟨rest ++ after, ?_⟩, rfl, rfl, rfl⟩
  rw [hText, List.append_assoc]

/-- What is wrong with a template is reported at points of the text that it was found in. -/
theorem Source.Fails.exists_places {source : Source} {visit : Visit} {fault : Fault}
    (h : source.Fails visit fault) (hVisit : source.tree.top.Below visit.template)
    (hBodies : source.tree.BodiesOnBoundaries)
    (hReturns : fault.kind = .fragmentSyntax → '\r' ∉ source.tree.text) {file : List Char}
    {range : Range} (hPlace : Diagnostic.placeOf fault (some file) = some range) :
    ∀ point ∈ range.ends, ∃ before, fault.kind.Places source.tree.text file point before := by
  cases h with
  | notAsync =>
      cases hPlace
      exact FaultKind.exists_places_rangeBetween (by simp [Fault.kind]) _ file _ _
  | template hFaulty =>
      have hTemplate := hFaulty
      cases hFaulty with
      | undeclared => cases hPlace
      | interpolated =>
          cases hPlace
          exact FaultKind.exists_places_rangeBetween (by simp [Fault.kind]) _ file _ _
      | body _ _ _ hBody =>
          cases hBody with
          | empty =>
              cases hPlace
              exact FaultKind.exists_places_rangeBetween (by simp [Fault.kind]) _ file _ _
          | lexical => exact hTemplate.exists_places hVisit hBodies (hReturns rfl) hPlace
          | grammatical => exact hTemplate.exists_places hVisit hBodies (hReturns rfl) hPlace

namespace SyntaxTree

theorem parseFile_eq_ok {grammar : Grammar} {text path : String} {tree : SyntaxTree}
    (h : parseFile grammar text path = .ok tree) :
    ∃ language, tree = ⟨grammar language text, text.toList, path, language⟩ := by
  unfold parseFile parseAs at h
  dsimp only at h
  split at h
  · cases h
  · cases h
    exact ⟨_, rfl⟩

theorem parseFile_eq_error {grammar : Grammar} {text path : String} {range : Range}
    (h : parseFile grammar text path = .error (some range)) :
    ∃ start stop, range = Text.rangeBetween text.toList start stop := by
  unfold parseFile parseAs at h
  dsimp only at h
  split at h
  · obtain ⟨node, -, hRange⟩ := Option.map_eq_some_iff.mp (Except.error.inj h)
    exact ⟨node.start, node.stop, hRange.symm⟩
  · cases h

end SyntaxTree

/-- A parser of a language cuts templates between characters of the text. -/
def Grammar.CutsTemplates (grammar : Grammar) : Prop :=
  ∀ (language : Language) (text path : String),
    (⟨grammar language text, text.toList, path, language⟩ : SyntaxTree).BodiesOnBoundaries

/-- A text without a tree of its own has no templates, so only known trees matter. -/
theorem Grammar.cutsTemplates_ofTrees {trees : List ((Language × String) × Node)}
    (h : ∀ entry ∈ trees, ∀ path,
      (⟨entry.2, entry.1.2.toList, path, entry.1.1⟩ : SyntaxTree).BodiesOnBoundaries) :
    (ofTrees trees).CutsTemplates := by
  intro language text path
  unfold ofTrees
  cases hFound : trees.lookup (language, text) with
  | some node =>
      obtain ⟨before, after, rfl, -⟩ := List.lookup_eq_some_iff.mp hFound
      exact h ((language, text), node) (by simp) path
  | none =>
      intro template hBelow hKind
      rcases Cursor.below_iff.mp hBelow with rfl | ⟨child, hChild, -⟩
      · cases hKind
      · cases hChild

namespace Toolkit

variable {toolkit : Toolkit} {path text : String}

/-- The version of a file that is looked at: the file itself if the hook offers nothing, and
otherwise the first variant without a fault. -/
inductive LooksAt (toolkit : Toolkit) (path text : String) : String → Prop where
  | itself (plain : toolkit.variants path text = .ok []) : LooksAt toolkit path text text
  | variant {passed others : List String} {version : String} {tree : SyntaxTree}
      (offered : toolkit.variants path text = .ok (passed ++ version :: others))
      (broken : ∀ earlier ∈ passed,
        (SyntaxTree.parseFile toolkit.grammar earlier (cleanPath path)).toOption = none)
      (parsed : SyntaxTree.parseFile toolkit.grammar version (cleanPath path) = .ok tree) :
      LooksAt toolkit path text version

/-- Without a hook, nothing but the file itself is looked at. -/
theorem LooksAt.eq_text {version : String} (h : toolkit.LooksAt path text version)
    (hHook : toolkit.preprocess = none) : version = text := by
  cases h with
  | itself => rfl
  | variant offered =>
      have hNone : toolkit.variants path text = .ok [] := by simp only [variants, hHook]
      rw [hNone] at offered
      simp at offered

theorem exists_looksAt_of_tree {tree : SyntaxTree} (h : toolkit.tree path text = .ok tree) :
    ∃ version, toolkit.LooksAt path text version ∧
      SyntaxTree.parseFile toolkit.grammar version (cleanPath path) = .ok tree := by
  unfold Toolkit.tree at h
  split at h
  · cases h
  · next hPlain =>
      split at h
      · next hParsed =>
          cases h
          exact ⟨text, .itself hPlain, hParsed⟩
      · cases h
  · next variants _ hVariants =>
      dsimp only at h
      split at h
      · next found hFirst =>
          cases h
          obtain ⟨passed, version, others, rfl, hFound, hPassed⟩ :=
            List.findSome?_eq_some_iff.mp hFirst
          have hParsed : SyntaxTree.parseFile toolkit.grammar version (cleanPath path) =
              .ok tree := by
            cases hParse : SyntaxTree.parseFile toolkit.grammar version (cleanPath path) with
            | error location => rw [hParse] at hFound; cases hFound
            | ok parsed =>
                rw [hParse] at hFound
                cases hFound
                rfl
          exact ⟨version, .variant hVariants hPassed hParsed, hParsed⟩
      · cases h

/-- A place in a text without a tree is known only if the hook offers nothing. -/
theorem looksAt_of_tree_error {fault : Fault}
    (h : toolkit.tree path text = .error (.fault fault)) :
    fault.kind = .unparsable ∧ ∀ range, fault.location? = some range →
      toolkit.LooksAt path text text ∧
        ∃ start stop, range = Text.rangeBetween text.toList start stop := by
  unfold Toolkit.tree at h
  split at h
  · cases h
  · next hPlain =>
      split at h
      · cases h
      · next location hFailed =>
          cases h
          refine ⟨rfl, fun range hRange => ⟨.itself hPlain, ?_⟩⟩
          have hSome : location = some range := hRange
          exact SyntaxTree.parseFile_eq_error (hSome ▸ hFailed)
  · dsimp only at h
    split at h
    · cases h
    · cases h
      exact ⟨rfl, fun range hRange => nomatch hRange⟩

/-- Whatever fails in a file, it is reported at points of the version that was looked at. -/
theorem exists_places_of_extract {fault : Fault}
    (h : toolkit.extract path text = .error (.fault fault))
    (hTemplates : toolkit.grammar.CutsTemplates) {range : Range}
    (hPlace : Diagnostic.placeOf fault (some text.toList) = some range) :
    ∃ version, toolkit.LooksAt path text version ∧
      ((fault.kind = .fragmentSyntax → '\r' ∉ version.toList) → ∀ point ∈ range.ends,
        ∃ before, fault.kind.Places version.toList text.toList point before) := by
  unfold Toolkit.extract at h
  split at h
  · -- No tree: the place is that of the first fault of the file, which was not preprocessed.
    next hTree =>
      cases h
      obtain ⟨hKind, hLocated⟩ := looksAt_of_tree_error hTree
      have hRange : fault.location? = some range := by
        simpa only [Diagnostic.placeOf, hKind] using hPlace
      obtain ⟨hLooks, start, stop, rfl⟩ := hLocated range hRange
      refine ⟨text, hLooks, fun _ => ?_⟩
      exact FaultKind.exists_places_rangeBetween (by simp [hKind]) _ _ start stop
  · next tree hTree =>
      split at h
      · next hFault =>
          cases h
          obtain ⟨version, hLooks, hParsed⟩ := exists_looksAt_of_tree hTree
          obtain ⟨language, rfl⟩ := SyntaxTree.parseFile_eq_ok hParsed
          obtain ⟨visit, hVisit, hFails⟩ := Extraction.exists_fails hFault
          have hCall := (Source.mem_visits_iff.mp hVisit).place
          refine ⟨version, hLooks, fun hReturns => ?_⟩
          exact hFails.exists_places hCall (hTemplates language version _) hReturns hPlace
      · cases h

theorem files_of_readSource {files : Files} {source : SourceFile}
    (h : toolkit.readSource files path = .ok source) : files path = .ok source.text := by
  unfold readSource at h
  split at h
  · split at h
    · cases h
    · next hText =>
        split at h
        · cases h
        · cases h
          exact hText
  · cases h

end Toolkit

/-- The code frame of a fault shows its place in the text of the file. -/
theorem Diagnostic.exists_codeFrame_of_location {fault : Fault} {text : List Char} {path : String}
    {highlight : Bool} {range : Range}
    (h : (ofFault fault (some text) path highlight).location = some range) :
    ∃ message, (ofFault fault (some text) path highlight).codeFrame =
      some (CodeFrame.render text range.start range.stop message highlight) := by
  have hPlace : placeOf fault (some text) = some range := h
  simp only [ofFault, hPlace, Option.bind_some, Option.map_some]
  exact ⟨_, rfl⟩

namespace Session

/-- A report with a place is that of a fault in a file that was read. -/
theorem exists_fault_of_report {toolkit : Toolkit} {session : Session} {call : Call}
    {diagnostic : Diagnostic} (hReport : diagnostic ∈ (session.observe toolkit call).diagnostics)
    {range : Range} (hLocation : diagnostic.location = some range) :
    ∃ text fault, call.files call.path = .ok text ∧
      toolkit.extract call.path text = .error (.fault fault) ∧
      diagnostic = Diagnostic.ofFault fault (some text.toList) call.path
        toolkit.settings.highlightCodeFrames := by
  rw [observe_eq, Toolkit.answer] at hReport
  split at hReport
  · next fault hRead =>
      obtain ⟨cause, rfl⟩ := Toolkit.readSource_eq_fault hRead
      rw [List.mem_singleton.mp hReport] at hLocation
      cases hLocation
  · cases hReport
  · next source hRead =>
      refine ⟨source.text, ?_⟩
      have hPath := (Toolkit.readSource_eq_ok hRead).1
      split at hReport
      · rw [extraction_eq] at hReport
        cases hKept : session.cache.get? source.key with
        | some kept =>
            rw [hKept] at hReport
            cases hReport
        | none =>
            rw [hKept, hPath] at hReport
            rcases hFailure : toolkit.extract call.path source.text with (fault | message) | result
            · rw [hFailure] at hReport
              dsimp only [Answer.ofExtraction] at hReport
              split at hReport
              · cases hReport
              · refine ⟨fault, Toolkit.files_of_readSource hRead, rfl, ?_⟩
                rw [List.mem_singleton.mp hReport, hPath]
                rfl
            · rw [hFailure] at hReport
              rw [List.mem_singleton.mp hReport] at hLocation
              cases hLocation
            · rw [hFailure] at hReport
              cases hReport
      · cases hReport

/-- The ends of a reported place are points of the version of the file that was looked at,
while the code frame is cut from the file. An error inside a query is moved to the offset that
its line and column have in the file. So an end is a point of the file exactly if the file has
that line and column too, for all other faults at the same offset, and it always is one if the
version is the file itself, as it is without a hook. -/
theorem reported_place_of_version {toolkit : Toolkit} {session : Session} {call : Call}
    {diagnostic : Diagnostic} {range : Range} (hTemplates : toolkit.grammar.CutsTemplates)
    (hReport : diagnostic ∈ (session.observe toolkit call).diagnostics)
    (hLocation : diagnostic.location = some range) :
    ∃ text version kind, call.files call.path = .ok text ∧
      toolkit.LooksAt call.path text version ∧ (toolkit.preprocess = none → version = text) ∧
      diagnostic.kind = some kind ∧
      (∃ message, diagnostic.codeFrame = some (CodeFrame.render text.toList range.start range.stop
        message toolkit.settings.highlightCodeFrames)) ∧
      ((kind = .fragmentSyntax → '\r' ∉ version.toList) → ∀ point ∈ range.ends,
        (∃ before, kind.Places version.toList text.toList point before ∧
          (IsPoint text.toList point ↔ ∃ above, above <+: text.toList ∧
            above.count '\n' = before.count '\n' ∧
            (lastLine above).length = (lastLine before).length ∧
            (kind ≠ .fragmentSyntax → above.length = before.length))) ∧
        (version = text → IsPoint text.toList point)) := by
  obtain ⟨text, fault, hText, hFault, rfl⟩ := exists_fault_of_report hReport hLocation
  obtain ⟨version, hLooks, hPlaces⟩ :=
    Toolkit.exists_places_of_extract hFault hTemplates hLocation
  refine ⟨text, version, fault.kind, hText, hLooks, hLooks.eq_text, rfl,
    Diagnostic.exists_codeFrame_of_location hLocation, fun hReturns point hPoint => ?_⟩
  obtain ⟨before, hPlace⟩ := hPlaces hReturns point hPoint
  refine ⟨⟨before, hPlace, hPlace.isPoint_iff⟩, ?_⟩
  rintro rfl
  exact hPlace.isPoint

/-- A text with an expression in its template. -/
def interpolatedText : String :=
  "import\x7bgraphql\x7dfrom\"gatsby\";export const a=graphql`$\x7bb\x7d`"

/-- The tree of the text with a semicolon and a line feed before it. -/
def interpolatedTree : Node :=
  .phrase .program 0 58 none
    [.phrase (.other "empty_statement") 0 1 none [.token ";" 0], .tagImport 2,
      .phrase .exportStatement 30 58 none
        [.token "export" 30,
          .phrase .lexicalDeclaration 37 58 (some .declaration)
            [.token "const" 37,
              .phrase .variableDeclarator 43 58 none
                [.phrase .identifier 43 44 (some .name) [], .token "=" 44,
                  .phrase .callExpression 45 58 (some .value)
                    [.phrase .identifier 45 52 (some .function) [],
                      .phrase .templateString 52 58 (some .arguments)
                        [.token "`" 52,
                          .phrase .templateSubstitution 53 57 none
                            [.token "$\x7b" 53, .phrase .identifier 55 56 none [],
                              .token "\x7d" 56],
                          .token "`" 57]]]]]]

/-- A hook that puts a line before a text. -/
def lineBefore : Toolkit where
  settings := {}
  grammar := .ofTrees [((.javascript, ";\n" ++ interpolatedText), interpolatedTree)]
  preprocess := some fun _ text => .ok (some [";\n" ++ text])
  digest := Digest.Md5.hexDigest

/-- The fault is reported on the second line of a file that has only one. -/
theorem reported_place_of_version_lineBefore :
    lineBefore.grammar.CutsTemplates ∧
    ∃ diagnostic ∈ (empty.observe lineBefore (callWith "a.js" interpolatedText)).diagnostics,
      diagnostic.location = some ⟨⟨2, 52, 53⟩, some ⟨2, 56, 57⟩⟩ ∧
      ∃ version, lineBefore.LooksAt "a.js" interpolatedText version ∧
        version ≠ interpolatedText ∧ ¬IsPoint interpolatedText.toList ⟨2, 52, 53⟩ := by
  have hTemplates : lineBefore.grammar.CutsTemplates := by
    refine Grammar.cutsTemplates_ofTrees fun entry hEntry path => ?_
    obtain rfl := List.mem_singleton.mp hEntry
    show (⟨interpolatedTree, (";\n" ++ interpolatedText).toList, "", .javascript⟩ :
      SyntaxTree).BodiesOnBoundaries
    decide +kernel
  have hFound : ∃ diagnostic ∈
      (empty.observe lineBefore (callWith "a.js" interpolatedText)).diagnostics,
      diagnostic.kind = some .interpolation ∧
        diagnostic.location = some ⟨⟨2, 52, 53⟩, some ⟨2, 56, 57⟩⟩ := by
    decide +kernel
  obtain ⟨diagnostic, hReport, hInterpolation, hLocation⟩ := hFound
  obtain ⟨text, version, kind, hText, hLooks, -, hKind, -, hPoints⟩ :=
    reported_place_of_version hTemplates hReport hLocation
  obtain rfl : interpolatedText = text := by simpa [callWith] using hText
  obtain rfl : .interpolation = kind := Option.some.inj (hInterpolation.symm.trans hKind)
  obtain ⟨⟨before, hPlace, hGenuine⟩, hSame⟩ :=
    hPoints (fun hSyntax => nomatch hSyntax) ⟨2, 52, 53⟩ (by simp [Range.ends])
  have hOutside : ¬IsPoint interpolatedText.toList ⟨2, 52, 53⟩ := by
    rw [hGenuine]
    rintro ⟨above, hAbove, hFeeds, -⟩
    have hLine : (2 : Int) = 1 + before.count '\n' := hPlace.2.1
    have hLess := hAbove.sublist.count_le '\n'
    have hNone : interpolatedText.toList.count '\n' = 0 := by decide +kernel
    omega
  exact ⟨hTemplates, diagnostic, hReport, hLocation, version, hLooks,
    fun hVersion => hOutside (hSame hVersion), hOutside⟩

end Session

end ComponentQueries
