import ComponentQueries.Diagnostic
import ComponentQueries.Proofs.Extraction.Faults
import ComponentQueries.Proofs.GraphQL.ErrorPlaces
import ComponentQueries.Proofs.SyntaxTree.NodeBuilders
import ComponentQueries.Proofs.SyntaxTree.TemplateBodies

/-! Errors inside a query and their places in the file. A location of the query and the point
where the query begins add up to the point of the file at which the same character stands. -/
namespace ComponentQueries

open Text (pointAfter lastLine)

namespace GraphQL

theorem locateFrom_cons {c : Char} (h : c ≠ '\r') (offset line lineStart index : Nat)
    (rest : List Char) :
    locateFrom offset line lineStart index (c :: rest) =
      if offset ≤ index then ⟨line, offset + 1 - lineStart⟩
      else if c = '\n' then locateFrom offset (line + 1) (index + 1) (index + 1) rest
      else locateFrom offset line lineStart (index + 1) rest := by
  rw [locateFrom]
  · simp only [h, or_false]
  · exact fun _ hReturn _ => h hReturn

/-- The location behind the beginning of a text. -/
def locationAfter (before : List Char) : Location :=
  ⟨1 + before.count '\n', 1 + (lastLine before).length⟩

/-- The rest of a text is located as the whole text is, if what stands before it was counted.
The induction moves one character after another to what was counted. -/
theorem locateFrom_eq {counted rest : List Char} {offset line lineStart : Nat}
    (hReturns : '\r' ∉ rest) (hLine : line = 1 + counted.count '\n')
    (hStart : lineStart + (lastLine counted).length = counted.length)
    (hFirst : counted.length ≤ offset) (hLast : offset ≤ counted.length + rest.length) :
    locateFrom offset line lineStart counted.length rest =
      locationAfter ((counted ++ rest).take offset) := by
  induction rest generalizing counted line lineStart with
  | nil =>
      have hOffset : counted.length = offset := Nat.le_antisymm hFirst hLast
      rw [locateFrom, List.append_nil, ← hOffset, List.take_length, locationAfter, hLine,
        Location.mk.injEq]
      omega
  | cons c rest ih =>
      rw [List.mem_cons, not_or] at hReturns
      rw [locateFrom_cons (Ne.symm hReturns.1)]
      have hMoved : counted ++ c :: rest = (counted ++ [c]) ++ rest := by simp
      have hCounted : counted.length + 1 = (counted ++ [c]).length := by simp
      rw [List.length_cons] at hLast
      split
      · next hReached =>
          have hOffset : counted.length = offset := Nat.le_antisymm hFirst hReached
          rw [← hOffset, List.take_left, locationAfter, hLine, Location.mk.injEq]
          omega
      · next hReached =>
          split
          · next hFeed =>
              rw [hMoved, hCounted]
              refine ih hReturns.2 ?_ ?_ (by omega) (by omega)
              · simp [hLine, hFeed, Nat.add_assoc]
              · simp [Text.lastLine_concat, hFeed]
          · next hFeed =>
              rw [hMoved, hCounted]
              refine ih hReturns.2 ?_ ?_ (by omega) (by omega)
              · simp [hLine, hFeed]
              · rw [Text.lastLine_concat, if_neg hFeed, List.length_append, ← hCounted, ← hStart]
                rfl

/-- In a text with plain line feeds, the line of an offset counts those before it, and the
column counts what stands behind the last of them. -/
theorem locate_eq_locationAfter {text : List Char} {offset : Nat} (hReturns : '\r' ∉ text)
    (hOffset : offset ≤ text.length) :
    locate text offset = locationAfter (text.take offset) :=
  @locateFrom_eq [] text offset 1 0 hReturns rfl rfl (Nat.zero_le _) (by simpa using hOffset)

end GraphQL

/-- A point of the file from a location of the query: the line and the column are those of the
point behind the part of the query, whatever text they are looked up in. -/
theorem positionInFile_locationAfter (text before part : List Char) :
    positionInFile text (pointAfter before) (GraphQL.locationAfter part).line
        (GraphQL.locationAfter part).column =
      ⟨(pointAfter (before ++ part)).line, (pointAfter (before ++ part)).column,
        Text.offsetOf text (pointAfter (before ++ part)).line
          (pointAfter (before ++ part)).column⟩ := by
  rw [Text.pointAfter_append]
  rfl

/-- If the query is a part of the file, the point is that behind all that stands before. -/
theorem positionInFile_eq_pointAfter (before part after : List Char) :
    positionInFile (before ++ (part ++ after)) (pointAfter before)
        (GraphQL.locationAfter part).line (GraphQL.locationAfter part).column =
      pointAfter (before ++ part) := by
  have hPoint := Text.isPoint_pointAfter (before ++ part) after
  rw [positionInFile_locationAfter, ← List.append_assoc, hPoint.offsetOf_eq]

namespace Source

variable {source : Source} {call : Cursor} {quoted : String} {error : FragmentError}
  {range : Range}

/-- A fault inside a query comes from the first error that parsing its text meets. -/
theorem Faulty.exists_parse_error (h : source.Faulty call (.fragmentSyntax quoted error range)) :
    ∃ template, call.child? .arguments = some template ∧
      template.kind = .templateString ∧ range = source.templateRange template ∧
      ∃ cause, GraphQL.Document.parse (source.templateBody template) = .error cause ∧
        error = .ofSyntaxError (source.templateBody template) cause := by
  cases h with
  | body hRecognised hTemplate _ hBody =>
      refine ⟨_, hTemplate, Cursor.isTaggedTemplate_kind hRecognised.1 hTemplate, ?_⟩
      cases hBody with
      | lexical hScan => exact ⟨rfl, _, GraphQL.parse_eq_error_of_minify hScan, rfl⟩
      | grammatical _ _ hParse => exact ⟨rfl, _, hParse, rfl⟩

/-- A fault inside a query divides the file: `before` ends where the query begins, and `part`
is the query up to the error. -/
theorem Faulty.exists_error_place (h : source.Faulty call (.fragmentSyntax quoted error range))
    (hReturns : '\r' ∉ source.tree.text) (hBodies : source.tree.BodiesOnBoundaries)
    (hCall : source.tree.top.Below call) :
    ∃ template cause before part rest after,
      call.child? .arguments = some template ∧ range = source.templateRange template ∧
      GraphQL.Document.parse (source.templateBody template) = .error cause ∧
      source.templateBody template = part ++ rest ∧ part.length = cause.offset ∧
      error = ⟨cause.message, some (GraphQL.locationAfter part)⟩ ∧
      source.tree.text = before ++ (part ++ (rest ++ after)) ∧
      Text.byteLength before = template.node.start + 1 ∧ range.start = pointAfter before := by
  obtain ⟨template, hTemplate, hKind, rfl, cause, hParse, rfl⟩ := h.exists_parse_error
  obtain ⟨before, after, hText, hBefore, hStart⟩ :=
    exists_templateBody hBodies (hCall.role hTemplate) hKind
  have hOffset := GraphQL.parse_error_offset_le hParse
  have hBody : '\r' ∉ source.templateBody template := by
    rw [hText] at hReturns
    simp only [List.mem_append, not_or] at hReturns
    exact hReturns.2.1
  refine ⟨template, cause, before, (source.templateBody template).take cause.offset,
    (source.templateBody template).drop cause.offset, after, hTemplate, rfl, hParse,
    (List.take_append_drop _ _).symm, List.length_take_of_le hOffset, ?_, ?_, hBefore, hStart⟩
  · rw [FragmentError.ofSyntaxError, GraphQL.locate_eq_locationAfter hBody hOffset]
  · rw [← List.append_assoc (List.take _ _), List.take_append_drop, hText]

end Source

namespace Diagnostic

/-- The report of a fault inside a query names the point where its location leads to. -/
theorem ofFault_fragmentSyntax_location (quoted message path : String) (location : GraphQL.Location)
    (range : Range) (text : List Char) (highlight : Bool) :
    (ofFault (.fragmentSyntax quoted ⟨message, some location⟩ range) (some text) path
      highlight).location =
        some ⟨positionInFile text range.start location.line location.column, none⟩ :=
  rfl

/-- An error inside a query is reported where the file has it. The point lies as many
characters behind the beginning of the query as the parser has gone over, its line and column
are those of that offset in the file, and the character there is the one that the parser
stopped at. -/
theorem fragmentSyntax_points_at_error {tree : SyntaxTree} {settings : Settings} {call : Cursor}
    {quoted : String} {error : FragmentError} {range : Range} (hReturns : '\r' ∉ tree.text)
    (hBodies : tree.BodiesOnBoundaries) (hCall : tree.top.Below call)
    (hFault : (Source.ofTree tree settings).readTag call =
      .error (.fragmentSyntax quoted error range)) (path : String) (highlight : Bool) :
    ∃ template body cause start,
      call.child? .arguments = some template ∧
      body = (Source.ofTree tree settings).templateBody template ∧
      range = (Source.ofTree tree settings).templateRange template ∧
      GraphQL.Document.parse body = .error cause ∧ cause.offset ≤ body.length ∧
      error = ⟨cause.message, some (GraphQL.locationAfter (body.take cause.offset))⟩ ∧
      (ofFault (.fragmentSyntax quoted error range) (some tree.text) path highlight).location =
        some ⟨start, none⟩ ∧
      start.offset = range.start.offset + cause.offset ∧
      start = Text.positionAt tree.text
        (template.node.start + 1 + Text.byteLength (body.take cause.offset)) ∧
      start = pointAfter (tree.text.take start.offset.toNat) ∧
      ∀ c, body[cause.offset]? = some c → tree.text[start.offset.toNat]? = some c := by
  obtain ⟨template, cause, before, part, rest, after, hTemplate, rfl, hParse, hBody, hPart, rfl,
    hText, hBefore, hStart⟩ :=
      (Source.readTag_eq_error_iff.mp hFault).exists_error_place hReturns hBodies hCall
  have hText : tree.text = before ++ (part ++ (rest ++ after)) := hText
  have hTaken : (part ++ rest).take cause.offset = part := List.take_left' hPart
  have hToNat : (pointAfter (before ++ part)).offset.toNat = (before ++ part).length := rfl
  refine ⟨template, _, cause, pointAfter (before ++ part), hTemplate, rfl, rfl, hParse, ?_⟩
  rw [hBody, hTaken, hToNat, hText, ofFault_fragmentSyntax_location, hStart,
    positionInFile_eq_pointAfter]
  refine ⟨?_, rfl, rfl, ?_, ?_, ?_, ?_⟩
  · rw [List.length_append]
    omega
  · simp [pointAfter, hPart]
  · rw [← hBefore, ← Text.byteLength_append, ← List.append_assoc before,
      Text.positionAt_eq_pointAfter]
  · rw [← List.append_assoc before, List.take_left]
  · intro c hChar
    rw [← hPart, List.getElem?_append_right (Nat.le_refl _), Nat.sub_self] at hChar
    rw [← List.append_assoc before, List.getElem?_append_right (Nat.le_refl _), Nat.sub_self]
    cases rest with
    | nil => cases hChar
    | cons found others => exact hChar

/-- The tree of ``import{graphql}from"gatsby";`` followed by ``let ö=graphql`#ü``, a line feed
and ``{a(}`;``. -/
def unclosedArguments : SyntaxTree :=
  ⟨.phrase .program 0 53 none
    [.tagImport 0,
      .phrase .lexicalDeclaration 28 53 none
        [.token "let" 28,
          .phrase .variableDeclarator 32 52 none
            [.phrase .identifier 32 34 (some .name) [], .token "=" 34,
              .phrase .callExpression 35 52 (some .value)
                [.phrase .identifier 35 42 (some .function) [],
                  .quoted .templateString "`" 42 52 (some .arguments)]],
          .token ";" 52]],
    ("import\x7bgraphql\x7dfrom\"gatsby\";" ++
      "let ö=graphql`#ü\n\x7ba(\x7d`;").toList, "a.js", .javascript⟩

/-- What is wrong with the query, and the place of the whole query. -/
def unclosedArgumentsFault : Fault :=
  .fragmentSyntax "#ü\n\x7ba(\x7d" ⟨"Syntax Error: Expected Name, found '\x7d'.", some ⟨2, 4⟩⟩
    ⟨⟨1, 43, 42⟩, some ⟨2, 5, 49⟩⟩

/-- The parser stops behind six characters of the query, at the fourth column of its second
line. That is the character 48 of the file, which begins at byte 50. -/
theorem fragmentSyntax_points_at_error_unclosedArguments :
    '\r' ∉ unclosedArguments.text ∧ unclosedArguments.BodiesOnBoundaries ∧
    ∃ call, unclosedArguments.top.Below call ∧
      (Source.ofTree unclosedArguments {}).readTag call = .error unclosedArgumentsFault ∧
      ∃ body cause, GraphQL.Document.parse body = .error cause ∧ cause.offset = 6 ∧
        (ofFault unclosedArgumentsFault (some unclosedArguments.text) "a.js" false).location =
          some ⟨⟨2, 4, 48⟩, none⟩ ∧
        Text.positionAt unclosedArguments.text 50 = ⟨2, 4, 48⟩ ∧
        unclosedArguments.text[48]? = some '\x7d' := by
  have hReturns : '\r' ∉ unclosedArguments.text := by decide +kernel
  have hBodies : unclosedArguments.BodiesOnBoundaries := by decide +kernel
  have hFound : ∃ call ∈ unclosedArguments.top.walk,
      ((Source.ofTree unclosedArguments {}).readTag call).map (fun _ => ()) =
        .error unclosedArgumentsFault := by
    decide +kernel
  obtain ⟨call, hCall, hFound⟩ := hFound
  have hBelow := Cursor.mem_walk_iff.mp hCall
  have hFault : (Source.ofTree unclosedArguments {}).readTag call =
      .error unclosedArgumentsFault := by
    cases hRead : (Source.ofTree unclosedArguments {}).readTag call with
    | ok tag =>
        rw [hRead] at hFound
        cases hFound
    | error fault =>
        rw [hRead] at hFound
        cases hFound
        rfl
  have hLocation : (ofFault unclosedArgumentsFault (some unclosedArguments.text) "a.js"
      false).location = some ⟨⟨2, 4, 48⟩, none⟩ := by
    decide +kernel
  obtain ⟨template, body, cause, start, -, -, -, hParse, -, -, hReported, hOffset, -⟩ :=
    fragmentSyntax_points_at_error hReturns hBodies hBelow hFault "a.js" false
  obtain rfl : ⟨2, 4, 48⟩ = start :=
    congrArg Range.start (Option.some.inj (hLocation.symm.trans hReported))
  have hCause : (48 : Int) = 42 + cause.offset := hOffset
  exact ⟨hReturns, hBodies, call, hBelow, hFault, body, cause, hParse, by omega, hLocation,
    by decide +kernel, by decide +kernel⟩

end Diagnostic

end ComponentQueries
