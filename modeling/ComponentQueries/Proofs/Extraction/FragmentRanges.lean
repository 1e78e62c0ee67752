import ComponentQueries.Proofs.Extraction.Reading
import ComponentQueries.Proofs.Extraction.Routes
import ComponentQueries.Proofs.SyntaxTree.NodeBuilders
import ComponentQueries.Proofs.SyntaxTree.TemplateBodies

/-! The ranges of fragments. However a template was found, the range of its fragment cuts the
text of the template out of the file. -/
namespace ComponentQueries

open Text (pointAfter)

/-- What stands between two points of a text. -/
theorem Text.extract_pointAfter (before part after : List Char) :
    (before ++ (part ++ after)).extract (pointAfter before).offset.toNat
      (pointAfter (before ++ part)).offset.toNat = part := by
  have hStart : (pointAfter before).offset.toNat = before.length := rfl
  have hStop : (pointAfter (before ++ part)).offset.toNat = (before ++ part).length := rfl
  have hSize : (before ++ part).length - before.length = part.length := by simp
  rw [hStart, hStop, List.extract_eq_take_drop, hSize, List.drop_left, List.take_left]

theorem Text.take_pointAfter (before after : List Char) :
    (before ++ after).take (pointAfter before).offset.toNat = before :=
  List.take_left' rfl

/-- The offset of a point between characters counts those before it. -/
theorem Text.exists_offset_eq {text : List Char} {start : Nat} (h : IsBoundary text start) :
    ∃ before after, text = before ++ after ∧ byteLength before = start ∧
      (positionAt text start).offset = before.length := by
  obtain ⟨before, after, rfl, rfl⟩ := h
  exact ⟨before, after, rfl, rfl, positionAt_offset before after⟩

namespace Extraction

/-- The range of a fragment cuts the text between the delimiters of one template out of the
file. Both its ends are points of the file, the fragment is that text without what the grammar
ignores, and its key counts the characters before the call of the tag. -/
theorem fragment_cut_from_file {tree : SyntaxTree} {path : String} {settings : Settings}
    {extraction : Extraction} {fragment : Fragment} (hTree : tree.OnBoundaries)
    (hTemplates : tree.TemplatesDelimited)
    (hResult : Extraction.ofTree tree path settings = .ok extraction)
    (hFragment : fragment ∈ extraction.fragments) :
    ∃ call template stop before body after stripped above,
      tree.top.Below call ∧ (Source.ofTree tree settings).Recognises call ∧
      call.child? .arguments = some template ∧
      tree.text = before ++ '`' :: (body ++ '`' :: after) ∧
      template.node.start = Text.byteLength before ∧
      template.node.stop = Text.byteLength before + Text.byteLength body + 2 ∧
      fragment.templateRange.stop = some stop ∧
      tree.text.extract fragment.templateRange.start.offset.toNat stop.offset.toNat = body ∧
      fragment.templateRange.start =
        pointAfter (tree.text.take fragment.templateRange.start.offset.toNat) ∧
      stop = pointAfter (tree.text.take stop.offset.toNat) ∧
      GraphQL.minify body = .ok stripped ∧ stripped ≠ [] ∧
      fragment.text = String.ofList stripped ∧ fragment.hash = fragmentHash fragment.text ∧
      above <+: tree.text ∧ Text.byteLength above = call.node.start ∧
      fragment.locationKey.1 = above.length := by
  obtain ⟨visit, hVisit, hRead⟩ := exists_visit_of_mem hResult hFragment
  obtain ⟨tag, queryType, hTag, -, rfl⟩ := Source.readVisit_eq_some hRead
  obtain ⟨hRecognised, template, hTemplate, hTag⟩ := Source.readTag_eq_some hTag
  obtain ⟨-, hBody, hHash, hRange, hKey⟩ := Source.readTemplate_eq_ok hTag
  obtain ⟨stripped, hStripped, hSome, hStrip, -⟩ := Source.readBody_eq_ok hBody
  have hCall : tree.top.Below visit.template := (Source.mem_visits_iff.mp hVisit).place
  obtain ⟨before, body, after, hText, hStart, hStop⟩ :=
    hTemplates.exists_body hTree (hCall.role hTemplate)
      (Cursor.isTaggedTemplate_kind hRecognised.1 hTemplate)
  have hSource : (Source.ofTree tree settings).tree.text =
      before ++ '`' :: (body ++ '`' :: after) := hText
  obtain ⟨hBodyEq, hRangeEq⟩ := Source.templateBody_eq hSource hStart hStop
  obtain ⟨above, below, hAbove, hCallStart, hOffset⟩ :=
    Text.exists_offset_eq (hTree visit.template hCall).1
  rw [hBodyEq] at hStripped
  have hEnds : tag.templateRange = ⟨pointAfter (before ++ ['`']),
      some (pointAfter (before ++ ['`'] ++ body))⟩ := hRange.trans hRangeEq
  have hSplit : tree.text = (before ++ ['`']) ++ (body ++ '`' :: after) := by simp [hText]
  have hSplit' : tree.text = (before ++ ['`'] ++ body) ++ '`' :: after := by simp [hText]
  refine ⟨visit.template, template, pointAfter (before ++ ['`'] ++ body), before, body, after,
    stripped, above, hCall, hRecognised, hTemplate, hText, hStart, hStop, ?_⟩
  simp only [Source.fragmentOf, hEnds]
  refine ⟨trivial, ?_, ?_, ?_, hStripped, hSome, hStrip, hHash, ?_, hCallStart, ?_⟩
  · rw [hSplit, Text.extract_pointAfter]
  · rw [hSplit, Text.take_pointAfter]
  · rw [hSplit', Text.take_pointAfter]
  · exact ⟨below, hAbove.symm⟩
  · rw [hKey]
    exact hOffset

/-- The tree of ``import{graphql}from"gatsby";`` followed by ``export const ö=graphql`#ü``, a
line feed and ``{a}` ``. -/
def exportedComment : SyntaxTree :=
  ⟨.phrase .program 0 60 none
    [.tagImport 0,
      .phrase .exportStatement 28 60 none
        [.token "export" 28,
          .phrase .lexicalDeclaration 35 60 (some .declaration)
            [.token "const" 35,
              .phrase .variableDeclarator 41 60 none
                [.phrase .identifier 41 43 (some .name) [], .token "=" 43,
                  .phrase .callExpression 44 60 (some .value)
                    [.phrase .identifier 44 51 (some .function) [],
                      .quoted .templateString "`" 51 60 (some .arguments)]]]]],
    ("import\x7bgraphql\x7dfrom\"gatsby\";" ++
      "export const ö=graphql`#ü\n\x7ba\x7d`").toList, "a.js", .javascript⟩

/-- The call begins at byte 44, which is the character 43, and the query goes on over the line
feed up to the fourth column of the second line. -/
theorem fragment_cut_from_file_exportedComment :
    exportedComment.OnBoundaries ∧ exportedComment.TemplatesDelimited ∧
    ∃ extraction fragment, Extraction.ofTree exportedComment "a.js" {} = .ok extraction ∧
      fragment ∈ extraction.fragments ∧
      fragment.templateRange = ⟨⟨1, 52, 51⟩, some ⟨2, 4, 57⟩⟩ ∧ fragment.locationKey = (43, 0) ∧
      ∃ body stripped, exportedComment.text.extract 51 57 = body ∧
        GraphQL.minify body = .ok stripped ∧ fragment.text = String.ofList stripped := by
  have hTree : exportedComment.OnBoundaries := by decide +kernel
  have hTemplates : exportedComment.TemplatesDelimited := by decide +kernel
  have hFound : (Extraction.ofTree exportedComment "a.js" {}).toOption.map
      (fun extraction => extraction.fragments.map fun fragment =>
        (fragment.templateRange, fragment.locationKey)) =
      some [(⟨⟨1, 52, 51⟩, some ⟨2, 4, 57⟩⟩, (43, 0))] := by
    decide +kernel
  refine ⟨hTree, hTemplates, ?_⟩
  cases hResult : Extraction.ofTree exportedComment "a.js" {} with
  | error fault =>
      rw [hResult] at hFound
      cases hFound
  | ok extraction =>
      rw [hResult] at hFound
      obtain ⟨fragment, hOnly, hFields⟩ := List.map_eq_singleton_iff.mp (Option.some.inj hFound)
      obtain ⟨hRange, hKey⟩ := Prod.mk.inj hFields
      have hFragment : fragment ∈ extraction.fragments := by simp [hOnly]
      obtain ⟨call, template, stop, before, body, after, stripped, above, -, -, -, -, -, -, hStop,
        hSlice, -, -, hStripped, -, hText, -⟩ :=
          fragment_cut_from_file hTree hTemplates hResult hFragment
      rw [hRange] at hStop hSlice
      cases hStop
      exact ⟨extraction, fragment, rfl, hFragment, hRange, hKey, body, stripped, hSlice,
        hStripped, hText⟩

end Extraction

end ComponentQueries
