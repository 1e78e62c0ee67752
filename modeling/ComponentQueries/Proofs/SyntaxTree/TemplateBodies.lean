import ComponentQueries.Proofs.SyntaxTree.Shape
import ComponentQueries.Proofs.Text.Points
import ComponentQueries.Tag

/-! The texts of templates. A template covers its text and a delimiter on each side, so the
range between the delimiters is a part of the file, and both its ends are points of it. -/
namespace ComponentQueries

namespace Text

/-- A range between characters cuts its part out of the text. -/
theorem exists_eq_append_slice {text : List Char} {start stop : Nat}
    (hStart : IsBoundary text start) (hStop : IsBoundary text stop) :
    ∃ before after, text = before ++ (slice text start stop ++ after) ∧
      byteLength before = start ∧
      byteLength before + byteLength (slice text start stop) = max start stop := by
  obtain ⟨before, rest, hText, rfl⟩ := hStart
  obtain ⟨upTo, after, hText', rfl⟩ := hStop
  rcases List.append_eq_append_iff.mp (hText.symm.trans hText') with
    ⟨middle, rfl, hRest⟩ | ⟨middle, rfl, -⟩
  · have hSlice : slice text (byteLength before) (byteLength (before ++ middle)) = middle := by
      rw [hText, hRest, byteLength_append, slice_middle]
    refine ⟨before, after, ?_, rfl, ?_⟩
    · rw [hSlice, hText, hRest]
    · rw [hSlice, byteLength_append]
      omega
  · have hSlice : slice text (byteLength (upTo ++ middle)) (byteLength upTo) = [] :=
      slice_reversed (by rw [byteLength_append]; omega)
    refine ⟨upTo ++ middle, rest, ?_, rfl, ?_⟩
    · rw [hSlice, List.nil_append, hText]
    · rw [hSlice, byteLength_append, byteLength_nil]
      omega

end Text

/-- A text with a grave accent on each side. -/
def IsDelimited (text : List Char) : Prop :=
  ∃ body, text = '`' :: (body ++ ['`'])

theorem isDelimited_iff {text : List Char} :
    IsDelimited text ↔ text.head? = some '`' ∧ text.tail.getLast? = some '`' := by
  constructor
  · rintro ⟨body, rfl⟩
    simp
  · rintro ⟨hFirst, hLast⟩
    obtain ⟨rest, rfl⟩ := List.head?_eq_some_iff.mp hFirst
    obtain ⟨body, hBody⟩ := List.getLast?_eq_some_iff.mp hLast
    exact ⟨body, by rw [← hBody, List.tail_cons]⟩

instance (text : List Char) : Decidable (IsDelimited text) :=
  decidable_of_iff _ isDelimited_iff.symm

namespace SyntaxTree

variable {tree : SyntaxTree}

/-- The ranges between the delimiters of all templates lie between characters of the text. -/
def BodiesOnBoundaries (tree : SyntaxTree) : Prop :=
  ∀ template, tree.top.Below template → template.kind = .templateString →
    Text.IsBoundary tree.text (template.node.start + 1) ∧
      Text.IsBoundary tree.text (template.node.stop - 1)

instance (tree : SyntaxTree) : Decidable tree.BodiesOnBoundaries :=
  decidable_of_iff (∀ template ∈ tree.top.walk, template.kind = .templateString →
      Text.IsBoundary tree.text (template.node.start + 1) ∧
        Text.IsBoundary tree.text (template.node.stop - 1)) <| by
    simp only [Cursor.mem_walk_iff, BodiesOnBoundaries]

/-- All templates have a delimiter on each side. -/
def TemplatesDelimited (tree : SyntaxTree) : Prop :=
  ∀ template, tree.top.Below template → template.kind = .templateString →
    IsDelimited (Text.slice tree.text template.node.start template.node.stop)

instance (tree : SyntaxTree) : Decidable tree.TemplatesDelimited :=
  decidable_of_iff (∀ template ∈ tree.top.walk, template.kind = .templateString →
      IsDelimited (Text.slice tree.text template.node.start template.node.stop)) <| by
    simp only [Cursor.mem_walk_iff, TemplatesDelimited]

/-- A template stands in the file as its text between two delimiters. -/
theorem TemplatesDelimited.exists_body (hDelimited : tree.TemplatesDelimited)
    (hTree : tree.OnBoundaries) {template : Cursor} (hBelow : tree.top.Below template)
    (hKind : template.kind = .templateString) :
    ∃ before body after, tree.text = before ++ '`' :: (body ++ '`' :: after) ∧
      template.node.start = Text.byteLength before ∧
      template.node.stop = Text.byteLength before + Text.byteLength body + 2 := by
  obtain ⟨hStart, hStop⟩ := hTree template hBelow
  obtain ⟨body, hBody⟩ := hDelimited template hBelow hKind
  obtain ⟨before, after, hText, hBefore, hSize⟩ := Text.exists_eq_append_slice hStart hStop
  have hAccent : ('`').utf8Size = 1 := by decide
  rw [hBody] at hText hSize
  refine ⟨before, body, after, by simpa using hText, hBefore.symm, ?_⟩
  simp only [Text.byteLength_cons, Text.byteLength_append, Text.byteLength_nil, hAccent] at hSize
  omega

end SyntaxTree

theorem Cursor.isTaggedTemplate_kind {call template : Cursor}
    (hTagged : call.isTaggedTemplate = true) (hTemplate : call.child? .arguments = some template) :
    template.kind = .templateString := by
  simp only [isTaggedTemplate, hTemplate, Option.any_some, Bool.and_eq_true] at hTagged
  exact beq_iff_eq.mp hTagged.2

/-- The text of a template is a part of the file, and its range begins behind what stands
before it. -/
theorem Source.exists_templateBody {source : Source} (hBodies : source.tree.BodiesOnBoundaries)
    {template : Cursor} (hBelow : source.tree.top.Below template)
    (hKind : template.kind = .templateString) :
    ∃ before after, source.tree.text = before ++ (source.templateBody template ++ after) ∧
      Text.byteLength before = template.node.start + 1 ∧
      (source.templateRange template).start = Text.pointAfter before := by
  obtain ⟨hStart, hStop⟩ := hBodies template hBelow hKind
  obtain ⟨before, after, hText, hBefore, -⟩ := Text.exists_eq_append_slice hStart hStop
  refine ⟨before, after, hText, hBefore, ?_⟩
  rw [templateRange, Text.rangeBetween, ← hBefore, hText]
  exact Text.positionAt_eq_pointAfter before _

/-- What is read from a template between two delimiters is the text between them. -/
theorem Source.templateBody_eq {source : Source} {template : Cursor}
    {before body after : List Char}
    (hText : source.tree.text = before ++ '`' :: (body ++ '`' :: after))
    (hStart : template.node.start = Text.byteLength before)
    (hStop : template.node.stop = Text.byteLength before + Text.byteLength body + 2) :
    source.templateBody template = body ∧
      source.templateRange template = ⟨Text.pointAfter (before ++ ['`']),
        some (Text.pointAfter (before ++ ['`'] ++ body))⟩ := by
  have hAccent : ('`').utf8Size = 1 := by decide
  have hFirst : template.node.start + 1 = Text.byteLength (before ++ ['`']) := by
    simp [hStart, hAccent]
  have hLast : template.node.stop - 1 =
      Text.byteLength (before ++ ['`']) + Text.byteLength body := by
    simp [hStop, hAccent]
    omega
  have hSplit : source.tree.text = (before ++ ['`']) ++ (body ++ '`' :: after) := by
    simp [hText]
  constructor
  · rw [templateBody, hFirst, hLast, hSplit, Text.slice_middle]
  · rw [templateRange, Text.rangeBetween, hFirst, hLast, ← Text.byteLength_append, hSplit,
      Text.positionAt_eq_pointAfter, ← List.append_assoc, Text.positionAt_eq_pointAfter]

end ComponentQueries
