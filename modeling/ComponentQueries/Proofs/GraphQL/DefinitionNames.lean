import ComponentQueries.Proofs.GraphQL.ErrorPlaces

/-! The names of definitions. The scanner makes a name token of a name only, and the parser
takes names from name tokens only, so every name in a document has the form of one. -/
namespace ComponentQueries.GraphQL

/-- A reading that ends well has a result as it should be. -/
def Reading.Yields {α : Type} (wanted : α → Prop) : Reading α → Prop
  | .ok result => wanted result
  | .error _ => True

theorem Reading.Yields.of_bind {α β : Type} {wanted : β → Prop} {next : α → Reading β}
    (h : ∀ result, (next result).Yields wanted) (reading : Reading α) :
    (reading >>= next).Yields wanted := by
  cases reading with
  | ok result => exact h result
  | error fault => trivial

/-- What stands at a place is a name, if it is read as one. -/
def Lexeme.NamesWell : Lexeme → Prop
  | ignored _ => True
  | token kind value _ => kind = .name → ∃ name ∈ value, isName name = true

theorem readNumber_kind (text : List Char) :
    (readNumber text).Yields fun number => number.1 ≠ .name := by
  unfold readNumber
  dsimp only
  generalize (if text.head? = some '-' then 1 else 0) = sign
  apply Reading.Yields.of_bind
  intro whole
  apply Reading.Yields.of_bind
  intro fraction
  apply Reading.Yields.of_bind
  intro exponent
  split
  · trivial
  · show (if fraction + exponent = 0 then TokenKind.int else .float) ≠ .name
    split
    · exact nofun
    · exact nofun

theorem readDots_namesWell (rest : List Char) : (readDots rest).Yields Lexeme.NamesWell := by
  unfold readDots
  split
  · exact nofun
  · trivial
  · split
    · trivial
    · trivial

theorem readQuoted_namesWell (rest : List Char) : (readQuoted rest).Yields Lexeme.NamesWell := by
  unfold readQuoted
  split
  · apply Reading.Yields.of_bind
    intro read hName
    cases hName
  · apply Reading.Yields.of_bind
    intro read hName
    cases hName

theorem ofChar?_ne_name {c : Char} {kind : TokenKind} (h : TokenKind.ofChar? c = some kind) :
    kind ≠ .name := by
  rintro rfl
  unfold TokenKind.ofChar? at h
  split at h <;> cases h

/-- A name token is read where a name begins, and goes on as long as the name does. -/
theorem readLexeme_namesWell (c : Char) (rest : List Char) :
    (readLexeme c rest).Yields Lexeme.NamesWell := by
  unfold readLexeme
  split
  · trivial
  · split
    · trivial
    · split
      · exact readDots_namesWell rest
      · split
        · exact readQuoted_namesWell rest
        · split
          · have hKind := readNumber_kind (c :: rest)
            cases hRead : readNumber (c :: rest) with
            | error fault => trivial
            | ok number =>
                rw [hRead] at hKind
                exact fun hName => absurd hName hKind
          · split
            · next hStart =>
                intro _
                refine ⟨_, rfl, ?_⟩
                rw [isName, hStart, Bool.true_and]
                exact List.all_takeWhile
            · split
              · next kind hKind => exact fun hName => absurd hName (ofChar?_ne_name hKind)
              · trivial

/-- Tokens that are names, if they count as such. -/
def Token.NamesWell (token : Token) : Prop :=
  token.kind = .name → isName (token.value.getD "").toList = true

/-- The scanner yields no name token that is not a name. -/
theorem scanFrom_namesWell {offset : Nat} {text : List Char} {tokens : List Token}
    (h : scanFrom offset text = .ok tokens) : ∀ token ∈ tokens, token.NamesWell := by
  fun_induction scanFrom offset text generalizing tokens with
  | case1 offset =>
      cases h
      simp [Token.NamesWell]
  | case2 offset c rest cause place hRead => cases h
  | case3 offset c rest more hRead ih => exact ih h
  | case4 offset c rest kind value more hRead ih =>
      have hLexeme := readLexeme_namesWell c rest
      rw [hRead] at hLexeme
      cases hScan : scanFrom (offset + (1 + more)) (rest.drop more) with
      | error error =>
          rw [hScan] at h
          cases h
      | ok others =>
          rw [hScan] at h
          cases h
          refine List.forall_mem_cons.mpr ⟨fun hName => ?_, ih hScan⟩
          obtain ⟨name, rfl, hForm⟩ := hLexeme hName
          show isName (String.ofList name).toList = true
          rw [String.toList_ofList]
          exact hForm

/-- Definitions whose name, if they have one, has the form of a name. -/
def Definition.NamesWell (definition : Definition) : Prop :=
  ∀ name ∈ definition.name, isName name.toList = true

/-- The definitions of a text that can be parsed have names of the right form only. -/
theorem namesWell_of_parse {text : List Char} {document : Document}
    (h : Document.parse text = .ok document) :
    ∀ definition ∈ document.definitions, definition.NamesWell := by
  cases hScan : scan text with
  | error error =>
      rw [parse_eq_error_of_scan hScan] at h
      cases h
  | ok tokens =>
      have hParse := parse_keeps hScan (scanFrom_namesWell hScan)
      rw [h] at hParse
      intro definition hDefinition name hName
      obtain ⟨token, hToken, hKind, rfl⟩ := hParse definition hDefinition name hName
      exact hToken hKind

end ComponentQueries.GraphQL
