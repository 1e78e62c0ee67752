import ComponentQueries.GraphQL.Document.Parse
import ComponentQueries.GraphQL.Minify
import ComponentQueries.Proofs.GraphQL.TokenPlaces

/-! What the parser does with the tokens of a GraphQL text. It fails at a token that it was
given, so every error lies in the text or at its end, and the name of a definition is the text of
a name token. -/
namespace ComponentQueries.GraphQL

/-- All tokens that are left are of a kind. -/
def TokenStream.Only (good : Token → Prop) (stream : TokenStream) : Prop :=
  good stream.current ∧ ∀ token ∈ stream.others, good token

/-- Going on to the next token brings in none of another kind. -/
theorem TokenStream.Only.next {good : Token → Prop} {stream : TokenStream}
    (h : stream.Only good) : stream.next.Only good := by
  obtain ⟨current, others⟩ := stream
  obtain ⟨hCurrent, hOthers⟩ := h
  cases others with
  | nil => exact ⟨hCurrent, hOthers⟩
  | cons token rest => exact List.forall_mem_cons.mp hOthers

namespace Parser

variable {α β : Type} {good : Token → Prop}

/-- A parser that is given tokens of a kind only fails at such a token. Otherwise it leaves
only such tokens, and its result is as it should be. -/
def Keeps (good : Token → Prop) (parser : Parser α) (yields : α → Prop) : Prop :=
  ∀ stream : TokenStream, stream.Only good →
    match parser stream with
    | .ok (result, rest) => yields result ∧ rest.Only good
    | .error error => ∃ token, good token ∧ error.offset = token.start

/-- A parser of which nothing else is asked than to fail at the tokens that it is given. -/
def Safe (good : Token → Prop) (parser : Parser α) : Prop :=
  Keeps good parser fun _ => True

/-- Parsers are run one after the other. The second may rely on what the first yields. -/
theorem Keeps.bind {parser : Parser α} {next : α → Parser β} {yields : α → Prop}
    {yields' : β → Prop} (first : Keeps good parser yields)
    (second : ∀ result, yields result → Keeps good (next result) yields') :
    Keeps good (parser >>= next) yields' := by
  intro stream hStream
  have hFirst := first stream hStream
  show match (parser stream >>= fun read => next read.1 read.2) with
    | .ok (result, rest) => yields' result ∧ rest.Only good
    | .error error => ∃ token, good token ∧ error.offset = token.start
  cases hRead : parser stream with
  | error error =>
      rw [hRead] at hFirst
      exact hFirst
  | ok read =>
      rw [hRead] at hFirst
      exact second read.1 hFirst.1 read.2 hFirst.2

/-- A failure is placed at one of the tokens. -/
theorem Keeps.failure {parser : Parser α} {yields : α → Prop} {stream : TokenStream}
    {error : SyntaxError} (h : Keeps good parser yields) (hStream : stream.Only good)
    (hError : parser stream = .error error) : ∃ token, good token ∧ error.offset = token.start := by
  have hRead := h stream hStream
  rwa [hError] at hRead

/-- A success has a result as it should be, and leaves tokens of the kind. -/
theorem Keeps.result {parser : Parser α} {yields : α → Prop} {stream rest : TokenStream}
    {result : α} (h : Keeps good parser yields) (hStream : stream.Only good)
    (hResult : parser stream = .ok (result, rest)) : yields result ∧ rest.Only good := by
  have hRead := h stream hStream
  rwa [hResult] at hRead

/-- What is known of the result can be left aside. -/
theorem Keeps.safe {parser : Parser α} {yields : α → Prop} (h : Keeps good parser yields) :
    Safe good parser := by
  intro stream hStream
  have hRead := h stream hStream
  split at hRead
  · exact ⟨trivial, hRead.2⟩
  · exact hRead

theorem Safe.bind {parser : Parser α} {next : α → Parser β} (first : Safe good parser)
    (second : ∀ result, Safe good (next result)) : Safe good (parser >>= next) :=
  Keeps.bind first fun result _ => second result

theorem keeps_pure {yields : α → Prop} {result : α} (h : yields result) :
    Keeps good (pure result) yields :=
  fun _ hStream => ⟨h, hStream⟩

theorem safe_pure (result : α) : Safe good (pure result) :=
  keeps_pure trivial

theorem Keeps.map {parser : Parser α} {yields : α → Prop} {yields' : β → Prop} {f : α → β}
    (h : Keeps good parser yields) (hMap : ∀ result, yields result → yields' (f result)) :
    Keeps good (f <$> parser) yields' := by
  rw [map_eq_pure_bind]
  exact h.bind fun result hResult => keeps_pure (hMap result hResult)

theorem Safe.map {parser : Parser α} (f : α → β) (h : Safe good parser) :
    Safe good (f <$> parser) :=
  Keeps.map h fun _ _ => trivial

/-- A part that may be left out is followed by the same in both cases. -/
theorem Keeps.optional {condition : Prop} [Decidable condition] {parser : Parser α}
    {next : Option α → Parser β} {yields : α → Prop} {yields' : β → Prop}
    (h : Keeps good parser yields)
    (hNext : ∀ part : Option α, (∀ result ∈ part, yields result) → Keeps good (next part) yields') :
    Keeps good (if condition then (some <$> parser) >>= next else pure none >>= next) yields' := by
  split
  · refine Keeps.bind (h.map fun result hResult => ?_) hNext
    simpa using hResult
  · exact (keeps_pure (by simp)).bind hNext

theorem Safe.optional {condition : Prop} [Decidable condition] {parser : Parser α}
    {next : Option α → Parser β} (h : Safe good parser) (hNext : ∀ part, Safe good (next part)) :
    Safe good (if condition then (some <$> parser) >>= next else pure none >>= next) :=
  Keeps.optional h fun part _ => hNext part

/-- The current token is one of those that are given, and so is the next. -/
theorem keeps_peek : Keeps good peek good :=
  fun _ hStream => ⟨hStream.1, hStream⟩

theorem keeps_peekNext : Keeps good peekNext good :=
  fun _ hStream => ⟨hStream.next.1, hStream⟩

theorem safe_advance : Safe good advance :=
  fun _ hStream => ⟨trivial, hStream.next⟩

/-- Failing is in order at a token of the kind, and yields whatever is asked for. -/
theorem keeps_failAt {token : Token} (h : good token) (cause : Cause) (yields : α → Prop) :
    Keeps good (failAt token cause) yields :=
  fun _ _ => ⟨token, h, rfl⟩

theorem safe_failAt {token : Token} (h : good token) (cause : Cause) :
    Safe good (failAt token cause : Parser α) :=
  keeps_failAt h cause _

theorem safe_unexpected {token : Token} (h : good token) :
    Safe good (unexpected token : Parser α) :=
  safe_failAt h _

/-- An expected token is of the kinds of all tokens and of the one asked for. -/
theorem keeps_expect (kind : TokenKind) :
    Keeps good (expect kind) fun token => good token ∧ token.kind = kind := by
  unfold expect
  refine keeps_peek.bind fun token hToken => ?_
  split
  · next hKind => exact Keeps.bind safe_advance fun _ _ => keeps_pure ⟨hToken, hKind⟩
  · exact keeps_failAt hToken _ _

theorem safe_expect (kind : TokenKind) : Safe good (expect kind) :=
  (keeps_expect kind).safe

/-- A token that need not be there is no reason to fail. -/
theorem safe_accept (kind : TokenKind) : Safe good (accept kind) := by
  unfold accept
  refine keeps_peek.bind fun token _ => ?_
  split
  · exact safe_advance.bind fun _ => safe_pure _
  · exact safe_pure _

/-- A missing word is reported at the token in its place. -/
theorem safe_expectKeyword (word : String) : Safe good (expectKeyword word) := by
  unfold expectKeyword
  refine keeps_peek.bind fun token hToken => ?_
  split
  · exact safe_advance
  · exact safe_failAt hToken _

theorem safe_acceptKeyword (word : String) : Safe good (acceptKeyword word) := by
  unfold acceptKeyword
  refine keeps_peek.bind fun token _ => ?_
  split
  · exact safe_advance.bind fun _ => safe_pure _
  · exact safe_pure _

/-- The items of a list are as each of them is. The induction follows the loop, and what one
item leaves is what the next is given. -/
theorem keeps_itemsUntil {item : Parser α} {yields : α → Prop} (h : Keeps good item yields)
    (close : TokenKind) :
    Keeps good (itemsUntil close item) fun items => ∀ result ∈ items, yields result := by
  intro stream hStream
  fun_induction itemsUntil close item stream with
  | case1 stream hClose => exact ⟨by simp, hStream.next⟩
  | case2 stream hClose error hItem => exact h.failure hStream hItem
  | case3 stream hClose first rest hItem hShorter error hOthers ih =>
      have hRest := ih (h.result hStream hItem).2
      rwa [hOthers] at hRest
  | case4 stream hClose first rest hItem hShorter others final hOthers ih =>
      obtain ⟨hFirst, hStream'⟩ := h.result hStream hItem
      have hRest := ih hStream'
      rw [hOthers] at hRest
      exact ⟨List.forall_mem_cons.mpr ⟨hFirst, hRest.1⟩, hRest.2⟩
  | case5 stream hClose first rest hItem hStuck =>
      exact ⟨rest.current, (h.result hStream hItem).2.1, rfl⟩

/-- The same for a list that ends where no item can begin. It may be empty, so no token is read
for its end. -/
theorem safe_itemsWhile {item : Parser α} (h : Safe good item) (kind : TokenKind) :
    Safe good (itemsWhile kind item) := by
  intro stream hStream
  fun_induction itemsWhile kind item stream with
  | case1 stream hKind error hItem => exact h.failure hStream hItem
  | case2 stream hKind first rest hItem hShorter error hOthers ih =>
      have hRest := ih (h.result hStream hItem).2
      rwa [hOthers] at hRest
  | case3 stream hKind first rest hItem hShorter others final hOthers ih =>
      have hRest := ih (h.result hStream hItem).2
      rw [hOthers] at hRest
      exact ⟨trivial, hRest.2⟩
  | case4 stream hKind first rest hItem hStuck =>
      exact ⟨rest.current, (h.result hStream hItem).2.1, rfl⟩
  | case5 stream hKind => exact ⟨trivial, hStream⟩

/-- Lists in brackets fail at the opening bracket or in an item. -/
theorem safe_enclosed {item : Parser α} (h : Safe good item) (openKind close : TokenKind) :
    Safe good (enclosed openKind item close) :=
  (safe_expect openKind).bind fun _ => (keeps_itemsUntil h close).safe

/-- A list of one item or more, which has to be read before the end is looked for. -/
theorem keeps_someUntil {item : Parser α} {yields : α → Prop} (h : Keeps good item yields)
    (close : TokenKind) :
    Keeps good (someUntil item close) fun items => ∀ result ∈ items, yields result :=
  h.bind fun _ hFirst => (keeps_itemsUntil h close).bind fun _ hOthers =>
    keeps_pure (List.forall_mem_cons.mpr ⟨hFirst, hOthers⟩)

theorem safe_enclosedSome {item : Parser α} (h : Safe good item) (openKind close : TokenKind) :
    Safe good (enclosedSome openKind item close) :=
  (safe_expect openKind).bind fun _ => (keeps_someUntil h close).safe

/-- A list that may be left out together with its brackets. -/
theorem safe_optionalSome {item : Parser α} (h : Safe good item) (openKind close : TokenKind) :
    Safe good (optionalSome openKind item close) := by
  unfold optionalSome
  refine (safe_accept openKind).bind fun opened => ?_
  split
  · exact (keeps_someUntil h close).safe
  · exact safe_pure _

/-- A list with a delimiter between its items, and perhaps before the first. -/
theorem safe_delimited {item : Parser α} (h : Safe good item) (delimiter : TokenKind) :
    Safe good (delimited delimiter item) := by
  unfold delimited
  refine (safe_accept delimiter).bind fun _ => h.bind fun _ => ?_
  refine Safe.bind (safe_itemsWhile ?_ delimiter) fun _ => safe_pure _
  exact (safe_accept delimiter).bind fun _ => h

/-- Texts of name tokens of a kind. -/
def Names (good : Token → Prop) (text : String) : Prop :=
  ∃ token, good token ∧ token.kind = .name ∧ token.value.getD "" = text

/-- A name is the text of a token that the parser was given. -/
theorem keeps_name : Keeps good name (Names good) :=
  (keeps_expect .name).bind fun token hToken => keeps_pure ⟨token, hToken.1, hToken.2, rfl⟩

theorem safe_name : Safe good name :=
  keeps_name.safe

/-- A description is a string, or nothing at all. -/
theorem safe_description : Safe good description := by
  unfold description
  refine keeps_peek.bind fun token _ => ?_
  split
  · exact safe_advance.bind fun _ => safe_pure _
  · exact safe_pure _

theorem safe_variableName : Safe good variableName :=
  (safe_expect .dollar).bind fun _ => safe_name

/-- A type is a name or a list type in brackets, either of them with a mark or without one. -/
theorem safe_typeWith {nested : Parser TypeRef} (h : Safe good nested) :
    Safe good (typeWith nested) := by
  have hMark (type : TypeRef) : Safe good (do
      if ← accept .bang then return .nonNull type else return type) := by
    refine (safe_accept .bang).bind fun marked => ?_
    split
    · exact safe_pure _
    · exact safe_pure _
  unfold typeWith
  refine (safe_accept .bracketOpen).bind fun opened => ?_
  dsimp only
  split
  · refine h.bind fun element => (safe_expect .bracketClose).bind fun _ => ?_
    exact (safe_pure _).bind hMark
  · exact (safe_name.map _).bind hMark

/-- Types are safe at every depth. Where no deeper list type is allowed, the token in its place
is reported. -/
theorem safe_typeRef (room : Nat) : Safe good (typeRef room) := by
  induction room with
  | zero => exact safe_typeWith (keeps_peek.bind fun _ hToken => safe_failAt hToken _)
  | succ room ih => exact safe_typeWith ih

/-- A variable in a constant value is reported at its dollar sign, which was read before it was
found out of place. -/
theorem safe_reference (constant : Bool) : Safe good (reference constant) := by
  unfold reference
  split
  · refine (keeps_expect .dollar).bind fun dollar hDollar => keeps_peek.bind fun token _ => ?_
    split
    · exact safe_failAt hDollar.1 _
    · exact safe_unexpected hDollar.1
  · exact safe_variableName.bind fun _ => safe_pure _

/-- List values are as safe as the values in them. -/
theorem safe_listValue {nested : Parser Value} (h : Safe good nested) :
    Safe good (listValue nested) :=
  (safe_enclosed h _ _).bind fun _ => safe_pure _

/-- Object values are as safe as the values of their fields. -/
theorem safe_objectValue {nested : Parser Value} (h : Safe good nested) :
    Safe good (objectValue nested) := by
  refine Safe.bind (safe_enclosed ?_ _ _) fun _ => safe_pure _
  exact safe_name.bind fun _ => (safe_expect .colon).bind fun _ => h.bind fun _ => safe_pure _

/-- A value is told by its first token. Without room for nested values a list or an object is
reported there. -/
theorem safe_valueWith (constant : Bool) {nested : Option (Parser Value)}
    (h : ∀ parser ∈ nested, Safe good parser) : Safe good (valueWith constant nested) := by
  unfold valueWith
  refine keeps_peek.bind fun token hToken => ?_
  dsimp only
  split
  · exact safe_listValue (h _ rfl)
  · exact safe_objectValue (h _ rfl)
  · exact safe_failAt hToken _
  · exact safe_failAt hToken _
  · exact safe_advance.bind fun _ => safe_pure _
  · exact safe_advance.bind fun _ => safe_pure _
  · exact safe_advance.bind fun _ => safe_pure _
  · exact safe_advance.bind fun _ => safe_pure _
  · exact safe_advance.bind fun _ => safe_pure _
  · exact safe_reference constant
  · exact safe_unexpected hToken

/-- Values are safe at every depth. -/
theorem safe_value (constant : Bool) (room : Nat) : Safe good (value constant room) := by
  induction room with
  | zero => exact safe_valueWith constant (by simp)
  | succ room ih => exact safe_valueWith constant (by simpa using ih)

theorem safe_arguments (constant : Bool) (room : Nat) : Safe good (arguments constant room) := by
  refine safe_optionalSome ?_ _ _
  exact safe_name.bind fun _ => (safe_expect .colon).bind fun _ =>
    (safe_value constant room).bind fun _ => safe_pure _

/-- Directives go on as long as there is an at sign. -/
theorem safe_directives (constant : Bool) (room : Nat) : Safe good (directives constant room) := by
  refine safe_itemsWhile ?_ _
  exact (safe_expect .atSign).bind fun _ => safe_name.bind fun _ =>
    (safe_arguments constant room).bind fun _ => safe_pure _

/-- The name of a fragment is any name but the word that comes before its type. -/
theorem keeps_fragmentName : Keeps good fragmentName (Names good) := by
  unfold fragmentName
  refine keeps_peek.bind fun token hToken => ?_
  split
  · exact keeps_failAt hToken _ _
  · exact keeps_name

/-- A field is read by its parts in turn, of which the selection set is the deeper one. -/
theorem safe_fieldSelection (room : Nat) {nested : Parser (List Selection)}
    (h : Safe good nested) : Safe good (fieldSelection room nested) := by
  unfold fieldSelection
  refine safe_name.bind fun first => (safe_accept .colon).bind fun renamed => ?_
  refine safe_name.optional fun second => (safe_arguments false room).bind fun _ =>
    (safe_directives false room).bind fun _ => keeps_peek.bind fun token _ => ?_
  refine h.optional fun selections => ?_
  split
  · exact safe_pure _
  · exact safe_pure _

/-- Three dots are followed by the name of a fragment, or else by an inline fragment with or
without a type. -/
theorem safe_fragmentSelection (room : Nat) {nested : Parser (List Selection)}
    (h : Safe good nested) : Safe good (fragmentSelection room nested) := by
  unfold fragmentSelection
  refine (safe_expect .spread).bind fun _ => (safe_acceptKeyword "on").bind fun hasCondition =>
    keeps_peek.bind fun token _ => ?_
  split
  · exact keeps_fragmentName.safe.bind fun _ =>
      (safe_directives false room).bind fun _ => safe_pure _
  · exact safe_name.optional fun condition => (safe_directives false room).bind fun _ =>
      h.bind fun _ => safe_pure _

/-- Three dots tell a fragment from a field. -/
theorem safe_selection (room : Nat) {nested : Parser (List Selection)} (h : Safe good nested) :
    Safe good (selection room nested) := by
  unfold selection
  refine keeps_peek.bind fun token _ => ?_
  split
  · exact safe_fragmentSelection room h
  · exact safe_fieldSelection room h

/-- Selection sets are safe at every depth, also where no deeper one is allowed. -/
theorem safe_selectionSet (room : Nat) : Safe good (selectionSet room) := by
  induction room with
  | zero => exact keeps_peek.bind fun _ hToken => safe_failAt hToken _
  | succ room ih => exact safe_enclosed (safe_selection room ih) _ _

/-- A default value is constant, like all values outside of operations. -/
theorem safe_defaultValue : Safe good defaultValue := by
  unfold defaultValue
  refine (safe_accept .equals).bind fun given => ?_
  split
  · exact (safe_value true nestingLimit).map some
  · exact safe_pure _

theorem safe_constantDirectives : Safe good constantDirectives :=
  safe_directives true nestingLimit

/-- The end that variables, arguments and input fields have in common. -/
theorem safe_typeAndDefault {next : TypeRef → Option Value → List Directive → α} :
    Safe good (do return next (← typeRef nestingLimit) (← defaultValue) (← constantDirectives)) :=
  (safe_typeRef nestingLimit).bind fun _ => safe_defaultValue.bind fun _ =>
    safe_constantDirectives.bind fun _ => safe_pure _

theorem safe_variableDefinition : Safe good variableDefinition :=
  safe_description.bind fun _ => safe_variableName.bind fun _ =>
    (safe_expect .colon).bind fun _ => safe_typeAndDefault

/-- A word that is no type of operation is reported where it stands. -/
theorem safe_operationType : Safe good operationType := by
  unfold operationType
  refine (keeps_expect .name).bind fun token hToken => ?_
  split
  · exact safe_pure _
  · exact safe_unexpected hToken.1

end Parser

/-- Definitions whose name, if they have one, is the text of a name token of a kind. -/
def Definition.NamedBy (good : Token → Prop) (definition : Definition) : Prop :=
  ∀ name ∈ definition.name, Parser.Names good name

namespace Parser

variable {good : Token → Prop}

/-- An operation has its name from a name token, if it is not the short form without one. -/
theorem keeps_operation : Keeps good operation (Definition.NamedBy good) := by
  unfold operation
  refine keeps_peek.bind fun token _ => ?_
  split
  · exact Keeps.bind (safe_selectionSet nestingLimit) fun _ _ =>
      keeps_pure (by simp [Definition.NamedBy])
  · refine Keeps.bind safe_description fun _ _ => Keeps.bind safe_operationType fun _ _ =>
      keeps_peek.bind fun token _ => ?_
    exact keeps_name.optional fun given hGiven =>
      Keeps.bind (safe_optionalSome safe_variableDefinition _ _) fun _ _ =>
        Keeps.bind (safe_directives false nestingLimit) fun _ _ =>
          Keeps.bind (safe_selectionSet nestingLimit) fun _ _ => keeps_pure hGiven

/-- A fragment always has a name. -/
theorem keeps_fragment : Keeps good fragment (Definition.NamedBy good) :=
  Keeps.bind safe_description fun _ _ => Keeps.bind (safe_expectKeyword "fragment") fun _ _ =>
    keeps_fragmentName.bind fun text hText => Keeps.bind (safe_expectKeyword "on") fun _ _ =>
      Keeps.bind safe_name fun _ _ => Keeps.bind (safe_directives false nestingLimit) fun _ _ =>
        Keeps.bind (safe_selectionSet nestingLimit) fun _ _ =>
          keeps_pure (by simpa [Definition.NamedBy] using hText)

theorem safe_schemaOperation : Safe good schemaOperation :=
  safe_operationType.bind fun _ => (safe_expect .colon).bind fun _ =>
    safe_name.bind fun _ => safe_pure _

/-- Arguments and input fields are defined alike. -/
theorem safe_inputDefinition : Safe good inputDefinition :=
  safe_description.bind fun _ => safe_name.bind fun _ =>
    (safe_expect .colon).bind fun _ => safe_typeAndDefault

theorem safe_argumentDefinitions : Safe good argumentDefinitions :=
  safe_optionalSome safe_inputDefinition _ _

/-- A field of a type may have arguments of its own. -/
theorem safe_fieldDefinition : Safe good fieldDefinition :=
  safe_description.bind fun _ => safe_name.bind fun _ => safe_argumentDefinitions.bind fun _ =>
    (safe_expect .colon).bind fun _ => (safe_typeRef nestingLimit).bind fun _ =>
      safe_constantDirectives.bind fun _ => safe_pure _

/-- Interfaces are a list with ampersands behind a word, or nothing. -/
theorem safe_interfaces : Safe good interfaces := by
  unfold interfaces
  refine (safe_acceptKeyword "implements").bind fun given => ?_
  split
  · exact safe_delimited safe_name _
  · exact safe_pure _

/-- The words for constants are no enum values, and are reported as such. -/
theorem safe_enumValueDefinition : Safe good enumValueDefinition := by
  unfold enumValueDefinition
  refine safe_description.bind fun _ => keeps_peek.bind fun token hToken => ?_
  split
  · exact safe_failAt hToken _
  · exact safe_name.bind fun _ => safe_constantDirectives.bind fun _ => safe_pure _

/-- A place that is not among the known ones is reported at its token, which was looked at
before the name was read. -/
theorem safe_directiveLocation : Safe good directiveLocation := by
  unfold directiveLocation
  refine keeps_peek.bind fun token hToken => safe_name.bind fun location => ?_
  split
  · exact safe_pure _
  · exact safe_unexpected hToken

/-- An extension of a schema may leave out what a definition must have. -/
theorem safe_schemaOperations (extending : Bool) : Safe good (schemaOperations extending) := by
  unfold schemaOperations
  split
  · exact safe_optionalSome safe_schemaOperation _ _
  · exact safe_enclosedSome safe_schemaOperation _ _

/-- Only a definition of a directive has arguments and places. -/
theorem safe_directiveContent (extending : Bool) : Safe good (directiveContent extending) := by
  unfold directiveContent
  split
  · exact safe_constantDirectives.bind fun _ => safe_pure _
  · exact safe_argumentDefinitions.bind fun _ => safe_constantDirectives.bind fun _ =>
      (safe_acceptKeyword "repeatable").bind fun _ => (safe_expectKeyword "on").bind fun _ =>
        (safe_delimited safe_directiveLocation _).bind fun _ => safe_pure _

/-- The types with fields have their content in one form. -/
theorem safe_fieldsContent : Safe good (do
    let interfaces ← interfaces
    let directives ← constantDirectives
    return Content.fields interfaces directives
      (← optionalSome .braceOpen fieldDefinition .braceClose)) :=
  safe_interfaces.bind fun _ => safe_constantDirectives.bind fun _ =>
    (safe_optionalSome safe_fieldDefinition _ _).bind fun _ => safe_pure _

/-- What follows the name in a definition or an extension, by the parts of the type system. -/
theorem safe_systemContent (extending : Bool) (part : SystemPart) :
    Safe good (systemContent extending part) := by
  cases part with
  | schema =>
      exact safe_constantDirectives.bind fun _ =>
        (safe_schemaOperations extending).bind fun _ => safe_pure _
  | scalar => exact safe_constantDirectives.bind fun _ => safe_pure _
  | object => exact safe_fieldsContent
  | interface => exact safe_fieldsContent
  | union =>
      refine safe_constantDirectives.bind fun _ => (safe_accept .equals).bind fun given => ?_
      split
      · exact (safe_delimited safe_name _).bind fun _ => safe_pure _
      · exact (safe_pure _).bind fun _ => safe_pure _
  | enum =>
      exact safe_constantDirectives.bind fun _ =>
        (safe_optionalSome safe_enumValueDefinition _ _).bind fun _ => safe_pure _
  | inputObject =>
      exact safe_constantDirectives.bind fun _ =>
        (safe_optionalSome safe_inputDefinition _ _).bind fun _ => safe_pure _
  | directive => exact safe_directiveContent extending

/-- The name that a part of the type system has, if it has one. -/
theorem keeps_systemName (part : SystemPart) :
    Keeps good (systemName part) fun given => ∀ text ∈ given, Names good text := by
  have hName : Keeps good (some <$> name) fun given => ∀ text ∈ given, Names good text :=
    keeps_name.map fun text hText => by simpa using hText
  cases part with
  | schema => exact keeps_pure (by simp)
  | directive => exact Keeps.bind (safe_expect .atSign) fun _ _ => hName
  | _ => exact hName

/-- The definition of a part of the type system is named like the part. -/
theorem keeps_systemDefinition (part : SystemPart) :
    Keeps good (systemDefinition part) (Definition.NamedBy good) :=
  Keeps.bind safe_description fun _ _ => Keeps.bind safe_advance fun _ _ =>
    (keeps_systemName part).bind fun _ hGiven =>
      Keeps.bind (safe_systemContent false part) fun _ _ => keeps_pure hGiven

/-- An extension is named like the part that it extends. One without content is reported at the
token behind it. -/
theorem keeps_systemExtension : Keeps good systemExtension (Definition.NamedBy good) := by
  unfold systemExtension
  refine keeps_peekNext.bind fun keyword hKeyword => ?_
  split
  · exact keeps_failAt hKeyword _ _
  · next part _ =>
      refine Keeps.bind safe_advance fun _ _ => Keeps.bind safe_advance fun _ _ =>
        (keeps_systemName part).bind fun _ hGiven =>
          Keeps.bind (safe_systemContent true part) fun content _ => ?_
      split
      · exact keeps_peek.bind fun _ hToken => keeps_failAt hToken _ _
      · exact keeps_pure hGiven

/-- The keyword decides on the kind of definition. All kinds that there are have been gone
through above. -/
theorem keeps_keywordDefinition (described : Bool) {keyword : Token} (h : good keyword) :
    Keeps good (keywordDefinition described keyword) (Definition.NamedBy good) := by
  unfold keywordDefinition
  dsimp only
  split
  · exact keeps_systemDefinition _
  · exact keeps_operation
  · split
    · exact keeps_fragment
    · split
      · exact keeps_peek.bind fun _ hToken => keeps_failAt hToken _ _
      · split
        · exact keeps_systemExtension
        · exact keeps_failAt h _ _

/-- A definition begins with its keyword, with a description before it, or with a brace. -/
theorem keeps_definition : Keeps good definition (Definition.NamedBy good) := by
  unfold definition
  refine keeps_peek.bind fun token hToken => ?_
  -- What follows does not depend on whether the keyword is the current token or the next.
  have hKeywordDefined (keyword : Token) (hKeyword : good keyword) :
      Keeps good (if (token.kind = .string ∨ token.kind = .blockString) ∧
          keyword.kind = .braceOpen then failAt token .describedShorthand
        else if keyword.kind = .name then
          keywordDefinition (token.kind = .string ∨ token.kind = .blockString) keyword
        else unexpected keyword) (Definition.NamedBy good) := by
    split
    · exact keeps_failAt hToken _ _
    · split
      · exact keeps_keywordDefinition _ hKeyword
      · exact keeps_failAt hKeyword _ _
  split
  · exact keeps_operation
  · dsimp only
    split
    · exact keeps_peekNext.bind hKeywordDefined
    · exact (keeps_pure hToken).bind hKeywordDefined

/-- A document is one definition or more, up to the end of the text. -/
theorem keeps_document : Keeps good document fun read =>
    ∀ definition ∈ read.definitions, definition.NamedBy good :=
  (keeps_someUntil keeps_definition .endOfText).bind fun _ hAll => keeps_pure hAll

end Parser

variable {text : List Char} {error : SyntaxError}

/-- A text that cannot be cut into tokens fails inside the text or at its end. -/
theorem scan_error_offset_le (h : scan text = .error error) : error.offset ≤ text.length := by
  have hWithin := scanFrom_within 0 text
  rw [show scanFrom 0 text = .error error from h] at hWithin
  simpa using hWithin

/-- A text that cannot be cut into tokens cannot be parsed, for the same reason. -/
theorem parse_eq_error_of_scan (h : scan text = .error error) :
    Document.parse text = .error error := by
  unfold Document.parse
  rw [h]

/-- A text that cannot be shortened cannot be parsed, since shortening fails at its tokens only. -/
theorem parse_eq_error_of_minify (h : minify text = .error error) :
    Document.parse text = .error error := by
  unfold minify at h
  cases hScan : scan text with
  | error cause =>
      rw [hScan] at h
      cases h
      exact parse_eq_error_of_scan hScan
  | ok tokens =>
      rw [hScan] at h
      cases h

/-- A text that is cut into tokens of a kind is parsed like its tokens: the definitions have
their names from such tokens, and a failure is at one of them. -/
theorem parse_keeps {good : Token → Prop} {tokens : List Token} (hScan : scan text = .ok tokens)
    (hTokens : ∀ token ∈ tokens, good token) :
    match Document.parse text with
    | .ok document => ∀ definition ∈ document.definitions, definition.NamedBy good
    | .error error => ∃ token, good token ∧ error.offset = token.start := by
  unfold Document.parse
  rw [hScan]
  cases tokens with
  | nil => exact nofun
  | cons first others =>
      have hRead := Parser.keeps_document ⟨first, others⟩ (List.forall_mem_cons.mp hTokens)
      show match (Parser.document ⟨first, others⟩).map Prod.fst with
        | .ok document => ∀ definition ∈ document.definitions, definition.NamedBy good
        | .error error => ∃ token, good token ∧ error.offset = token.start
      cases hRun : Parser.document ⟨first, others⟩ with
      | ok read =>
          rw [hRun] at hRead
          exact hRead.1
      | error cause =>
          rw [hRun] at hRead
          exact hRead

/-- Parsing fails inside the text or at its end. -/
theorem parse_error_offset_le (h : Document.parse text = .error error) :
    error.offset ≤ text.length := by
  cases hScan : scan text with
  | error cause =>
      cases (parse_eq_error_of_scan hScan).symm.trans h
      exact scan_error_offset_le hScan
  | ok tokens =>
      have hWithin := scanFrom_within 0 text
      rw [show scanFrom 0 text = .ok tokens from hScan] at hWithin
      have hParse := @parse_keeps text (fun token => token.start ≤ text.length) tokens hScan
        (by simpa using hWithin)
      rw [h] at hParse
      obtain ⟨token, hToken, hOffset⟩ := hParse
      exact hOffset ▸ hToken

end ComponentQueries.GraphQL
