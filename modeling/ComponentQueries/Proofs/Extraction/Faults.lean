import ComponentQueries.Proofs.Extraction.Reading
import ComponentQueries.Proofs.Scope.Declarations
import ComponentQueries.Proofs.SyntaxTree.DocumentOrder
import Mathlib.Data.Option.Basic

/-! What can be wrong with a template, in the order in which it counts. A template that has
one fault is not looked at for the next, and only an export is asked to be asynchronous. -/
namespace ComponentQueries

namespace SyntaxTree

variable {tree : SyntaxTree}

/-- Export statements that declare a name: a function or a generator by its own name, or
variables of which the first has the name. -/
inductive ExportsAs (tree : SyntaxTree) (statement : Cursor) : String → Prop where
  | function {declaration name : Cursor}
      (declares : statement.child? .declaration = some declaration)
      (isFunction : declaration.kind = .functionDeclaration ∨
        declaration.kind = .generatorFunctionDeclaration)
      (hName : declaration.child? .name = some name) : ExportsAs tree statement (tree.textOf name)
  | declarators {declaration declarator name : Cursor}
      (declares : statement.child? .declaration = some declaration)
      (areVariables : declaration.kind = .lexicalDeclaration ∨
        declaration.kind = .variableDeclaration)
      (first : declaration.firstDeclarator? = some declarator)
      (hName : declarator.child? .name = some name) (isName : name.kind = .identifier) :
      ExportsAs tree statement (tree.textOf name)

/-- A declaration is named by its first declarator, if that declares a name and not a pattern. -/
theorem declaratorName?_eq_some_iff {declaration : Cursor} {name : String} :
    tree.declaratorName? declaration = some name ↔
      ∃ declarator, declaration.firstDeclarator? = some declarator ∧
        ∃ place, declarator.child? .name = some place ∧ place.kind = .identifier ∧
          tree.textOf place = name := by
  constructor
  · intro h
    obtain ⟨declarator, hFirst, h⟩ := Option.bind_eq_some_iff.mp h
    obtain ⟨place, hPlace, h⟩ := Option.bind_eq_some_iff.mp h
    obtain ⟨_, hKind, h⟩ := Option.bind_eq_some_iff.mp h
    exact ⟨declarator, hFirst, place, hPlace, (Option.guard_eq_some' _).mp hKind,
      Option.some.inj h⟩
  · rintro ⟨declarator, hFirst, place, hPlace, hKind, rfl⟩
    refine Option.bind_eq_some_iff.mpr ⟨declarator, hFirst, ?_⟩
    refine Option.bind_eq_some_iff.mpr ⟨place, hPlace, ?_⟩
    exact Option.bind_eq_some_iff.mpr ⟨(), (Option.guard_eq_some' _).mpr hKind, rfl⟩

/-- The name of an export is the one that it is exported as. -/
theorem exportedName?_eq_some_iff {statement : Cursor} {name : String} :
    tree.exportedName? statement = some name ↔ tree.ExportsAs statement name := by
  constructor
  · intro h
    unfold exportedName? at h
    split at h
    · cases h
    · next declaration hDeclaration =>
        split at h
        · next hKind =>
            obtain ⟨place, hPlace, rfl⟩ := Option.map_eq_some_iff.mp h
            exact .function hDeclaration (.inl hKind) hPlace
        · next hKind =>
            obtain ⟨place, hPlace, rfl⟩ := Option.map_eq_some_iff.mp h
            exact .function hDeclaration (.inr hKind) hPlace
        · next hKind =>
            obtain ⟨_, hFirst, _, hPlace, hName, rfl⟩ := declaratorName?_eq_some_iff.mp h
            exact .declarators hDeclaration (.inl hKind) hFirst hPlace hName
        · next hKind =>
            obtain ⟨_, hFirst, _, hPlace, hName, rfl⟩ := declaratorName?_eq_some_iff.mp h
            exact .declarators hDeclaration (.inr hKind) hFirst hPlace hName
        · cases h
  · intro h
    cases h with
    | function hDeclaration hKind hPlace =>
        rcases hKind with hKind | hKind
        · simp only [exportedName?, hDeclaration, hKind, nameText?, hPlace, Option.map_some]
        · simp only [exportedName?, hDeclaration, hKind, nameText?, hPlace, Option.map_some]
    | declarators hDeclaration hKind hFirst hPlace hName =>
        have hDeclarator := (@declaratorName?_eq_some_iff tree _ _).mpr
          ⟨_, hFirst, _, hPlace, hName, rfl⟩
        rcases hKind with hKind | hKind
        · simp only [exportedName?, hDeclaration, hKind, hDeclarator]
        · simp only [exportedName?, hDeclaration, hKind, hDeclarator]

/-- Export statements of an asynchronous function: the declaration of one, or variables of
which the first has one as its value. -/
inductive ExportsAsync (statement : Cursor) : Prop where
  | function {declaration : Cursor} (declares : statement.child? .declaration = some declaration)
      (isFunction : declaration.kind = .functionDeclaration)
      (async : declaration.isAsync = true)
  | value {declaration declarator value : Cursor}
      (declares : statement.child? .declaration = some declaration)
      (noFunction : declaration.kind ≠ .functionDeclaration)
      (first : declaration.firstDeclarator? = some declarator)
      (hValue : declarator.child? .value = some value)
      (isFunction : value.isFunctionValue = true) (async : value.isAsync = true)

theorem isAsyncExport_iff {statement : Cursor} :
    isAsyncExport statement = true ↔ ExportsAsync statement := by
  constructor
  · intro h
    unfold isAsyncExport at h
    split at h
    · cases h
    · next declaration hDeclaration =>
        split at h
        · next hKind => exact .function hDeclaration hKind h
        · next hKind =>
            obtain ⟨value, hValue, h⟩ := (Option.any_eq_true _ _).mp h
            obtain ⟨declarator, hFirst, hValue⟩ := Option.bind_eq_some_iff.mp hValue
            obtain ⟨hFunction, hAsync⟩ := Bool.and_eq_true_iff.mp h
            exact .value hDeclaration hKind hFirst hValue hFunction hAsync
  · intro h
    cases h with
    | function hDeclaration hKind hAsync =>
        simp only [isAsyncExport, hDeclaration, hKind, if_true, hAsync]
    | value hDeclaration hKind hFirst hValue hFunction hAsync =>
        simp only [isAsyncExport, hDeclaration, hKind, if_false, hFirst, Option.bind_some, hValue,
          Option.any_some, hFunction, hAsync, Bool.and_self]

end SyntaxTree

namespace Source

variable {source : Source}

/-- The first expression in a template. -/
def IsFirstSubstitution (template substitution : Cursor) : Prop :=
  ∃ before after, template.namedChildren = before ++ substitution :: after ∧
    substitution.kind = .templateSubstitution ∧
      ∀ earlier ∈ before, earlier.kind ≠ .templateSubstitution

theorem substitution?_eq_some_iff {template substitution : Cursor} :
    substitution? template = some substitution ↔ IsFirstSubstitution template substitution := by
  rw [substitution?, List.find?_eq_some_iff_append]
  constructor
  · rintro ⟨hKind, before, after, hSplit, hBefore⟩
    exact ⟨before, after, hSplit, of_decide_eq_true hKind, fun earlier h => by
      simpa using hBefore earlier h⟩
  · rintro ⟨before, after, hSplit, hKind, hBefore⟩
    exact ⟨decide_eq_true hKind, before, after, hSplit, fun earlier h => by
      simpa using hBefore earlier h⟩

/-- Templates that nothing is put into. -/
def IsPlain (template : Cursor) : Prop :=
  ∀ child ∈ template.namedChildren, child.kind ≠ .templateSubstitution

/-- A template without substitutions is plain. -/
theorem substitution?_eq_none_iff {template : Cursor} :
    substitution? template = none ↔ IsPlain template := by
  simp [substitution?, IsPlain]

/-- The faults of a body. Nothing but ignored characters is no query, whether or not the
grammar would say so too. -/
inductive BodyFaulty (body : List Char) (range : Range) : Fault → Prop where
  | empty (strips : GraphQL.minify body = .ok []) :
      BodyFaulty body range (.emptyFragment (some range))
  | lexical {error : GraphQL.SyntaxError} (scans : GraphQL.minify body = .error error) :
      BodyFaulty body range
        (.fragmentSyntax (String.ofList body) (.ofSyntaxError body error) range)
  | grammatical {stripped : List Char} {error : GraphQL.SyntaxError}
      (strips : GraphQL.minify body = .ok stripped) (something : stripped ≠ [])
      (parses : GraphQL.Document.parse body = .error error) :
      BodyFaulty body range
        (.fragmentSyntax (String.ofList body) (.ofSyntaxError body error) range)

/-- The body of a template fails for one of its faults. -/
theorem readBody_eq_error_iff {body : List Char} {range : Range} {fault : Fault} :
    readBody body range = .error fault ↔ BodyFaulty body range fault := by
  constructor
  · intro h
    unfold readBody at h
    dsimp only at h
    split at h
    · next hScan =>
        cases h
        exact .lexical hScan
    · next hStripped =>
        cases h
        exact .empty hStripped
    · next stripped hSomething hStripped =>
        split at h
        · next hParse =>
            cases h
            exact .grammatical hStripped hSomething hParse
        · cases h
  · intro h
    cases h with
    | empty hStripped => simp only [readBody, hStripped]
    | lexical hScan => simp only [readBody, hScan]
    | @grammatical stripped _ hStripped hSomething hParse =>
        cases stripped with
        | nil => exact absurd rfl hSomething
        | cons first rest => simp only [readBody, hStripped, hParse]

/-- The faults of a tagged template, whatever the way to it. A tag without a declaration
counts before all else, and what is put into a template counts before its body. -/
inductive Faulty (source : Source) (call : Cursor) : Fault → Prop where
  | undeclared {tag : Cursor} (tagged : call.isTaggedTemplate = true)
      (hTag : call.child? .function = some tag) (isName : tag.kind = .identifier)
      (hName : source.tree.textOf tag = source.settings.tagName)
      (unbound : source.table.Unbound source.settings.tagName tag) :
      Faulty source call (.ambientTag source.tree.path)
  | interpolated {template substitution : Cursor} (recognised : source.Recognises call)
      (hTemplate : call.child? .arguments = some template)
      (first : IsFirstSubstitution template substitution) :
      Faulty source call (.interpolation (source.tree.rangeOf substitution.node))
  | body {template : Cursor} {fault : Fault} (recognised : source.Recognises call)
      (hTemplate : call.child? .arguments = some template) (plain : IsPlain template)
      (faulty : BodyFaulty (source.templateBody template) (source.templateRange template) fault) :
      Faulty source call fault

/-- A tag is ambient if it has the name of the tag and nothing around declares it. -/
theorem nameOrigin_eq_ambient_iff {tag : Cursor} :
    source.nameOrigin tag = .ambient ↔
      source.tree.textOf tag = source.settings.tagName ∧
        source.table.Unbound source.settings.tagName tag := by
  rw [← ScopeTable.resolve?_eq_none_iff]
  unfold nameOrigin
  dsimp only
  constructor
  · intro h
    split at h
    · next hNone =>
        split at h
        · next hName => exact ⟨hName, hName ▸ hNone⟩
        · cases h
    · split at h
      · cases h
      · cases h
  · rintro ⟨hName, hNone⟩
    rw [hName, hNone]
    exact if_pos rfl

/-- Only a name can lack a declaration, since a property of an unknown object is just
another tag. -/
theorem tagOrigin_eq_ambient_iff {tag : Cursor} :
    source.tagOrigin tag = .ambient ↔
      tag.kind = .identifier ∧ source.tree.textOf tag = source.settings.tagName ∧
        source.table.Unbound source.settings.tagName tag := by
  rw [← nameOrigin_eq_ambient_iff]
  unfold tagOrigin
  split
  · next hKind => simp [hKind]
  · next hKind =>
      rw [hKind]
      simp only [memberOrigin, reduceCtorEq, false_and, iff_false]
      split
      · exact fun h => nomatch h
      · split
        · exact fun h => nomatch h
        · split
          · exact fun h => nomatch h
          · exact fun h => nomatch h
  · next hName _ =>
      simp only [reduceCtorEq, false_iff]
      exact fun h => hName h.1

/-- A template fails for its first substitution, or if it is plain for its body. -/
theorem readTemplate_eq_error_iff {call template : Cursor} {fault : Fault} :
    source.readTemplate call template = .error fault ↔
      (∃ substitution, IsFirstSubstitution template substitution ∧
        fault = .interpolation (source.tree.rangeOf substitution.node)) ∨
      IsPlain template ∧
        BodyFaulty (source.templateBody template) (source.templateRange template) fault := by
  rw [← substitution?_eq_none_iff, ← readBody_eq_error_iff]
  simp only [← substitution?_eq_some_iff]
  unfold readTemplate
  cases hFirst : substitution? template with
  | some substitution => simp [eq_comm]
  | none =>
      dsimp only
      cases readBody (source.templateBody template) (source.templateRange template) with
      | error other => simp
      | ok read => simp

/-- Reading a tagged template fails exactly with its faults. -/
theorem readTag_eq_error_iff {call : Cursor} {fault : Fault} :
    source.readTag call = .error fault ↔ source.Faulty call fault := by
  constructor
  · intro h
    unfold readTag at h
    split at h
    · next hTagged =>
        split at h
        · next tag template hTag hTemplate =>
            split at h
            · cases h
            · next hOrigin =>
                cases h
                obtain ⟨hKind, hName, hUnbound⟩ := tagOrigin_eq_ambient_iff.mp hOrigin
                exact .undeclared hTagged hTag hKind hName hUnbound
            · next hOrigin =>
                have recognised : source.Recognises call := ⟨hTagged, tag, hTag, hOrigin⟩
                cases hRead : source.readTemplate call template with
                | ok read => rw [hRead] at h; cases h
                | error other =>
                    rw [hRead] at h
                    cases h
                    rcases readTemplate_eq_error_iff.mp hRead with
                      ⟨_, hFirst, rfl⟩ | ⟨hPlain, hBody⟩
                    · exact .interpolated recognised hTemplate hFirst
                    · exact .body recognised hTemplate hPlain hBody
        · cases h
    · cases h
  · intro h
    cases h with
    | undeclared hTagged hTag hKind hName hUnbound =>
        have hOrigin := tagOrigin_eq_ambient_iff.mpr ⟨hKind, hName, hUnbound⟩
        have hTemplate := hTagged
        simp only [Cursor.isTaggedTemplate, Bool.and_eq_true, Option.any_eq_true] at hTemplate
        obtain ⟨-, template, hTemplate, -⟩ := hTemplate
        simp only [readTag, hTagged, if_true, hTag, hTemplate, hOrigin]
    | interpolated recognised hTemplate hFirst =>
        obtain ⟨hTagged, tag, hTag, hOrigin⟩ := recognised
        have hRead := (@readTemplate_eq_error_iff source call _ _).mpr (.inl ⟨_, hFirst, rfl⟩)
        simp only [readTag, hTagged, if_true, hTag, hTemplate, hOrigin, hRead, Except.map]
    | body recognised hTemplate hPlain hBody =>
        obtain ⟨hTagged, tag, hTag, hOrigin⟩ := recognised
        have hRead := (@readTemplate_eq_error_iff source call _ _).mpr (.inr ⟨hPlain, hBody⟩)
        simp only [readTag, hTagged, if_true, hTag, hTemplate, hOrigin, hRead, Except.map]

/-- Templates of queries with nothing wrong in them. -/
def IsGood (source : Source) (call : Cursor) : Prop :=
  source.Recognises call ∧ ∃ template, call.child? .arguments = some template ∧
    IsPlain template ∧ ∃ stripped document,
      GraphQL.minify (source.templateBody template) = .ok stripped ∧ stripped ≠ [] ∧
        GraphQL.Document.parse (source.templateBody template) = .ok document

theorem isGood_iff {call : Cursor} :
    source.IsGood call ↔ ∃ tag, source.readTag call = .ok (some tag) := by
  constructor
  · rintro ⟨recognised, template, hTemplate, hPlain, stripped, document, hStripped, hSome, hParse⟩
    have hNone := recognised.readTag_ne_none
    cases hRead : source.readTag call with
    | ok tag? =>
        cases tag? with
        | none => exact absurd hRead hNone
        | some tag => exact ⟨tag, rfl⟩
    | error fault =>
        obtain ⟨_, tag, hTag, hOrigin⟩ := recognised
        cases readTag_eq_error_iff.mp hRead with
        | undeclared _ hTag' hKind hName hUnbound =>
            rw [hTag] at hTag'
            cases hTag'
            rw [tagOrigin_eq_ambient_iff.mpr ⟨hKind, hName, hUnbound⟩] at hOrigin
            cases hOrigin
        | interpolated _ hTemplate' hFirst =>
            rw [hTemplate] at hTemplate'
            cases hTemplate'
            obtain ⟨before, after, hSplit, hKind, _⟩ := hFirst
            exact absurd hKind (hPlain _ (by simp [hSplit]))
        | body _ hTemplate' _ hBody =>
            rw [hTemplate] at hTemplate'
            cases hTemplate'
            cases hBody with
            | empty hEmpty => exact absurd (by rw [hStripped] at hEmpty; cases hEmpty; rfl) hSome
            | lexical hScan => rw [hStripped] at hScan; cases hScan
            | grammatical _ _ hFails => rw [hParse] at hFails; cases hFails
  · rintro ⟨tag, hTag⟩
    obtain ⟨recognised, template, hTemplate, hRead⟩ := readTag_eq_some hTag
    obtain ⟨hNone, hBody, -⟩ := readTemplate_eq_ok hRead
    obtain ⟨stripped, hStripped, hSome, -, hParse⟩ := readBody_eq_ok hBody
    exact ⟨recognised, template, hTemplate, substitution?_eq_none_iff.mp hNone, stripped, _,
      hStripped, hSome, hParse⟩

/-- The faults of a visit: those of its template, and for a good template on the way of
exports that the export around it configures a page and is not asynchronous. -/
inductive Fails (source : Source) (visit : Visit) : Fault → Prop where
  | template {fault : Fault} (faulty : source.Faulty visit.template fault) :
      Fails source visit fault
  | notAsync {statement : Cursor} (good : source.IsGood visit.template)
      (exported : visit.route = .exported)
      (nearest : statement.IsNearestAround (· = .exportStatement) visit.template)
      (configures : source.tree.ExportsAs statement configExport)
      (blocking : ¬SyntaxTree.ExportsAsync statement) :
      Fails source visit (.exportNotAsync configExport
        (Text.rangeBetween source.tree.text statement.node.start statement.node.start))

/-- The purpose of a query fails only for an export that configures a page and is not
asynchronous. -/
theorem queryTypeOf_eq_error_iff {visit : Visit} {fault : Fault} :
    source.queryTypeOf visit = .error fault ↔
      visit.route = .exported ∧ ∃ statement,
        statement.IsNearestAround (· = .exportStatement) visit.template ∧
        source.tree.ExportsAs statement configExport ∧ ¬SyntaxTree.ExportsAsync statement ∧
        fault = .exportNotAsync configExport
          (Text.rangeBetween source.tree.text statement.node.start statement.node.start) := by
  simp only [Cursor.isNearestAround_iff, ← SyntaxTree.exportedName?_eq_some_iff,
    ← SyntaxTree.isAsyncExport_iff]
  constructor
  · intro h
    unfold queryTypeOf at h
    split at h
    · cases h
    · cases h
    · next hRoute =>
        refine ⟨hRoute, ?_⟩
        split at h
        · cases h
        · next statement hNearest =>
            split at h
            · next hConfig =>
                split at h
                · cases h
                · next hAsync =>
                    cases h
                    exact ⟨statement, hNearest, hConfig, hAsync, rfl⟩
            · cases h
  · rintro ⟨hRoute, statement, hNearest, hConfig, hAsync, rfl⟩
    have hAround : enclosingExport? visit.template = some statement := hNearest
    simp only [queryTypeOf, hRoute, hAround, hConfig, if_true, hAsync, if_false, Bool.false_eq_true]

/-- Reading a visit fails exactly with its faults. -/
theorem readVisit_eq_error_iff {path : String} {visit : Visit} {fault : Fault} :
    source.readVisit path visit = .error fault ↔ source.Fails visit fault := by
  constructor
  · intro h
    unfold readVisit at h
    split at h
    · next hFault =>
        cases h
        exact .template (readTag_eq_error_iff.mp hFault)
    · cases h
    · next tag hTag =>
        split at h
        · next hFault =>
            cases h
            obtain ⟨hRoute, statement, hNearest, hConfig, hAsync, rfl⟩ :=
              queryTypeOf_eq_error_iff.mp hFault
            exact .notAsync (isGood_iff.mpr ⟨tag, hTag⟩) hRoute hNearest hConfig hAsync
        · cases h
  · intro h
    cases h with
    | template hFaulty => simp only [readVisit, readTag_eq_error_iff.mpr hFaulty]
    | notAsync hGood hRoute hNearest hConfig hAsync =>
        obtain ⟨tag, hTag⟩ := isGood_iff.mp hGood
        have hType := queryTypeOf_eq_error_iff.mpr
          ⟨hRoute, _, hNearest, hConfig, hAsync, rfl⟩
        simp only [readVisit, hTag, hType]

/-- Whatever is wrong with a template, the file itself was read and parsed. -/
theorem Fails.kind_ne {visit : Visit} {fault : Fault} (h : source.Fails visit fault) :
    fault.kind ≠ .unreadable ∧ fault.kind ≠ .unparsable := by
  cases h with
  | template hFaulty =>
      cases hFaulty with
      | undeclared => exact ⟨by simp [Fault.kind], by simp [Fault.kind]⟩
      | interpolated => exact ⟨by simp [Fault.kind], by simp [Fault.kind]⟩
      | body _ _ _ hBody =>
          cases hBody with
          | empty => exact ⟨by simp [Fault.kind], by simp [Fault.kind]⟩
          | lexical => exact ⟨by simp [Fault.kind], by simp [Fault.kind]⟩
          | grammatical => exact ⟨by simp [Fault.kind], by simp [Fault.kind]⟩
  | notAsync => exact ⟨by simp [Fault.kind], by simp [Fault.kind]⟩

/-- The tag without a declaration is the only fault that names the file. -/
theorem Fails.eq_ambientTag {visit : Visit} {fault : Fault} (h : source.Fails visit fault)
    (hKind : fault.kind = .ambientTag) : fault = .ambientTag source.tree.path := by
  cases h with
  | template hFaulty =>
      cases hFaulty with
      | undeclared => rfl
      | interpolated => cases hKind
      | body _ _ _ hBody =>
          cases hBody with
          | empty => cases hKind
          | lexical => cases hKind
          | grammatical => cases hKind
  | notAsync => cases hKind

end Source

/-- A file from which nothing can be extracted has a visit with that fault. -/
theorem Extraction.exists_fails {tree : SyntaxTree} {path : String} {settings : Settings}
    {fault : Fault} (h : Extraction.ofTree tree path settings = .error fault) :
    ∃ visit ∈ (Source.ofTree tree settings).visits path,
      (Source.ofTree tree settings).Fails visit fault := by
  unfold Extraction.ofTree at h
  dsimp only at h
  split at h
  · next hRead =>
      cases h
      obtain ⟨visit, hVisit, hFault⟩ := Source.readVisits_eq_error hRead
      exact ⟨visit, hVisit, Source.readVisit_eq_error_iff.mp hFault⟩
  · cases h

end ComponentQueries
