import ComponentQueries.Proofs.Extraction.Exactness
import ComponentQueries.Proofs.Extraction.Faults

/-! The export that configures a page, as extraction and the scan for capabilities see it.
Extraction goes up from a template to the nearest export, the scan goes over the exports at
the top of the file, and both read the same name off an export that the scan counts. -/
namespace ComponentQueries

namespace SyntaxTree

variable {tree : SyntaxTree} {statement : Cursor}

/-- Exports that the scan counts by what they declare: at the top of the file, not as the
default export, and no generator. -/
structure IsScanned (tree : SyntaxTree) (statement : Cursor) : Prop where
  atTop : statement ∈ tree.top.namedChildren
  named : ∀ child ∈ statement.children, child.kind ≠ .defaultKeyword
  noGenerator : ∀ declaration ∈ statement.child? .declaration,
    declaration.kind ≠ .generatorFunctionDeclaration

/-- Generators apart, both read the same name off an export. -/
theorem declaredApi?_eq_exportedName?
    (h : ∀ declaration ∈ statement.child? .declaration,
      declaration.kind ≠ .generatorFunctionDeclaration) :
    tree.declaredApi? statement = tree.exportedName? statement := by
  unfold declaredApi? exportedName?
  cases hDeclaration : statement.child? .declaration with
  | none => rfl
  | some declaration =>
      have hKind := h declaration hDeclaration
      dsimp only
      split
      · next hFunction => rw [hFunction]
      · next hLexical => rw [hLexical]
      · next hVariable => rw [hVariable]
      · next hFunction hLexical hVariable =>
          split
          · next hOther => exact absurd hOther hFunction
          · next hOther => exact absurd hOther hKind
          · next hOther => exact absurd hOther hLexical
          · next hOther => exact absurd hOther hVariable
          · rfl

/-- The scan finds every name that an export which it counts declares. -/
theorem IsScanned.exportsName (scanned : tree.IsScanned statement)
    (hKind : statement.kind = .exportStatement) {name : String}
    (declares : tree.ExportsAs statement name) : tree.exportsName name = true := by
  have hNamed : statement.isNamedExport = true :=
    Source.isNamedExport_iff.mpr ⟨hKind, scanned.named⟩
  have hDeclared : tree.declaredApi? statement = some name := by
    rw [declaredApi?_eq_exportedName? scanned.noGenerator]
    exact exportedName?_eq_some_iff.mpr declares
  refine List.any_eq_true.mpr ⟨statement, List.mem_filter.mpr ⟨scanned.atTop, hNamed⟩, ?_⟩
  rw [hDeclared, beq_self_eq_true, Bool.or_true]

end SyntaxTree

/-- A query for the configuration of a page is in an export that declares it. -/
theorem Source.exists_config_export {source : Source} {path : String} {visit : Visit}
    {fragment : Fragment} (h : source.readVisit path visit = .ok (some fragment))
    (hConfig : fragment.queryType = .config) :
    visit.route = .exported ∧ ∃ statement,
      statement.IsNearestAround (· = .exportStatement) visit.template ∧
        source.tree.ExportsAs statement configExport := by
  obtain ⟨tag, queryType, -, hType, rfl⟩ := readVisit_eq_some h
  obtain rfl : queryType = .config := hConfig
  obtain ⟨template, route⟩ := visit
  cases route with
  | element => cases hType
  | hook => cases hType
  | exported =>
      obtain ⟨statement, hNearest, hName⟩ := (queryTypeOf_exported hType).2.mp rfl
      exact ⟨rfl, statement, Cursor.isNearestAround_iff.mpr hNearest,
        SyntaxTree.exportedName?_eq_some_iff.mp hName⟩

/-- The nearest export around a query for the configuration of a page, or around the one that
is refused since its export is not asynchronous, declares the configuration. If that export is
one that the scan counts, the scan says so too. -/
theorem Extraction.config_query_in_scanned_export (tree : SyntaxTree) (path : String)
    (settings : Settings) :
    (∀ extraction, Extraction.ofTree tree path settings = .ok extraction →
      ∀ fragment ∈ extraction.fragments, fragment.queryType = .config →
        ∃ call statement, tree.top.Below call ∧
          (Source.ofTree tree settings).readVisit path ⟨call, .exported⟩ = .ok (some fragment) ∧
          statement.IsNearestAround (· = .exportStatement) call ∧
          tree.ExportsAs statement configExport ∧
          (tree.IsScanned statement → (Features.ofTree tree).config = true)) ∧
    ∀ name range,
      Extraction.ofTree tree path settings = .error (.exportNotAsync name range) →
        ∃ call statement, tree.top.Below call ∧
          (Source.ofTree tree settings).readVisit path ⟨call, .exported⟩ =
            .error (.exportNotAsync name range) ∧
          statement.IsNearestAround (· = .exportStatement) call ∧
          tree.ExportsAs statement configExport ∧
          (tree.IsScanned statement → (Features.ofTree tree).config = true) := by
  have hScan (call statement : Cursor)
      (nearest : statement.IsNearestAround (· = .exportStatement) call)
      (declares : tree.ExportsAs statement configExport) (scanned : tree.IsScanned statement) :
      (Features.ofTree tree).config = true := by
    obtain ⟨_, _, _, hKind, _⟩ := nearest
    exact scanned.exportsName hKind declares
  constructor
  · intro extraction hResult fragment hFragment hConfig
    obtain ⟨⟨call, route⟩, hVisit, hRead⟩ := exists_visit_of_mem hResult hFragment
    obtain ⟨rfl, statement, nearest, declares⟩ := Source.exists_config_export hRead hConfig
    exact ⟨call, statement, (Source.mem_visits_iff.mp hVisit).place, hRead, nearest, declares,
      hScan call statement nearest declares⟩
  · intro name range hFault
    obtain ⟨⟨call, route⟩, hVisit, hFails⟩ := exists_fails hFault
    have hPlace := (Source.mem_visits_iff.mp hVisit).place
    have hRead := (@Source.readVisit_eq_error_iff (Source.ofTree tree settings) path _ _).mpr hFails
    cases hFails with
    | notAsync good exported nearest declares blocking =>
        obtain rfl : route = .exported := exported
        exact ⟨call, _, hPlace, hRead, nearest, declares, hScan call _ nearest declares⟩
    | template hFaulty =>
        -- Nothing that is wrong with a template itself concerns the export around it.
        cases hFaulty with
        | body _ _ _ hBody => cases hBody

/-- The tree of ``import{graphql}from"gatsby";export async function config(){graphql`{a}`}``,
or of the same without the keyword `async`. -/
def Extraction.configPage (async : Bool) : SyntaxTree :=
  let keyword := if async then "async " else ""
  let start := 35 + keyword.length
  ⟨.phrase .program 0 (start + 31) none
    [.tagImport 0,
      .phrase .exportStatement 28 (start + 31) none
        [.token "export" 28,
          .phrase .functionDeclaration 35 (start + 31) (some .declaration)
            ((if async then [.token "async" 35] else []) ++
              [.token "function" start,
                .phrase .identifier (start + 9) (start + 15) (some .name) [],
                .phrase .formalParameters (start + 15) (start + 17) (some .parameters)
                  [.token "(" (start + 15), .token ")" (start + 16)],
                .phrase .statementBlock (start + 17) (start + 31) (some (.other "body"))
                  [.token "\x7b" (start + 17),
                    .phrase (.other "expression_statement") (start + 18) (start + 30) none
                      [.phrase .callExpression (start + 18) (start + 30) none
                        [.phrase .identifier (start + 18) (start + 25) (some .function) [],
                          .quoted .templateString "`" (start + 25) (start + 30)
                            (some .arguments)]],
                    .token "\x7d" (start + 30)]])]],
    ("import\x7bgraphql\x7dfrom\"gatsby\";export " ++ keyword ++
      "function config()\x7bgraphql`\x7ba\x7d`\x7d").toList, "a.js", .javascript⟩

/-- The only export of the page is one that the scan counts. -/
theorem Extraction.configPage_isScanned (async : Bool) {call statement : Cursor}
    (hCall : (configPage async).top.Below call)
    (nearest : statement.IsNearestAround (· = .exportStatement) call) :
    (configPage async).IsScanned statement := by
  obtain ⟨inner, outer, hAncestors, hKind, -⟩ := nearest
  have hAround : statement ∈ call :: call.ancestors := by simp [hAncestors]
  have hPlace : (configPage async).top.Below statement :=
    Cursor.below_of_below hCall ((Cursor.mem_ancestors_iff hCall).mp hAround)
  have hExports : (configPage async).top.walk.filter (·.kind = .exportStatement) =
      (configPage async).top.namedChildren.filter (·.kind = .exportStatement) := by
    cases async
    · rfl
    · rfl
  have hForm : ∀ cursor ∈ (configPage async).top.walk, cursor.kind = .exportStatement →
      (∀ child ∈ cursor.children, child.kind ≠ .defaultKeyword) ∧
        ∀ declaration ∈ cursor.child? .declaration,
          declaration.kind ≠ .generatorFunctionDeclaration := by
    cases async
    · decide +kernel
    · decide +kernel
  have hWalk := Cursor.mem_walk_iff.mpr hPlace
  have hTop : statement ∈ (configPage async).top.walk.filter (·.kind = .exportStatement) :=
    List.mem_filter.mpr ⟨hWalk, decide_eq_true hKind⟩
  rw [hExports] at hTop
  obtain ⟨hNamed, hGenerator⟩ := hForm statement hWalk hKind
  exact ⟨(List.mem_filter.mp hTop).1, hNamed, hGenerator⟩

/-- With the keyword the page has a query for its configuration, without it the query is
refused, and the scan finds the export in both. -/
theorem Extraction.config_query_in_scanned_export_configPage :
    (∃ extraction, Extraction.ofTree (configPage true) "a.js" {} = .ok extraction ∧
      (∃ fragment ∈ extraction.fragments, fragment.queryType = .config) ∧
      (Features.ofTree (configPage true)).config = true) ∧
    Extraction.ofTree (configPage false) "a.js" {} =
        .error (.exportNotAsync "config" ⟨⟨1, 29, 28⟩, some ⟨1, 29, 28⟩⟩) ∧
      (Features.ofTree (configPage false)).config = true := by
  constructor
  · have hFound : (Extraction.ofTree (configPage true) "a.js" {}).toOption.map
        (fun extraction => decide (∃ fragment ∈ extraction.fragments,
          fragment.queryType = .config)) = some true := by
      decide +kernel
    cases hResult : Extraction.ofTree (configPage true) "a.js" {} with
    | error fault =>
        rw [hResult] at hFound
        cases hFound
    | ok extraction =>
        rw [hResult] at hFound
        obtain ⟨fragment, hFragment, hConfig⟩ := of_decide_eq_true (Option.some.inj hFound)
        obtain ⟨call, statement, hCall, -, nearest, -, hScan⟩ :=
          (config_query_in_scanned_export _ _ _).1 extraction hResult fragment hFragment hConfig
        exact ⟨extraction, rfl, ⟨fragment, hFragment, hConfig⟩,
          hScan (configPage_isScanned true hCall nearest)⟩
  · have hFound : (Extraction.ofTree (configPage false) "a.js" {}).map (fun _ => ()) =
        .error (.exportNotAsync "config" ⟨⟨1, 29, 28⟩, some ⟨1, 29, 28⟩⟩) := by
      decide +kernel
    cases hResult : Extraction.ofTree (configPage false) "a.js" {} with
    | ok extraction =>
        rw [hResult] at hFound
        cases hFound
    | error fault =>
        rw [hResult] at hFound
        cases hFound
        obtain ⟨call, statement, hCall, -, nearest, -, hScan⟩ :=
          (config_query_in_scanned_export _ _ _).2 _ _ hResult
        exact ⟨rfl, hScan (configPage_isScanned false hCall nearest)⟩

/-- The tree of ``import{graphql}from"gatsby";`` followed by
``export default async function config(){graphql`{a}`}export{config as page}``. -/
def Extraction.renamedDefault : SyntaxTree :=
  ⟨.phrase .program 0 102 none
    [.tagImport 0,
      .phrase .exportStatement 28 80 none
        [.token "export" 28, .token "default" 35,
          .phrase .functionDeclaration 43 80 (some .declaration)
            [.token "async" 43, .token "function" 49,
              .phrase .identifier 58 64 (some .name) [],
              .phrase .formalParameters 64 66 (some .parameters)
                [.token "(" 64, .token ")" 65],
              .phrase .statementBlock 66 80 (some (.other "body"))
                [.token "\x7b" 66,
                  .phrase (.other "expression_statement") 67 79 none
                    [.phrase .callExpression 67 79 none
                      [.phrase .identifier 67 74 (some .function) [],
                        .quoted .templateString "`" 74 79 (some .arguments)]],
                  .token "\x7d" 79]]],
      .phrase .exportStatement 80 102 none
        [.token "export" 80,
          .phrase .exportClause 86 102 none
            [.token "\x7b" 86,
              .phrase .exportSpecifier 87 101 none
                [.phrase .identifier 87 93 (some .name) [], .token "as" 94,
                  .phrase .identifier 97 101 (some .aliasName) []],
              .token "\x7d" 101]]],
    ("import\x7bgraphql\x7dfrom\"gatsby\";export default async function " ++
      "config()\x7bgraphql`\x7ba\x7d`\x7dexport\x7bconfig as page\x7d").toList,
    "a.js", .javascript⟩

/-- The name in braces leads to the default export, which declares the configuration. The
scan does not count default exports, and no other export has the name. -/
theorem Extraction.config_query_in_default_export :
    ∃ extraction, Extraction.ofTree renamedDefault "a.js" {} = .ok extraction ∧
      (∃ fragment ∈ extraction.fragments, fragment.queryType = .config) ∧
      (Features.ofTree renamedDefault).config = false := by
  have hFound : (Extraction.ofTree renamedDefault "a.js" {}).toOption.map
      (fun extraction => decide (∃ fragment ∈ extraction.fragments,
        fragment.queryType = .config)) = some true := by
    decide +kernel
  cases hResult : Extraction.ofTree renamedDefault "a.js" {} with
  | error fault =>
      rw [hResult] at hFound
      cases hFound
  | ok extraction =>
      rw [hResult] at hFound
      exact ⟨extraction, rfl, of_decide_eq_true (Option.some.inj hFound), by decide +kernel⟩

end ComponentQueries
