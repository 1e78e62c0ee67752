import ComponentQueries.Proofs.Extraction.Faults
import ComponentQueries.Proofs.Extraction.Routes
import Mathlib.Data.List.Basic

/-! Which fault wins. Templates are read on occasions that come one after another, and
extraction fails with the fault of the first occasion that has one. -/
namespace ComponentQueries

/-- An occasion on which a template is read: a query attribute of an element, a call of the
hook, an export statement that has the template in it, or a name in the braces of one. -/
inductive Occasion where
  | element (opening entry template : Cursor)
  | hookCall (call template : Cursor)
  | inside (statement template : Cursor)
  | traced (statement specifier template : Cursor)

namespace Occasion

/-- The template that is read on an occasion, and the way to it. -/
def visit : Occasion → Visit
  | element _ _ template => ⟨template, .element⟩
  | hookCall _ template => ⟨template, .hook⟩
  | inside _ template => ⟨template, .exported⟩
  | traced _ _ template => ⟨template, .exported⟩

/-- The export statement that gives an occasion, which elements and hook calls do not have. -/
def statement? : Occasion → Option Cursor
  | inside statement _ => some statement
  | traced statement _ _ => some statement
  | _ => none

/-- The order of occasions. All attributes come first, in the order of the elements, and all
calls come second. Exports are last, one after another: the templates in an export come
before those of its names, and these come name by name. -/
def Before : Occasion → Occasion → Prop
  | element opening entry _, element opening' entry' _ =>
    opening.Precedes opening' ∨ opening = opening' ∧ entry.Precedes entry'
  | element .., _ => True
  | hookCall .., element .. => False
  | hookCall call _, hookCall call' _ => call.Precedes call'
  | hookCall .., _ => True
  | inside statement template, inside statement' template' =>
    statement.Precedes statement' ∨ statement = statement' ∧ template.Precedes template'
  | inside statement _, traced statement' _ _ =>
    statement.Precedes statement' ∨ statement = statement'
  | inside .., _ => False
  | traced statement _ _, inside statement' _ => statement.Precedes statement'
  | traced statement specifier template, traced statement' specifier' template' =>
    statement.Precedes statement' ∨ statement = statement' ∧
      (specifier.Precedes specifier' ∨ specifier = specifier' ∧ template.Precedes template')
  | traced .., _ => False

/-- Of two occasions only one can come first. -/
theorem Before.asymm {first second : Occasion} (h : first.Before second) :
    ¬second.Before first := by
  cases first with
  | element =>
      cases second with
      | element => exact Cursor.Precedes.lex_asymm h fun h => h.asymm
      | hookCall => exact id
      | inside => exact id
      | traced => exact id
  | hookCall =>
      cases second with
      | element => exact h.elim
      | hookCall => exact Cursor.Precedes.asymm h
      | inside => exact id
      | traced => exact id
  | inside =>
      cases second with
      | element => exact h.elim
      | hookCall => exact h.elim
      | inside => exact Cursor.Precedes.lex_asymm h fun h => h.asymm
      | traced =>
          intro (h' : Cursor.Precedes _ _)
          rcases h with h | rfl
          · exact h.asymm h'
          · exact h'.asymm h'
  | traced =>
      cases second with
      | element => exact h.elim
      | hookCall => exact h.elim
      | inside =>
          have h : Cursor.Precedes _ _ := h
          rintro (h' | rfl)
          · exact h.asymm h'
          · exact h.asymm h
      | traced =>
          exact Cursor.Precedes.lex_asymm h fun h => Cursor.Precedes.lex_asymm h fun h => h.asymm

/-- One export is done with before the next. -/
theorem before_of_statements {first second : Occasion} {left right : Cursor}
    (hFirst : first.statement? = some left) (hSecond : second.statement? = some right)
    (h : left.Precedes right) : first.Before second := by
  cases first with
  | element => cases hFirst
  | hookCall => cases hFirst
  | inside =>
      cases hFirst
      cases second with
      | element => cases hSecond
      | hookCall => cases hSecond
      | inside => cases hSecond; exact Or.inl h
      | traced => cases hSecond; exact Or.inl h
  | traced =>
      cases hFirst
      cases second with
      | element => cases hSecond
      | hookCall => cases hSecond
      | inside => cases hSecond; exact h
      | traced => cases hSecond; exact Or.inl h

/-- Exports come after all else. -/
theorem before_of_statement {first second : Occasion} {statement : Cursor}
    (hFirst : first.statement? = none) (hSecond : second.statement? = some statement) :
    first.Before second := by
  cases first with
  | element =>
      cases second with
      | element => cases hSecond
      | hookCall => cases hSecond
      | inside => trivial
      | traced => trivial
  | hookCall =>
      cases second with
      | element => cases hSecond
      | hookCall => cases hSecond
      | inside => trivial
      | traced => trivial
  | inside => cases hFirst
  | traced => cases hFirst

end Occasion

namespace Source

/-- The occasions that a file gives. -/
inductive Occurs (source : Source) : Occasion → Prop where
  | element {opening entry expression template : Cursor}
      (enabled : source.settings.staticQueryElements = true)
      (place : source.tree.top.Below opening) (begins : source.BeginsElement opening)
      (hEntry : entry ∈ opening.namedChildren)
      (hAttribute : source.IsQueryAttribute entry expression)
      (target : source.Targets expression template) :
      Occurs source (.element opening entry template)
  | hookCall {call expression template : Cursor} (place : source.tree.top.Below call)
      (argument : source.IsHookArgument call expression)
      (target : source.Targets expression template) : Occurs source (.hookCall call template)
  | inside {statement template : Cursor} (hExport : source.IsOwnExport statement)
      (place : statement.Below template) (tagged : template.isTaggedTemplate = true) :
      Occurs source (.inside statement template)
  | traced {statement clause specifier name template : Cursor} {binding : Binding}
      (hExport : source.IsOwnExport statement) (hClause : clause ∈ statement.namedChildren)
      (isClause : clause.kind = .exportClause) (hSpecifier : specifier ∈ clause.namedChildren)
      (isSpecifier : specifier.kind = .exportSpecifier)
      (hName : specifier.child? .name = some name)
      (leads : source.table.followAliases source.tree
        (source.table.moduleBinding? (source.tree.textOf name)) = some binding)
      (place : binding.site.Below template) (tagged : template.isTaggedTemplate = true) :
      Occurs source (.traced statement specifier template)

variable {source : Source}

/-- The occasion to read the template that an expression stands for. -/
def occasion? (source : Source) (path usage : String) (route : Route)
    (occasion : Cursor → Occasion) (expression : Cursor) : Option Occasion :=
  ((source.target? path usage route expression).bind Finding.visit?).map
    fun visit => occasion visit.template

/-- An expression is an occasion for the template that it leads to. -/
theorem occasion?_eq_some_iff {path usage : String} {route : Route}
    {occasion : Cursor → Occasion} {expression : Cursor} {found : Occasion} :
    source.occasion? path usage route occasion expression = some found ↔
      ∃ template, source.Targets expression template ∧ occasion template = found := by
  simp only [occasion?, Option.map_eq_some_iff, target?_visit_iff]
  constructor
  · rintro ⟨visit, ⟨-, hTarget⟩, rfl⟩
    exact ⟨visit.template, hTarget, rfl⟩
  · rintro ⟨template, hTarget, rfl⟩
    exact ⟨⟨template, route⟩, ⟨rfl, hTarget⟩, rfl⟩

theorem exists_template_of_bind {path usage : String} {route : Route}
    {occasion : Cursor → Occasion} {expression? : Option Cursor} {found : Occasion}
    (h : expression?.bind (source.occasion? path usage route occasion) = some found) :
    ∃ template, found = occasion template := by
  obtain ⟨expression, _, h⟩ := Option.bind_eq_some_iff.mp h
  obtain ⟨template, _, rfl⟩ := occasion?_eq_some_iff.mp h
  exact ⟨template, rfl⟩

/-- Occasions are the visits, together with the places that lead to them. -/
theorem occasion?_map_visit {path usage : String} {route : Route}
    {occasion : Cursor → Occasion}
    (hVisit : ∀ template, (occasion template).visit = ⟨template, route⟩) (expression : Cursor) :
    (source.occasion? path usage route occasion expression).map Occasion.visit =
      (source.target? path usage route expression).bind Finding.visit? := by
  rw [occasion?, Option.map_map]
  cases hFound : (source.target? path usage route expression).bind Finding.visit? with
  | none => rfl
  | some visit =>
      obtain ⟨rfl, -⟩ := target?_visit_iff.mp hFound
      exact congrArg some (hVisit visit.template)

/-- The occasions of elements, in the order in which they come up. -/
def elementOccasions (source : Source) (path : String) : List Occasion :=
  if source.settings.staticQueryElements then
    (source.tree.walk.filter source.isQueryElement).flatMap fun opening =>
      opening.namedChildren.filterMap fun entry =>
        (source.queryAttribute? entry).bind
          (source.occasion? path ("<" ++ source.settings.elementName ++ ">") .element
            (.element opening entry))
  else []

/-- The occasions of hook calls, in the order in which they come up. -/
def hookOccasions (source : Source) (path : String) : List Occasion :=
  (source.tree.walk.filter source.isHookCall).filterMap fun call =>
    ((call.child? .arguments).bind Cursor.firstExpression?).bind
      (source.occasion? path source.settings.hookName .hook (.hookCall call))

/-- The occasions of an export statement, in the order in which they come up. -/
def statementOccasions (source : Source) (statement : Cursor) : List Occasion :=
  (templatesIn statement).map (.inside statement) ++
    statement.exportSpecifiers.flatMap fun specifier =>
      (source.exportedBinding? specifier).toList.flatMap fun binding =>
        (templatesIn binding.site).map (.traced statement specifier)

/-- All occasions of a file, in the order in which they come up. -/
def occasions (source : Source) (path : String) : List Occasion :=
  source.elementOccasions path ++ source.hookOccasions path ++
    source.tree.namedExports.flatMap source.statementOccasions

theorem elementOccasions_map_visit (source : Source) (path : String) :
    (source.elementOccasions path).map Occasion.visit =
      (if source.settings.staticQueryElements then source.elementFindings path
        else []).filterMap Finding.visit? := by
  unfold elementOccasions
  split
  · rw [List.map_flatMap, elementFindings, List.filterMap_flatMap]
    refine congrArg (List.flatMap · _) (funext fun opening => ?_)
    rw [List.map_filterMap, List.filterMap_filterMap, List.filterMap_filterMap]
    refine congrArg (List.filterMap · _) (funext fun entry => ?_)
    cases hAttribute : source.queryAttribute? entry with
    | none => rfl
    | some expression => exact occasion?_map_visit (fun _ => rfl) expression
  · rfl

theorem hookOccasions_map_visit (source : Source) (path : String) :
    (source.hookOccasions path).map Occasion.visit =
      (source.hookFindings path).filterMap Finding.visit? := by
  rw [hookOccasions, hookFindings, List.map_filterMap, List.filterMap_filterMap,
    List.filterMap_filterMap]
  refine congrArg (List.filterMap · _) (funext fun call => ?_)
  cases hArgument : (call.child? .arguments).bind Cursor.firstExpression? with
  | none => rfl
  | some expression => exact occasion?_map_visit (fun _ => rfl) expression

theorem statementOccasions_map_visit (statement : Cursor) :
    (source.statementOccasions statement).map Occasion.visit =
      (source.exportTemplates statement).map fun template => ⟨template, .exported⟩ := by
  simp only [statementOccasions, exportTemplates, List.map_append, List.map_map, List.map_flatMap,
    List.filterMap_eq_flatMap_toList, List.flatMap_assoc]
  rfl

/-- The occasions lead to the templates that are read, one after another. -/
theorem occasions_map_visit (source : Source) (path : String) :
    (source.occasions path).map Occasion.visit = source.visits path := by
  rw [visits_eq, occasions, List.map_append, List.map_append, elementOccasions_map_visit,
    hookOccasions_map_visit, List.map_flatMap, exportVisits]
  simp only [statementOccasions_map_visit]

/-- The occasions that are listed for elements are those that there are. -/
theorem mem_elementOccasions_iff {path : String} {occasion : Occasion} :
    occasion ∈ source.elementOccasions path ↔
      ∃ opening entry template, occasion = .element opening entry template ∧
        source.Occurs occasion := by
  unfold elementOccasions
  split
  · next enabled =>
      simp only [List.mem_flatMap, List.mem_filter, List.mem_filterMap, Option.bind_eq_some_iff,
        occasion?_eq_some_iff, queryAttribute?_eq_some_iff, isQueryElement_iff, SyntaxTree.walk,
        Cursor.mem_walk_iff]
      constructor
      · rintro ⟨opening, ⟨place, begins⟩, entry, hEntry, expression, hAttribute, template, target,
          rfl⟩
        exact ⟨opening, entry, template, rfl,
          .element enabled place begins hEntry hAttribute target⟩
      · rintro ⟨opening, entry, template, rfl, h⟩
        cases h with
        | element _ place begins hEntry hAttribute target =>
            exact ⟨opening, ⟨place, begins⟩, entry, hEntry, _, hAttribute, template, target, rfl⟩
  · next disabled =>
      constructor
      · intro h
        cases h
      · rintro ⟨opening, entry, template, rfl, h⟩
        cases h with
        | element enabled => exact absurd enabled disabled

/-- The same for calls of the hook. -/
theorem mem_hookOccasions_iff {path : String} {occasion : Occasion} :
    occasion ∈ source.hookOccasions path ↔
      ∃ call template, occasion = .hookCall call template ∧ source.Occurs occasion := by
  rw [hookOccasions, List.mem_filterMap]
  constructor
  · rintro ⟨call, hCall, h⟩
    obtain ⟨hWalk, hHook⟩ := List.mem_filter.mp hCall
    obtain ⟨expression, hArgument, h⟩ := Option.bind_eq_some_iff.mp h
    obtain ⟨template, target, rfl⟩ := occasion?_eq_some_iff.mp h
    exact ⟨call, template, rfl, .hookCall (Cursor.mem_walk_iff.mp hWalk)
      (isHookArgument_iff.mpr ⟨hHook, hArgument⟩) target⟩
  · rintro ⟨call, template, rfl, h⟩
    cases h with
    | hookCall place argument target =>
        obtain ⟨hHook, hArgument⟩ := isHookArgument_iff.mp argument
        refine ⟨call, List.mem_filter.mpr ⟨Cursor.mem_walk_iff.mpr place, hHook⟩, ?_⟩
        exact Option.bind_eq_some_iff.mpr
          ⟨_, hArgument, occasion?_eq_some_iff.mpr ⟨template, target, rfl⟩⟩

/-- The same for one export, which has occasions of its own and those of the names that it
lists. -/
theorem mem_statementOccasions_iff {statement : Cursor} (hExport : source.IsOwnExport statement)
    {occasion : Occasion} :
    occasion ∈ source.statementOccasions statement ↔
      source.Occurs occasion ∧ occasion.statement? = some statement := by
  simp only [statementOccasions, List.mem_append, List.mem_map, List.mem_flatMap,
    mem_templatesIn_iff, mem_exportSpecifiers_iff, Option.mem_toList, exportedBinding?,
    Option.bind_eq_some_iff]
  constructor
  · rintro (⟨template, ⟨place, tagged⟩, rfl⟩ |
      ⟨specifier, ⟨clause, hClause, isClause, hSpecifier, isSpecifier⟩, binding,
        ⟨name, hName, leads⟩, template, ⟨place, tagged⟩, rfl⟩)
    · exact ⟨.inside hExport place tagged, rfl⟩
    · exact ⟨.traced hExport hClause isClause hSpecifier isSpecifier hName leads place tagged, rfl⟩
  · rintro ⟨h, hStatement⟩
    cases h with
    | element => cases hStatement
    | hookCall => cases hStatement
    | inside _ place tagged =>
        cases hStatement
        exact Or.inl ⟨_, ⟨place, tagged⟩, rfl⟩
    | traced _ hClause isClause hSpecifier isSpecifier hName leads place tagged =>
        cases hStatement
        exact Or.inr ⟨_, ⟨_, hClause, isClause, hSpecifier, isSpecifier⟩, _, ⟨_, hName, leads⟩, _,
          ⟨place, tagged⟩, rfl⟩

/-- Every occasion comes up, and nothing else does. -/
theorem mem_occasions_iff {path : String} {occasion : Occasion} :
    occasion ∈ source.occasions path ↔ source.Occurs occasion := by
  rw [occasions, List.mem_append, List.mem_append, mem_elementOccasions_iff, mem_hookOccasions_iff,
    List.mem_flatMap]
  constructor
  · rintro ((⟨_, _, _, _, h⟩ | ⟨_, _, _, h⟩) | ⟨statement, hStatement, h⟩)
    · exact h
    · exact h
    · exact ((mem_statementOccasions_iff (mem_namedExports_iff.mp hStatement)).mp h).1
  · intro h
    cases h with
    | element enabled place begins hEntry hAttribute target =>
        exact Or.inl (Or.inl ⟨_, _, _, rfl, .element enabled place begins hEntry hAttribute target⟩)
    | hookCall place argument target =>
        exact Or.inl (Or.inr ⟨_, _, rfl, .hookCall place argument target⟩)
    | inside hExport place tagged =>
        exact Or.inr ⟨_, mem_namedExports_iff.mpr hExport, (mem_statementOccasions_iff hExport).mpr
          ⟨.inside hExport place tagged, rfl⟩⟩
    | traced hExport hClause isClause hSpecifier isSpecifier hName leads place tagged =>
        exact Or.inr ⟨_, mem_namedExports_iff.mpr hExport, (mem_statementOccasions_iff hExport).mpr
          ⟨.traced hExport hClause isClause hSpecifier isSpecifier hName leads place tagged, rfl⟩⟩

/-- Elements are met in the order of the document, and so are the attributes of one. -/
theorem elementOccasions_in_order (source : Source) (path : String) :
    (source.elementOccasions path).Pairwise Occasion.Before := by
  unfold elementOccasions
  split
  · rw [List.pairwise_flatMap]
    constructor
    · intro opening _
      rw [List.pairwise_filterMap]
      refine (Cursor.namedChildren_in_order opening).imp fun {left right} h => ?_
      intro first hFirst second hSecond
      obtain ⟨_, rfl⟩ := exists_template_of_bind hFirst
      obtain ⟨_, rfl⟩ := exists_template_of_bind hSecond
      exact Or.inr ⟨rfl, h left .self right .self⟩
    · refine ((Cursor.walk_in_order source.tree.top).filter _).imp fun {left right} h => ?_
      intro first hFirst second hSecond
      obtain ⟨_, _, hFirst⟩ := List.mem_filterMap.mp hFirst
      obtain ⟨_, _, hSecond⟩ := List.mem_filterMap.mp hSecond
      obtain ⟨_, rfl⟩ := exists_template_of_bind hFirst
      obtain ⟨_, rfl⟩ := exists_template_of_bind hSecond
      exact Or.inl h
  · exact .nil

theorem hookOccasions_in_order (source : Source) (path : String) :
    (source.hookOccasions path).Pairwise Occasion.Before := by
  rw [hookOccasions, List.pairwise_filterMap]
  refine ((Cursor.walk_in_order source.tree.top).filter _).imp fun h => ?_
  intro first hFirst second hSecond
  obtain ⟨_, rfl⟩ := exists_template_of_bind hFirst
  obtain ⟨_, rfl⟩ := exists_template_of_bind hSecond
  exact h

/-- The specifiers of an export stand in the order of the document. -/
theorem exportSpecifiers_in_order (statement : Cursor) :
    statement.exportSpecifiers.Pairwise Cursor.Precedes := by
  rw [Cursor.exportSpecifiers, List.pairwise_flatMap]
  constructor
  · intro clause _
    refine ((Cursor.namedChildren_in_order clause).filter _).imp fun {left right} h => ?_
    exact h left .self right .self
  · refine ((Cursor.namedChildren_in_order statement).filter _).imp ?_
    intro clause clause' h left hLeft right hRight
    exact h left (Cursor.Below.self.named (List.mem_filter.mp hLeft).1) right
      (Cursor.Below.self.named (List.mem_filter.mp hRight).1)

theorem templatesIn_in_order (cursor : Cursor) : (templatesIn cursor).Pairwise Cursor.Precedes :=
  (Cursor.walk_in_order cursor).filter _

/-- The templates in an export come before those of the names that it lists. -/
theorem statementOccasions_in_order (statement : Cursor) :
    (source.statementOccasions statement).Pairwise Occasion.Before := by
  rw [statementOccasions, List.pairwise_append, List.pairwise_map, List.pairwise_flatMap]
  refine ⟨?_, ⟨fun specifier _ => ?_, ?_⟩, ?_⟩
  · exact (templatesIn_in_order statement).imp fun h => Or.inr ⟨rfl, h⟩
  · -- A name leads to one declaration at most.
    cases source.exportedBinding? specifier with
    | none => exact .nil
    | some binding =>
        simp only [Option.toList_some, List.flatMap_singleton, List.pairwise_map]
        exact (templatesIn_in_order binding.site).imp fun h => Or.inr ⟨rfl, Or.inr ⟨rfl, h⟩⟩
  · refine (exportSpecifiers_in_order statement).imp fun h first hFirst second hSecond => ?_
    obtain ⟨_, _, hFirst⟩ := List.mem_flatMap.mp hFirst
    obtain ⟨_, _, hSecond⟩ := List.mem_flatMap.mp hSecond
    obtain ⟨_, _, rfl⟩ := List.mem_map.mp hFirst
    obtain ⟨_, _, rfl⟩ := List.mem_map.mp hSecond
    exact Or.inr ⟨rfl, Or.inl h⟩
  · intro first hFirst second hSecond
    obtain ⟨_, _, hSecond⟩ := List.mem_flatMap.mp hSecond
    obtain ⟨_, _, hSecond⟩ := List.mem_flatMap.mp hSecond
    obtain ⟨_, _, rfl⟩ := List.mem_map.mp hFirst
    obtain ⟨_, _, rfl⟩ := List.mem_map.mp hSecond
    exact Or.inr rfl

/-- Occasions come up in their order. -/
theorem occasions_in_order (source : Source) (path : String) :
    (source.occasions path).Pairwise Occasion.Before := by
  have hStatement {statement : Cursor} {occasion : Occasion}
      (hExport : statement ∈ source.tree.namedExports)
      (h : occasion ∈ source.statementOccasions statement) :
      occasion.statement? = some statement :=
    ((mem_statementOccasions_iff (mem_namedExports_iff.mp hExport)).mp h).2
  rw [occasions, List.pairwise_append, List.pairwise_append, List.pairwise_flatMap]
  refine ⟨⟨elementOccasions_in_order source path, hookOccasions_in_order source path, ?_⟩,
    ⟨fun statement _ => statementOccasions_in_order statement, ?_⟩, ?_⟩
  · intro first hFirst second hSecond
    obtain ⟨_, _, _, rfl, _⟩ := mem_elementOccasions_iff.mp hFirst
    obtain ⟨_, _, rfl, _⟩ := mem_hookOccasions_iff.mp hSecond
    trivial
  · refine ((Cursor.namedChildren_in_order source.tree.top).filter _).imp_of_mem ?_
    intro left right hLeft hRight h first hFirst second hSecond
    exact Occasion.before_of_statements (hStatement hLeft hFirst) (hStatement hRight hSecond)
      (h left .self right .self)
  · intro first hFirst second hSecond
    obtain ⟨statement, hExport, hSecond⟩ := List.mem_flatMap.mp hSecond
    rcases List.mem_append.mp hFirst with hFirst | hFirst
    · obtain ⟨_, _, _, rfl, _⟩ := mem_elementOccasions_iff.mp hFirst
      exact Occasion.before_of_statement rfl (hStatement hExport hSecond)
    · obtain ⟨_, _, rfl, _⟩ := mem_hookOccasions_iff.mp hFirst
      exact Occasion.before_of_statement rfl (hStatement hExport hSecond)

/-- The fault of a visit, if it has one. -/
def fault? (source : Source) (path : String) (visit : Visit) : Option Fault :=
  match source.readVisit path visit with
  | .error fault => some fault
  | .ok _ => none

/-- The fault that a visit ends in is the one that its template has. -/
theorem fault?_eq_some_iff {path : String} {visit : Visit} {fault : Fault} :
    source.fault? path visit = some fault ↔ source.Fails visit fault := by
  rw [← readVisit_eq_error_iff, fault?]
  cases source.readVisit path visit <;> simp

theorem fault?_eq_none_iff {path : String} {visit : Visit} :
    source.fault? path visit = none ↔ ∀ fault, ¬source.Fails visit fault := by
  rw [Option.eq_none_iff_forall_ne_some]
  exact forall_congr' fun fault => not_congr fault?_eq_some_iff

/-- Reading stops at the first fault. -/
theorem readVisits_eq_error_iff {path : String} {visits : List Visit} {fault : Fault} :
    source.readVisits path visits = .error fault ↔
      visits.findSome? (source.fault? path) = some fault := by
  induction visits with
  | nil => simp [readVisits]
  | cons visit others ih =>
      rw [readVisits, List.findSome?_cons, fault?]
      cases source.readVisit path visit with
      | error other => simp
      | ok fragment? =>
          dsimp only
          rw [← ih]
          cases source.readVisits path others <;> simp [Except.map]

end Source

/-- Extraction ends in the fault of the first occasion that has one. -/
theorem Extraction.ofTree_eq_error_iff {tree : SyntaxTree} {path : String} {settings : Settings}
    {fault : Fault} :
    Extraction.ofTree tree path settings = .error fault ↔
      ((Source.ofTree tree settings).occasions path).findSome?
        (fun occasion => (Source.ofTree tree settings).fault? path occasion.visit) =
          some fault := by
  have hRead : Extraction.ofTree tree path settings = .error fault ↔
      (Source.ofTree tree settings).readVisits path
        ((Source.ofTree tree settings).visits path) = .error fault := by
    rw [Extraction.ofTree]
    split
    · next hOther => simp [hOther]
    · next hOther => simp [hOther]
  rw [hRead, Source.readVisits_eq_error_iff, ← Source.occasions_map_visit, List.findSome?_map]
  rfl

/-- Extraction comes to an end if no occasion has a fault. -/
theorem Extraction.exists_ofTree_eq_ok_iff {tree : SyntaxTree} {path : String}
    {settings : Settings} :
    (∃ extraction, Extraction.ofTree tree path settings = .ok extraction) ↔
      ((Source.ofTree tree settings).occasions path).findSome?
        (fun occasion => (Source.ofTree tree settings).fault? path occasion.visit) = none := by
  constructor
  · rintro ⟨extraction, hOk⟩
    refine Option.eq_none_iff_forall_ne_some.mpr fun fault hFault => ?_
    rw [ofTree_eq_error_iff.mpr hFault] at hOk
    cases hOk
  · intro hNone
    cases hResult : Extraction.ofTree tree path settings with
    | ok extraction => exact ⟨extraction, rfl⟩
    | error fault =>
        rw [ofTree_eq_error_iff.mp hResult] at hNone
        cases hNone

/-- Extraction fails with a fault exactly if that is the fault of a template which is read
before any other that has one, and it ends well exactly if no template has a fault. -/
theorem Extraction.ofTree_first_fault (tree : SyntaxTree) (path : String) (settings : Settings) :
    (∀ fault, Extraction.ofTree tree path settings = .error fault ↔
      ∃ occasion, (Source.ofTree tree settings).Occurs occasion ∧
        (Source.ofTree tree settings).Fails occasion.visit fault ∧
        ∀ sooner, (Source.ofTree tree settings).Occurs sooner → sooner.Before occasion →
          ∀ other, ¬(Source.ofTree tree settings).Fails sooner.visit other) ∧
    ((∃ extraction, Extraction.ofTree tree path settings = .ok extraction) ↔
      ∀ occasion, (Source.ofTree tree settings).Occurs occasion →
        ∀ fault, ¬(Source.ofTree tree settings).Fails occasion.visit fault) := by
  constructor
  · intro fault
    rw [ofTree_eq_error_iff, findSome?_eq_some_iff_of_pairwise (fun h => h.asymm)
      (Source.occasions_in_order _ path)]
    simp only [Source.mem_occasions_iff, Source.fault?_eq_some_iff, Source.fault?_eq_none_iff]
  · rw [exists_ofTree_eq_ok_iff, List.findSome?_eq_none_iff]
    simp only [Source.mem_occasions_iff, Source.fault?_eq_none_iff]

end ComponentQueries
