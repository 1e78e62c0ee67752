import ComponentQueries.Proofs.SyntaxTree.DocumentOrder

/-! The search for the first fault of a tree. It passes over the children that are flagged as
sound, and still finds the fault that comes first in the document, as long as the flags are
right. -/
namespace ComponentQueries

namespace Cursor

/-- The flags below a node are right: a node has an error exactly if it is a fault or a fault
is somewhere below it. -/
def FlagsRight (top : Cursor) : Prop :=
  ∀ cursor, top.Below cursor →
    (cursor.node.hasError = true ↔ ∃ fault, cursor.Below fault ∧ fault.node.isFault = true)

instance (top : Cursor) : Decidable top.FlagsRight :=
  decidable_of_iff
    (∀ cursor ∈ top.walk,
      (cursor.node.hasError = true ↔ ∃ fault ∈ cursor.walk, fault.node.isFault = true)) <| by
    simp only [FlagsRight, mem_walk_iff]

theorem FlagsRight.child {cursor child : Cursor} (h : cursor.FlagsRight)
    (hChild : child ∈ cursor.children) : child.FlagsRight :=
  fun lower hLower => h lower ((below_of_mem_children hChild).trans hLower)

/-- The fault that comes before all others in the document. -/
structure IsFirstFault (top cursor : Cursor) : Prop where
  below : top.Below cursor
  fault : cursor.node.isFault = true
  first : ∀ other, top.Below other → other.node.isFault = true → other ≠ cursor →
    cursor.Precedes other

theorem map_node_childrenFrom (parent : Node) (trail : List Crumb) (nodes : List Node)
    (index : Nat) : (childrenFrom parent trail index nodes).map Cursor.node = nodes := by
  induction nodes generalizing index with
  | nil => rfl
  | cons node others ih => simp [childrenFrom, ih]

theorem map_node_children (cursor : Cursor) :
    cursor.children.map Cursor.node = cursor.node.children :=
  map_node_childrenFrom _ _ _ 0

/-- Looking through the walk finds the fault that comes first. -/
theorem find?_walk_eq_some_iff {top cursor : Cursor} :
    top.walk.find? (·.node.isFault) = some cursor ↔ top.IsFirstFault cursor := by
  have hOrder := walk_in_order top
  rw [List.find?_eq_some_iff_append]
  constructor
  · rintro ⟨hFault, before, after, hWalk, hBefore⟩
    refine ⟨mem_walk_iff.mp (by simp [hWalk]), hFault, fun other hOther hOtherFault hNe => ?_⟩
    rw [hWalk] at hOrder
    have hMem : other ∈ before ++ cursor :: after := hWalk ▸ mem_walk_iff.mpr hOther
    rcases List.mem_append.mp hMem with hMem | hMem
    · simpa [hOtherFault] using hBefore other hMem
    · have hAfter : other ∈ after := (List.mem_cons.mp hMem).resolve_left hNe
      exact (List.pairwise_cons.mp (List.pairwise_append.mp hOrder).2.1).1 other hAfter
  · rintro ⟨hBelow, hFault, hFirst⟩
    obtain ⟨before, after, hWalk⟩ := List.append_of_mem (mem_walk_iff.mpr hBelow)
    refine ⟨hFault, before, after, hWalk, fun other hOther => ?_⟩
    rw [hWalk] at hOrder
    have hEarlier : other.Precedes cursor :=
      (List.pairwise_append.mp hOrder).2.2 other hOther cursor (List.mem_cons_self ..)
    have hPlace : top.Below other := mem_walk_iff.mp (by simp [hWalk, hOther])
    cases hOtherFault : other.node.isFault with
    | false => rfl
    | true =>
        have hNe : other ≠ cursor := by
          rintro rfl
          exact hEarlier.asymm hEarlier
        exact absurd (hFirst other hPlace hOtherFault hNe) hEarlier.asymm

end Cursor

/-- Passing over elements without an answer does not change the first answer. -/
theorem findSome?_filter_eq {α β : Type} {isKept : α → Bool} {f g : α → Option β} {list : List α}
    (hKept : ∀ a ∈ list, isKept a = true → f a = g a)
    (hPassed : ∀ a ∈ list, isKept a = false → g a = none) :
    (list.filter isKept).findSome? f = list.findSome? g := by
  induction list with
  | nil => rfl
  | cons a rest ih =>
      have hRest := ih (fun b hb => hKept b (List.mem_cons_of_mem _ hb))
        (fun b hb => hPassed b (List.mem_cons_of_mem _ hb))
      cases hTest : isKept a with
      | false => simp [hTest, hRest, hPassed a (List.mem_cons_self ..) hTest]
      | true =>
          rw [List.filter_cons_of_pos hTest, List.findSome?_cons, List.findSome?_cons, hRest,
            hKept a (List.mem_cons_self ..) hTest]

namespace Node

/-- A child that the search does not pass over. -/
def isSuspect (node : Node) : Bool :=
  node.hasError || node.missing

theorem firstFaultIn?_eq_findSome? (nodes : List Node) :
    firstFaultIn? nodes = (nodes.filter isSuspect).findSome? firstFault? := by
  induction nodes with
  | nil => simp [firstFaultIn?]
  | cons node others ih =>
      rw [firstFaultIn?, ih]
      cases hSuspect : node.isSuspect with
      | false =>
          have hFlags : (node.hasError || node.missing) = false := hSuspect
          simp [hFlags, hSuspect]
      | true =>
          have hFlags : (node.hasError || node.missing) = true := hSuspect
          rw [if_pos hFlags, List.filter_cons_of_pos hSuspect, List.findSome?_cons]
          cases node.firstFault? <;> rfl

theorem firstFault?_eq (node : Node) :
    node.firstFault? =
      if node.isFault then some node
      else (node.children.filter isSuspect).findSome? firstFault? := by
  obtain ⟨kind, named, missing, hasError, start, stop, field, children⟩ := node
  rw [firstFault?, firstFaultIn?_eq_findSome?]

/-- A search with a stack. The node on top is taken off and looked at, and if it is sound, its
suspect children take its place, the first of them on top. -/
inductive Searches : List Node → Option Node → Prop where
  | exhausted : Searches [] none
  | found {node : Node} {waiting : List Node} (fault : node.isFault = true) :
      Searches (node :: waiting) (some node)
  | deeper {node : Node} {waiting : List Node} {result : Option Node}
      (sound : node.isFault = false)
      (rest : Searches (node.children.filter isSuspect ++ waiting) result) :
      Searches (node :: waiting) result

/-- What a search still has to find is the first fault of what waits. -/
theorem Searches.eq_findSome? {waiting : List Node} {result : Option Node}
    (search : Searches waiting result) : result = waiting.findSome? firstFault? := by
  induction search with
  | exhausted => rfl
  | found fault => rw [List.findSome?_cons, firstFault?_eq, if_pos fault]
  | deeper sound _ ih =>
      rw [ih, List.findSome?_append, List.findSome?_cons, firstFault?_eq, sound]
      cases (List.filter isSuspect _).findSome? firstFault? <;> rfl

/-- A search through nodes in front of others ends, if each of them can be searched through. -/
theorem exists_searches_append {nodes waiting : List Node}
    (hNodes : ∀ node ∈ nodes, ∀ behind, (∃ result, Searches behind result) →
      ∃ result, Searches (node :: behind) result)
    (hWaiting : ∃ result, Searches waiting result) :
    ∃ result, Searches (nodes ++ waiting) result := by
  induction nodes with
  | nil => exact hWaiting
  | cons node others ih =>
      apply hNodes node (List.mem_cons_self ..)
      exact ih fun other hOther => hNodes other (List.mem_cons_of_mem _ hOther)

/-- The search through a subtree ends. The induction is on the subtree, for whatever waits
behind it. -/
theorem exists_searches_cons (cursor : Cursor) (waiting : List Node)
    (hWaiting : ∃ result, Searches waiting result) :
    ∃ result, Searches (cursor.node :: waiting) result := by
  induction cursor using Cursor.induction_down generalizing waiting with
  | step cursor ih =>
      cases hFault : cursor.node.isFault with
      | true => exact ⟨_, .found hFault⟩
      | false =>
          have hChildren : ∃ result,
              Searches (cursor.node.children.filter isSuspect ++ waiting) result := by
            apply exists_searches_append _ hWaiting
            intro node hNode behind hBehind
            have hMem : node ∈ cursor.children.map Cursor.node := by
              rw [Cursor.map_node_children]
              exact (List.mem_filter.mp hNode).1
            obtain ⟨child, hChild, rfl⟩ := List.mem_map.mp hMem
            exact ih child hChild behind hBehind
          obtain ⟨result, hResult⟩ := hChildren
          exact ⟨result, .deeper hFault hResult⟩

/-- The search with a stack ends, and it ends with the first fault. -/
theorem searches_iff {root : Node} {result : Option Node} :
    Searches [root] result ↔ result = root.firstFault? := by
  have hUnique : ∀ {result}, Searches [root] result → result = root.firstFault? := by
    intro result hResult
    rw [hResult.eq_findSome?, List.findSome?_cons, List.findSome?_nil]
    cases root.firstFault? <;> rfl
  constructor
  · exact hUnique
  · rintro rfl
    obtain ⟨result, hResult⟩ := exists_searches_cons (Cursor.ofRoot root) [] ⟨_, .exhausted⟩
    exact hUnique hResult ▸ hResult

end Node

namespace Cursor

/-- If a child is passed over, there is nothing to be found in it. -/
theorem FlagsRight.find?_walk_of_not_suspect {cursor : Cursor} (h : cursor.FlagsRight)
    (hSuspect : cursor.node.isSuspect = false) :
    cursor.walk.find? (·.node.isFault) = none := by
  have hFlag : cursor.node.hasError = false := (Bool.or_eq_false_iff.mp hSuspect).1
  rw [List.find?_eq_none]
  intro fault hMem hFault
  have hError := (h cursor .self).mpr ⟨fault, mem_walk_iff.mp hMem, hFault⟩
  rw [hFlag] at hError
  cases hError

/-- The search gives what the whole walk would give. The induction goes down the tree: what is
passed over holds no fault, and the rest is searched in the order of the document. -/
theorem FlagsRight.firstFault?_eq_find? {cursor : Cursor} (h : cursor.FlagsRight) :
    cursor.node.firstFault? = (cursor.walk.find? (·.node.isFault)).map Cursor.node := by
  induction cursor using induction_down with
  | step cursor ih =>
      rw [Node.firstFault?_eq, walk_eq, List.find?_cons, List.find?_flatMap]
      cases hFault : cursor.node.isFault with
      | true => rfl
      | false =>
          simp only [Bool.false_eq_true, if_false]
          rw [← map_node_children, List.filter_map, List.findSome?_map, List.map_findSome?]
          apply findSome?_filter_eq
          · intro child hChild _
            exact ih child hChild (h.child hChild)
          · intro child hChild hSuspect
            rw [Function.comp_apply, (h.child hChild).find?_walk_of_not_suspect hSuspect]
            rfl

theorem FlagsRight.firstFault?_eq_some_iff {top : Cursor} (h : top.FlagsRight) {fault : Node} :
    top.node.firstFault? = some fault ↔
      ∃ cursor, top.IsFirstFault cursor ∧ cursor.node = fault := by
  rw [h.firstFault?_eq_find?, Option.map_eq_some_iff]
  simp only [find?_walk_eq_some_iff]

theorem FlagsRight.firstFault?_eq_none_iff {top : Cursor} (h : top.FlagsRight) :
    top.node.firstFault? = none ↔
      ∀ cursor, top.Below cursor → cursor.node.isFault = false := by
  rw [h.firstFault?_eq_find?, Option.map_eq_none_iff, List.find?_eq_none]
  simp only [mem_walk_iff, Bool.not_eq_true]

theorem FlagsRight.hasError_iff {top : Cursor} (h : top.FlagsRight) :
    top.node.hasError = true ↔ ∃ fault, top.node.firstFault? = some fault := by
  rw [h top .self, ← Option.ne_none_iff_exists', Ne, h.firstFault?_eq_none_iff]
  simp

end Cursor

namespace SyntaxTree

/-- The location of the first fault of a tree in its text. -/
def IsFirstFaultPlace (root : Node) (text : String) (location : Option Range) : Prop :=
  ∃ cursor, (Cursor.ofRoot root).IsFirstFault cursor ∧
    location = some (Text.rangeBetween text.toList cursor.node.start cursor.node.stop)

/-- A text is refused exactly if its tree has a fault, and then at the first one. -/
theorem parseAs_eq_error_iff {grammar : Grammar} {language : Language} {text : String}
    (hFlags : (Cursor.ofRoot (grammar language text)).FlagsRight) (path : String)
    {location : Option Range} :
    parseAs grammar language text path = .error location ↔
      IsFirstFaultPlace (grammar language text) text location := by
  have hError := hFlags.hasError_iff
  simp only [Cursor.ofRoot] at hError
  rw [parseAs]
  constructor
  · intro h
    split at h
    · next hFlag =>
        obtain ⟨fault, hFault⟩ := hError.mp hFlag
        obtain ⟨cursor, hFirst, rfl⟩ := hFlags.firstFault?_eq_some_iff.mp hFault
        rw [hFault] at h
        exact ⟨cursor, hFirst, (Except.error.inj h).symm⟩
    · cases h
  · rintro ⟨cursor, hFirst, rfl⟩
    have hFault : (grammar language text).firstFault? = some cursor.node :=
      hFlags.firstFault?_eq_some_iff.mpr ⟨cursor, hFirst, rfl⟩
    rw [if_pos (hError.mpr ⟨_, hFault⟩), hFault]
    rfl

/-- In a tree with the right flags, the search gives the fault that comes first in the whole
document, and nothing exactly if there is no fault; so does a search with a stack. A text with
this tree is refused exactly if the tree has a fault, and at the place of the first. -/
theorem parse_fails_at_first_fault {root : Node} (hFlags : (Cursor.ofRoot root).FlagsRight) :
    (∀ fault, root.firstFault? = some fault ↔
      ∃ cursor, (Cursor.ofRoot root).IsFirstFault cursor ∧ cursor.node = fault) ∧
    (root.firstFault? = none ↔
      ∀ cursor, (Cursor.ofRoot root).Below cursor → cursor.node.isFault = false) ∧
    (∀ result, Node.Searches [root] result ↔ result = root.firstFault?) ∧
    ∀ (grammar : Grammar) (language : Language) (text path : String) (location : Option Range),
      grammar language text = root →
        (∀ name, Language.resolve name (some (PathName.parse path)) = .ok language →
          (parse grammar text path name = .error (.malformed location) ↔
            IsFirstFaultPlace root text location)) ∧
        (Language.ofPathOrDefault (PathName.parse path) = language →
          (parseFile grammar text path = .error location ↔
            IsFirstFaultPlace root text location)) := by
  refine ⟨fun fault => hFlags.firstFault?_eq_some_iff, hFlags.firstFault?_eq_none_iff,
    fun result => Node.searches_iff, ?_⟩
  rintro grammar language text path location rfl
  constructor
  · intro name hLanguage
    rw [← parseAs_eq_error_iff hFlags path, parse, hLanguage]
    dsimp only
    cases parseAs grammar language text path with
    | error place => simp
    | ok tree => simp
  · rintro rfl
    exact parseAs_eq_error_iff hFlags path

/-- A bracket that is missing behind the fourth byte. -/
def missingBracket : Node := ⟨.other ")", false, true, true, 4, 4, none, []⟩

/-- A sound statement, a call without its closing bracket, and behind it a character that
belongs to nothing. -/
def unclosedCall : Node :=
  let sound (label : String) (start stop : Nat) (children : List Node) : Node :=
    ⟨.other label, true, false, false, start, stop, none, children⟩
  let flagged (kind : Kind) (start stop : Nat) (children : List Node) : Node :=
    ⟨kind, true, false, true, start, stop, none, children⟩
  flagged .program 0 6
    [sound "expression_statement" 0 2 [sound "identifier" 0 1 [], sound ";" 1 2 []],
     flagged .callExpression 2 4
      [sound "identifier" 2 3 [],
       flagged (.other "arguments") 3 4 [sound "(" 3 4 [], missingBracket]],
     flagged .error 5 6 [sound "#" 5 6 []]]

/-- The bracket that is missing comes before the error, and the text is refused there. -/
theorem parse_fails_at_first_fault_unclosedCall :
    (Cursor.ofRoot unclosedCall).FlagsRight ∧
      Node.Searches [unclosedCall] (some missingBracket) ∧
      (∃ cursor, (Cursor.ofRoot unclosedCall).IsFirstFault cursor ∧
        cursor.node = missingBracket) ∧
      parse (fun _ _ => unclosedCall) "a;b(\n#" "a.js" none =
        .error (.malformed (some ⟨⟨1, 5, 4⟩, some ⟨1, 5, 4⟩⟩)) := by
  have hFlags : (Cursor.ofRoot unclosedCall).FlagsRight := by decide +kernel
  obtain ⟨hFound, -, hSearch, hPlace⟩ := parse_fails_at_first_fault hFlags
  obtain ⟨cursor, hFirst, hNode⟩ := (hFound missingBracket).mp rfl
  obtain ⟨hParse, -⟩ := hPlace (fun _ _ => unclosedCall) .javascript "a;b(\n#" "a.js"
    (some ⟨⟨1, 5, 4⟩, some ⟨1, 5, 4⟩⟩) rfl
  refine ⟨hFlags, (hSearch _).mpr rfl, ⟨cursor, hFirst, hNode⟩, ?_⟩
  apply (hParse none rfl).mpr
  exact ⟨cursor, hFirst, by rw [hNode]; rfl⟩

end SyntaxTree

end ComponentQueries
