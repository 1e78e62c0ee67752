import ComponentQueries.Proofs.Scope.Declarations
import ComponentQueries.Proofs.SyntaxTree.NodeBuilders
import Mathlib.Data.Fintype.Pigeonhole
import Mathlib.Data.Set.Finite.Basic

/-! Chains of declarations that only give other names. A chain ends or comes back to one of
its bindings, and its end is found if there are fewer hops to it than the limit says. -/
namespace ComponentQueries.ScopeTable

/-- A variable whose value is nothing but a name. -/
structure IsAlias (binding : Binding) (target : Cursor) : Prop where
  single : binding.kind = .single
  value : binding.value? = some target
  name : target.kind = .identifier

theorem aliasOf?_eq_some_iff {binding : Binding} {target : Cursor} :
    aliasOf? binding = some target ↔ IsAlias binding target := by
  unfold aliasOf?
  constructor
  · intro h
    split at h
    · next hSingle =>
        obtain ⟨hValue, hName⟩ := Option.filter_eq_some_iff.mp h
        exact ⟨hSingle, hValue, by simpa using hName⟩
    · cases h
  · intro h
    rw [if_pos h.single, h.value]
    simp [h.name]

theorem IsAlias.unique {binding : Binding} {first second : Cursor} (hFirst : IsAlias binding first)
    (hSecond : IsAlias binding second) : first = second :=
  Option.some.inj (hFirst.value.symm.trans hSecond.value)

section Chain

variable {table : ScopeTable} {tree : SyntaxTree} {start finish reached : Option Binding}

/-- One hop: the name that is the value of a binding is looked up where the binding stands. -/
def LeadsTo (table : ScopeTable) (tree : SyntaxTree) (binding : Binding)
    (next : Option Binding) : Prop :=
  ∃ target, IsAlias binding target ∧ table.resolve? (tree.textOf target) binding.site = next

/-- What a chain of aliases comes to in an exact number of hops. -/
inductive Reaches (table : ScopeTable) (tree : SyntaxTree) (start : Option Binding) :
    Option Binding → Nat → Prop where
  | here : Reaches table tree start start 0
  | hop {binding : Binding} {next : Option Binding} {hops : Nat}
      (prior : Reaches table tree start (some binding) hops)
      (last : LeadsTo table tree binding next) : Reaches table tree start next (hops + 1)

/-- A chain ends without a binding, or at one that is no alias. -/
def IsEnd (reached : Option Binding) : Prop :=
  ∀ binding, reached = some binding → ∀ target, ¬IsAlias binding target

/-- A chain ends after exactly so many hops. -/
def EndsAfter (table : ScopeTable) (tree : SyntaxTree) (start finish : Option Binding)
    (hops : Nat) : Prop :=
  Reaches table tree start finish hops ∧ IsEnd finish

/-- A chain comes to one binding twice. -/
def Cyclic (table : ScopeTable) (tree : SyntaxTree) (start : Option Binding) : Prop :=
  ∃ binding first second, first < second ∧ Reaches table tree start (some binding) first ∧
    Reaches table tree start (some binding) second

theorem isEnd_some_iff {binding : Binding} : IsEnd (some binding) ↔ aliasOf? binding = none := by
  simp [IsEnd, Option.eq_none_iff_forall_ne_some, aliasOf?_eq_some_iff]

theorem LeadsTo.unique {binding : Binding} {first second : Option Binding}
    (hFirst : LeadsTo table tree binding first) (hSecond : LeadsTo table tree binding second) :
    first = second := by
  obtain ⟨target, hAlias, rfl⟩ := hFirst
  obtain ⟨other, hOther, rfl⟩ := hSecond
  rw [hAlias.unique hOther]

/-- A chain with hops starts at an alias, and the rest of it starts where that leads. -/
theorem Reaches.head {hops : Nat} (chain : Reaches table tree start finish (hops + 1)) :
    ∃ binding next, start = some binding ∧ LeadsTo table tree binding next ∧
      Reaches table tree next finish hops := by
  induction hops generalizing finish with
  | zero =>
      cases chain with
      | @hop binding next _ prior last =>
          cases prior with
          | here => exact ⟨binding, finish, rfl, last, .here⟩
  | succ hops ih =>
      cases chain with
      | hop prior last =>
          obtain ⟨binding, next, hStart, hFirst, hRest⟩ := ih prior
          exact ⟨binding, next, hStart, hFirst, hRest.hop last⟩

/-- An alias can be put in front of a chain. -/
theorem Reaches.cons {binding : Binding} {next : Option Binding} {hops : Nat}
    (first : LeadsTo table tree binding next) (chain : Reaches table tree next finish hops) :
    Reaches table tree (some binding) finish (hops + 1) := by
  induction chain with
  | here => exact .hop .here first
  | hop prior last ih => exact ih.hop last

/-- A chain passes every number of hops up to its own. -/
theorem Reaches.exists_of_le {hops fewer : Nat} (chain : Reaches table tree start finish hops)
    (hFewer : fewer ≤ hops) : ∃ middle, Reaches table tree start middle fewer := by
  induction chain with
  | here =>
      obtain rfl : fewer = 0 := Nat.le_zero.mp hFewer
      exact ⟨start, .here⟩
  | hop prior last ih =>
      rcases Nat.le_succ_iff.mp hFewer with hLess | rfl
      · exact ih hLess
      · exact ⟨_, prior.hop last⟩

/-- What a chain comes to lies on the way to its end. -/
theorem EndsAfter.rest {hops passed : Nat} (ends : EndsAfter table tree start finish hops)
    (chain : Reaches table tree start reached passed) :
    passed ≤ hops ∧ EndsAfter table tree reached finish (hops - passed) := by
  induction chain with
  | here => exact ⟨Nat.zero_le _, ends⟩
  | @hop binding next passed prior last ih =>
      obtain ⟨hPassed, hRest, hEnd⟩ := ih
      cases hLeft : hops - passed with
      | zero =>
          rw [hLeft] at hRest
          cases hRest
          obtain ⟨target, hAlias, -⟩ := last
          exact absurd hAlias (hEnd binding rfl target)
      | succ left =>
          rw [hLeft] at hRest
          obtain ⟨_, other, ⟨⟩, hFirst, hOthers⟩ := hRest.head
          rw [hFirst.unique last] at hOthers
          have hNext : hops - (passed + 1) = left := by omega
          exact ⟨by omega, hNext ▸ hOthers, hEnd⟩

/-- A chain that comes back to a binding has no end: from there on, the end would be as far
away as it was the first time. -/
theorem Cyclic.not_endsAfter (cyclic : Cyclic table tree start) (hops : Nat) :
    ¬EndsAfter table tree start finish hops := by
  intro ends
  obtain ⟨binding, first, second, hLess, hFirst, hSecond⟩ := cyclic
  obtain ⟨-, hRest, -⟩ := ends.rest hFirst
  obtain ⟨hPassed, hEnds⟩ := ends.rest hSecond
  obtain ⟨hBack, -⟩ := hEnds.rest hRest
  omega

/-- A chain that is not at its end can be followed by one more hop. -/
theorem exists_leadsTo_of_not_isEnd (table : ScopeTable) (tree : SyntaxTree)
    (h : ¬IsEnd reached) :
    ∃ binding next, reached = some binding ∧ LeadsTo table tree binding next := by
  unfold IsEnd at h
  push Not at h
  obtain ⟨binding, hReached, target, hAlias⟩ := h
  exact ⟨binding, _, hReached, target, hAlias, rfl⟩

/-- Where no end comes, every number of hops leads to a binding. -/
theorem exists_reaches_of_endless
    (endless : ∀ finish hops, ¬EndsAfter table tree start finish hops) (hops : Nat) :
    ∃ binding, Reaches table tree start (some binding) hops := by
  have hGoesOn : ∀ {reached hops}, Reaches table tree start reached hops →
      ∃ binding next, reached = some binding ∧ LeadsTo table tree binding next :=
    fun chain => exists_leadsTo_of_not_isEnd table tree fun hEnd => endless _ _ ⟨chain, hEnd⟩
  induction hops with
  | zero =>
      obtain ⟨binding, _, hStart, -⟩ := hGoesOn .here
      exact ⟨binding, hStart ▸ .here⟩
  | succ hops ih =>
      obtain ⟨binding, chain⟩ := ih
      obtain ⟨_, next, ⟨⟩, hHop⟩ := hGoesOn chain
      obtain ⟨following, _, rfl, -⟩ := hGoesOn (chain.hop hHop)
      exact ⟨following, chain.hop hHop⟩

/-- A chain stays among its start and the bindings of the table. -/
theorem Reaches.mem {binding : Binding} {hops : Nat}
    (chain : Reaches table tree start (some binding) hops) :
    binding ∈ start.toList ++ table.entries.map Prod.snd := by
  cases chain with
  | here => simp
  | hop prior last =>
      obtain ⟨target, -, hResolved⟩ := last
      obtain ⟨key, hEntry⟩ := holds_of_resolve? hResolved
      exact List.mem_append_right _ (List.mem_map_of_mem hEntry)

/-- Every chain ends or is cyclic, since a table has finitely many bindings. -/
theorem exists_end_or_cyclic (table : ScopeTable) (tree : SyntaxTree) (start : Option Binding) :
    (∃ finish hops, EndsAfter table tree start finish hops) ∨ Cyclic table tree start := by
  by_cases hEnds : ∃ finish hops, EndsAfter table tree start finish hops
  · exact Or.inl hEnds
  · refine Or.inr ?_
    have hPassed := exists_reaches_of_endless fun finish hops h => hEnds ⟨finish, hops, h⟩
    choose passed hPassed using hPassed
    let known := start.toList ++ table.entries.map Prod.snd
    have hFinite : Finite { binding // binding ∈ known } := known.finite_toSet
    obtain ⟨left, right, hApart, hSame⟩ := Finite.exists_ne_map_eq_of_infinite
      fun hops => (⟨passed hops, (hPassed hops).mem⟩ : { binding // binding ∈ known })
    have hSame : passed left = passed right := congrArg Subtype.val hSame
    rcases Nat.lt_or_gt_of_ne hApart with hLess | hLess
    · exact ⟨passed left, left, right, hLess, hPassed left, hSame ▸ hPassed right⟩
    · exact ⟨passed right, right, left, hLess, hPassed right, hSame ▸ hPassed left⟩

/-- Each hop takes one from the number of declarations that may be looked at. -/
theorem followWithin_of_reaches {hops : Nat} (chain : Reaches table tree start reached hops)
    (left : Nat) :
    table.followWithin tree (hops + left) start = table.followWithin tree left reached := by
  induction chain generalizing left with
  | here => rw [Nat.zero_add]
  | @hop binding next hops prior last ih =>
      obtain ⟨target, hAlias, rfl⟩ := last
      have hNext : table.followWithin tree (left + 1) (some binding) =
          table.followWithin tree left (table.resolve? (tree.textOf target) binding.site) := by
        rw [followWithin, aliasOf?_eq_some_iff.mpr hAlias]
      rw [Nat.add_right_comm, Nat.add_assoc, ih (left + 1), hNext]

/-- To see that a binding is no alias takes a look as well. -/
theorem followWithin_of_isEnd (hEnd : IsEnd finish) (left : Nat) :
    table.followWithin tree (left + 1) finish = finish := by
  cases finish with
  | none => rfl
  | some binding => rw [followWithin, isEnd_some_iff.mp hEnd]

/-- The end of a chain is found if the number of hops to it is below the limit. -/
theorem EndsAfter.followWithin_eq {hops : Nat} (ends : EndsAfter table tree start finish hops)
    (limit : Nat) :
    table.followWithin tree limit start = if hops < limit then finish else none := by
  by_cases hLess : hops < limit
  · have hLimit : limit = hops + ((limit - hops - 1) + 1) := by omega
    rw [if_pos hLess, hLimit, followWithin_of_reaches ends.1, followWithin_of_isEnd ends.2]
  · obtain ⟨middle, chain⟩ := ends.1.exists_of_le (Nat.not_lt.mp hLess)
    have hFollowed := followWithin_of_reaches chain 0
    rw [if_neg hLess, ← Nat.add_zero limit, hFollowed]
    rfl

/-- What is found is the end of the chain. -/
theorem endsAfter_of_followWithin {limit : Nat} {binding : Binding}
    (h : table.followWithin tree limit start = some binding) :
    ∃ hops, hops < limit ∧ EndsAfter table tree start (some binding) hops := by
  induction limit generalizing start with
  | zero => cases h
  | succ limit ih =>
      cases start with
      | none => cases h
      | some first =>
          rw [followWithin] at h
          cases hAlias : aliasOf? first with
          | none =>
              rw [hAlias] at h
              cases h
              exact ⟨0, Nat.succ_pos _, .here, isEnd_some_iff.mpr hAlias⟩
          | some target =>
              rw [hAlias] at h
              obtain ⟨hops, hLess, hChain, hEnd⟩ := ih h
              have hFirst : LeadsTo table tree first _ :=
                ⟨target, aliasOf?_eq_some_iff.mp hAlias, rfl⟩
              exact ⟨hops + 1, Nat.succ_lt_succ hLess, hChain.cons hFirst, hEnd⟩

/-- The number of hops to a binding is the limit that is just too low to find it. -/
theorem endsAfter_of_limits {hops : Nat} {binding : Binding}
    (hFound : table.followWithin tree (hops + 1) start = some binding)
    (hMissed : table.followWithin tree hops start = none) :
    EndsAfter table tree start (some binding) hops := by
  obtain ⟨exact, hLess, ends⟩ := endsAfter_of_followWithin hFound
  rw [ends.followWithin_eq] at hMissed
  split at hMissed
  · cases hMissed
  · obtain rfl : exact = hops := by omega
    exact ends

end Chain

/-- A chain of aliases ends or is cyclic. Its end is found exactly if it is fewer hops away
than the limit, so that a binding at the very limit is missed; a cyclic chain leads to
nothing; and what is found is never an alias. -/
theorem followAliases_of_chain (table : ScopeTable) (tree : SyntaxTree)
    (start : Option Binding) :
    ((∃ finish hops, EndsAfter table tree start finish hops) ∨ Cyclic table tree start) ∧
      (∀ finish hops, EndsAfter table tree start finish hops →
        table.followAliases tree start = if hops < aliasHopLimit then finish else none) ∧
      (∀ finish, EndsAfter table tree start finish aliasHopLimit →
        (table.followAliases tree start = finish ↔ finish = none)) ∧
      (Cyclic table tree start → table.followAliases tree start = none) ∧
      ∀ binding, table.followAliases tree start = some binding →
        ∀ target, ¬IsAlias binding target := by
  refine ⟨exists_end_or_cyclic table tree start, fun finish hops ends => ?_, fun finish ends => ?_,
    fun cyclic => ?_, fun binding hFound => ?_⟩
  · exact ends.followWithin_eq aliasHopLimit
  · have hMissed : table.followAliases tree start = none := by
      rw [followAliases, ends.followWithin_eq, if_neg (Nat.lt_irrefl _)]
    rw [hMissed]
    exact eq_comm
  · rw [Option.eq_none_iff_forall_ne_some]
    intro binding hFound
    obtain ⟨hops, -, ends⟩ := endsAfter_of_followWithin hFound
    exact cyclic.not_endsAfter hops ends
  · obtain ⟨hops, -, -, hEnd⟩ := endsAfter_of_followWithin hFound
    exact hEnd binding rfl

/-- The declarator with a number in the text of `sixteenAliases`. -/
def aliasDeclarator (index : Nat) : Node :=
  let start := 6 + 4 * index
  let value := if index < 16 then .identifier else .other "number"
  .phrase .variableDeclarator start (start + 3) none
    [.phrase .identifier start (start + 1) (some .name) [], .token "=" (start + 1),
      .phrase value (start + 2) (start + 3) (some .value) []]

/-- The tree of a declaration with sixteen aliases in a row and a number at their end. -/
def sixteenAliases : SyntaxTree :=
  ⟨.phrase .program 0 73 none
    [.phrase .lexicalDeclaration 0 73 none
      (.token "const" 0 :: aliasDeclarator 0 :: (List.range 16).flatMap fun index =>
        [.token "," (9 + 4 * index), aliasDeclarator (index + 1)])],
    "const a=b,b=c,c=d,d=e,e=f,f=g,g=h,h=i,i=j,j=k,k=l,l=m,m=n,n=o,o=p,p=q,q=0".toList, "a.js",
    .javascript⟩

/-- The binding at the end is found from the second name on. From the first name it is
sixteen hops away, as many as the limit says, and it is missed. -/
theorem followAliases_of_chain_sixteenAliases :
    let table := ofTree sixteenAliases
    ∃ near far, near.name = "q" ∧ far.name = "q" ∧
      EndsAfter table sixteenAliases (table.moduleBinding? "b") (some near) 15 ∧
      table.followAliases sixteenAliases (table.moduleBinding? "b") = some near ∧
      EndsAfter table sixteenAliases (table.moduleBinding? "a") (some far) 16 ∧
      table.followAliases sixteenAliases (table.moduleBinding? "a") = none := by
  intro table
  have hNames : ((table.followWithin sixteenAliases 16 (table.moduleBinding? "b")).map
        Binding.name) = some "q" ∧
      (table.followWithin sixteenAliases 15 (table.moduleBinding? "b")).isNone ∧
      ((table.followWithin sixteenAliases 17 (table.moduleBinding? "a")).map
        Binding.name) = some "q" ∧
      (table.followWithin sixteenAliases 16 (table.moduleBinding? "a")).isNone := by
    decide +kernel
  obtain ⟨hNear, hBefore, hFar, hLimit⟩ := hNames
  obtain ⟨near, hNear, hNearName⟩ := Option.map_eq_some_iff.mp hNear
  obtain ⟨far, hFar, hFarName⟩ := Option.map_eq_some_iff.mp hFar
  have hNearEnds := endsAfter_of_limits hNear (Option.isNone_iff_eq_none.mp hBefore)
  have hFarEnds := endsAfter_of_limits hFar (Option.isNone_iff_eq_none.mp hLimit)
  obtain ⟨-, hFound, -⟩ := followAliases_of_chain table sixteenAliases (table.moduleBinding? "b")
  obtain ⟨-, hMissed, -⟩ := followAliases_of_chain table sixteenAliases (table.moduleBinding? "a")
  exact ⟨near, far, hNearName, hFarName, hNearEnds, hFound _ _ hNearEnds, hFarEnds,
    hMissed _ _ hFarEnds⟩

end ComponentQueries.ScopeTable
