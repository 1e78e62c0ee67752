import ComponentQueries.Proofs.Session.Answers
import Mathlib.Logic.Function.Basic

/-! Calls that share a cache and take turns. A call looks its key up, computes if there is
nothing, and offers its result; between any two of these steps others may take theirs. -/
namespace ComponentQueries.ResultCache

/-- How far a call has come. -/
inductive Progress (α ε : Type) where
  | begun
  | computing
  | computed (result : α)
  | returned (entry : α)
  | failed (error : ε)

/-- The end of a call with an outcome. -/
def Progress.ofOutcome {α ε : Type} : Except ε α → Progress α ε
  | .ok entry => returned entry
  | .error error => failed error

/-- What a call does in one step. A computation may come to anything. -/
inductive Move (α ε : Type) where
  | found (entry : α)
  | missed
  | finished (result : α)
  | broke (error : ε)
  | stored (entry : α)

/-- Calls on one cache. There may be any number of them, and a call that has not taken a step
yet need not have been made. -/
structure Race (ι α ε : Type) where
  cache : ResultCache α
  progress : ι → Progress α ε

namespace Race

variable {ι α ε : Type} [DecidableEq ι]

/-- No call has taken a step. -/
def start (cache : ResultCache α) : Race ι α ε := ⟨cache, fun _ => .begun⟩

/-- One call comes to a point, and the cache stays as it is. -/
def advance (race : Race ι α ε) (call : ι) (progress : Progress α ε) : Race ι α ε :=
  { race with progress := Function.update race.progress call progress }

/-- The step in which a call offers its result and returns what the cache has in the end. -/
def store (race : Race ι α ε) (key : String) (call : ι) (result : α) : Race ι α ε :=
  let (entry, cache) := race.cache.offer key result
  ({ race with cache } : Race ι α ε).advance call (.returned entry)

@[simp]
theorem cache_advance (race : Race ι α ε) (call : ι) (progress : Progress α ε) :
    (race.advance call progress).cache = race.cache :=
  rfl

@[simp]
theorem progress_advance (race : Race ι α ε) (call : ι) (progress : Progress α ε) :
    (race.advance call progress).progress call = progress :=
  Function.update_self ..

@[simp]
theorem cache_store (race : Race ι α ε) (key : String) (call : ι) (result : α) :
    (race.store key call result).cache = (race.cache.offer key result).2 :=
  rfl

@[simp]
theorem progress_store (race : Race ι α ε) (key : String) (call : ι) (result : α) :
    (race.store key call result).progress call = .returned (race.cache.offer key result).1 :=
  Function.update_self ..

/-- One step of one call, where `key` tells the key of each call. -/
inductive Step (key : ι → String) (race : Race ι α ε) : ι × Move α ε → Race ι α ε → Prop where
  | found (call : ι) {entry : α} (hCall : race.progress call = .begun)
      (hKept : race.cache.get? (key call) = some entry) :
      Step key race (call, .found entry) (race.advance call (.returned entry))
  | missed (call : ι) (hCall : race.progress call = .begun)
      (hNone : race.cache.get? (key call) = none) :
      Step key race (call, .missed) (race.advance call .computing)
  | finished (call : ι) (result : α) (hCall : race.progress call = .computing) :
      Step key race (call, .finished result) (race.advance call (.computed result))
  | broke (call : ι) (error : ε) (hCall : race.progress call = .computing) :
      Step key race (call, .broke error) (race.advance call (.failed error))
  | stored (call : ι) {result : α} (hCall : race.progress call = .computed result) :
      Step key race (call, .stored (race.cache.offer (key call) result).1)
        (race.store (key call) call result)

/-- The moves of calls in any order in which they can be made. -/
inductive Runs (key : ι → String) (before : Race ι α ε) :
    List (ι × Move α ε) → Race ι α ε → Prop where
  | none : Runs key before [] before
  | step {moves : List (ι × Move α ε)} {move : ι × Move α ε} {middle after : Race ι α ε}
      (prior : Runs key before moves middle) (last : Step key middle move after) :
      Runs key before (moves ++ [move]) after

variable {key : ι → String} {race next : Race ι α ε} {move : ι × Move α ε}

/-- A step leaves the cache as it is, unless it offers the result of a computation. -/
theorem Step.cache_cases (step : Step key race move next) :
    next.cache = race.cache ∨
      ∃ result, race.progress move.1 = .computed result ∧
        next = race.store (key move.1) move.1 result := by
  cases step with
  | found => exact Or.inl rfl
  | missed => exact Or.inl rfl
  | finished => exact Or.inl rfl
  | broke => exact Or.inl rfl
  | stored call hCall => exact Or.inr ⟨_, hCall, rfl⟩

theorem Step.progress_of_ne (step : Step key race move next) {other : ι} (h : other ≠ move.1) :
    next.progress other = race.progress other := by
  cases step with
  | found => exact Function.update_of_ne h _ _
  | missed => exact Function.update_of_ne h _ _
  | finished => exact Function.update_of_ne h _ _
  | broke => exact Function.update_of_ne h _ _
  | stored => exact Function.update_of_ne h _ _

theorem get?_store (race : Race ι α ε) (own other : String) (call : ι) (result : α) :
    (race.store own call result).cache.get? other =
      (race.cache.get? other).or (if own = other then some result else none) :=
  get?_offer race.cache own other result

/-- What the cache has stays there. -/
theorem Step.get?_of_some (step : Step key race move next) {other : String} {entry : α}
    (h : race.cache.get? other = some entry) : next.cache.get? other = some entry := by
  rcases step.cache_cases with hSame | ⟨result, -, rfl⟩
  · rw [hSame, h]
  · rw [get?_store, h, Option.some_or]

/-- A step concerns the key of its call alone. -/
theorem Step.get?_of_ne (step : Step key race move next) {other : String}
    (h : other ≠ key move.1) : next.cache.get? other = race.cache.get? other := by
  rcases step.cache_cases with hSame | ⟨result, -, rfl⟩
  · rw [hSame]
  · rw [get?_store, if_neg (Ne.symm h), Option.or_none]

/-- A call that has a result to offer had it before, or has just finished computing it. -/
theorem Step.computed_cases (step : Step key race move next) {call : ι} {result : α}
    (h : next.progress call = .computed result) :
    race.progress call = .computed result ∨ move = (call, .finished result) := by
  by_cases hCall : call = move.1
  · subst hCall
    cases step with
    | finished call result =>
        rw [progress_advance] at h
        cases h
        exact Or.inr rfl
    | found | missed | broke | stored => simp at h
  · rw [step.progress_of_ne hCall] at h
    exact Or.inl h

/-- A call returns what the cache has for it. -/
theorem Step.returned_cases (step : Step key race move next) {call : ι} {entry : α}
    (h : next.progress call = .returned entry) :
    race.progress call = .returned entry ∨ next.cache.get? (key call) = some entry := by
  by_cases hCall : call = move.1
  · subst hCall
    right
    cases step with
    | found call _ hKept =>
        rw [progress_advance] at h
        cases h
        exact hKept
    | stored call _ =>
        rw [progress_store] at h
        cases h
        rw [get?_store, if_pos rfl]
        cases hKept : race.cache.get? (key call) with
        | none => simp [offer, hKept]
        | some kept => simp [offer, hKept]
    | missed | finished | broke => simp at h
  · rw [step.progress_of_ne hCall] at h
    exact Or.inl h

/-- A call that has returned takes no further step. -/
theorem Step.returned_stays (step : Step key race move next) {call : ι} {entry : α}
    (h : race.progress call = .returned entry) : next.progress call = .returned entry := by
  have hOther : call ≠ move.1 := by
    rintro rfl
    cases step with
    | found _ hCall | missed _ hCall | finished _ _ hCall | broke _ _ hCall | stored _ hCall =>
        rw [h] at hCall
        cases hCall
  rw [step.progress_of_ne hOther, h]

/-- What holds after moves that began with a cache: a result to offer was computed, a call has
returned what the cache has for it, and the cache has what it had or what was computed. -/
structure Sound (key : ι → String) (initial : ResultCache α) (moves : List (ι × Move α ε))
    (race : Race ι α ε) : Prop where
  computed : ∀ call result, race.progress call = .computed result →
    (call, .finished result) ∈ moves
  returned : ∀ call entry, race.progress call = .returned entry →
    race.cache.get? (key call) = some entry
  origin : ∀ other entry, race.cache.get? other = some entry →
    initial.get? other = some entry ∨
      ∃ call, key call = other ∧ (call, .finished entry) ∈ moves

theorem Step.sound (step : Step key race move next) {initial : ResultCache α}
    {moves : List (ι × Move α ε)} (sound : Sound key initial moves race) :
    Sound key initial (moves ++ [move]) next where
  computed call result h := by
    rcases step.computed_cases h with hBefore | rfl
    · exact List.mem_append_left _ (sound.computed call result hBefore)
    · simp
  returned call entry h := by
    rcases step.returned_cases h with hBefore | hKept
    · exact step.get?_of_some (sound.returned call entry hBefore)
    · exact hKept
  origin other entry h := by
    have hOld (hBefore : race.cache.get? other = some entry) :
        initial.get? other = some entry ∨
          ∃ call, key call = other ∧ (call, Move.finished entry) ∈ moves ++ [move] := by
      rcases sound.origin other entry hBefore with hInitial | ⟨call, hKey, hMove⟩
      · exact Or.inl hInitial
      · exact Or.inr ⟨call, hKey, List.mem_append_left _ hMove⟩
    rcases step.cache_cases with hSame | ⟨result, hResult, rfl⟩
    · exact hOld (hSame ▸ h)
    · rw [get?_store] at h
      rcases Option.or_eq_some_iff.mp h with hBefore | ⟨-, hNew⟩
      · exact hOld hBefore
      · split at hNew
        · next hKey =>
            cases hNew
            exact Or.inr ⟨move.1, hKey, List.mem_append_left _ (sound.computed _ _ hResult)⟩
        · cases hNew

variable {before after : Race ι α ε} {moves : List (ι × Move α ε)}

theorem Runs.sound {initial : ResultCache α} (run : Runs key (start initial) moves after) :
    Sound key initial moves after := by
  induction run with
  | none => exact ⟨nofun, nofun, fun _ _ h => Or.inl h⟩
  | step prior last ih => exact last.sound ih

theorem Runs.get?_of_some (run : Runs key before moves after) {other : String} {entry : α}
    (h : before.cache.get? other = some entry) : after.cache.get? other = some entry := by
  induction run with
  | none => exact h
  | step prior last ih => exact last.get?_of_some ih

theorem Runs.returned_stays (run : Runs key before moves after) {call : ι} {entry : α}
    (h : before.progress call = .returned entry) : after.progress call = .returned entry := by
  induction run with
  | none => exact h
  | step prior last ih => exact last.returned_stays ih

/-- Only a step after which its call has returned changes the cache, and such a call does not
fail later. -/
theorem Step.cache_of_failed (step : Step key race move next) (rest : Runs key next moves after)
    {error : ε} (h : after.progress move.1 = .failed error) : next.cache = race.cache := by
  rcases step.cache_cases with hSame | ⟨result, -, rfl⟩
  · exact hSame
  · rw [rest.returned_stays (progress_store ..)] at h
    cases h

/-- A call that nobody interrupts does in its steps what `getOrCompute` does at once. -/
theorem exists_runs_getOrCompute {call : ι} (h : race.progress call = .begun)
    (compute : Unit → Except ε α) :
    ∃ moves after, Runs key race moves after ∧ (∀ move ∈ moves, move.1 = call) ∧
      after.cache = (race.cache.getOrCompute (key call) compute).2 ∧
      after.progress call = .ofOutcome (race.cache.getOrCompute (key call) compute).1 := by
  cases hKept : race.cache.get? (key call) with
  | some kept =>
      refine ⟨_, _, .step .none (.found call h hKept), by simp, ?_, ?_⟩
      · simp [getOrCompute, hKept]
      · simp [getOrCompute, hKept, Progress.ofOutcome]
  | none =>
      have hMissed : Runs key race [(call, .missed)] (race.advance call .computing) :=
        .step .none (.missed call h hKept)
      have hComputing := progress_advance race call .computing
      cases hComputed : compute () with
      | error error =>
          refine ⟨_, _, hMissed.step (.broke call error hComputing), by simp, ?_, ?_⟩
          · simp [getOrCompute, hKept, hComputed]
          · simp [getOrCompute, hKept, hComputed, Progress.ofOutcome]
      | ok result =>
          have hFinished := hMissed.step (.finished call result hComputing)
          refine ⟨_, _, hFinished.step (.stored call (progress_advance ..)), by simp, ?_, ?_⟩
          · simp [getOrCompute, hKept, hComputed]
          · simp [getOrCompute, hKept, hComputed, Progress.ofOutcome]

/-- However the steps of calls are interleaved, calls for one key return one entry. It was in
the cache from the beginning or was computed by one of them, and it stays there. A call that
fails leaves the cache as it is at each of its steps, and no step touches another key. The
steps of a call that nobody interrupts are those of `getOrCompute`. -/
theorem racing_calls_agree (key : ι → String) (initial : ResultCache α)
    (moves : List (ι × Move α ε)) (after : Race ι α ε)
    (run : Runs key (start initial) moves after) :
    (∀ call entry, after.progress call = .returned entry →
      after.cache.get? (key call) = some entry ∧
        (initial.get? (key call) = some entry ∨
          ∃ other, key other = key call ∧ (other, .finished entry) ∈ moves) ∧
        ∀ other entry', key other = key call → after.progress other = .returned entry' →
          entry' = entry) ∧
    (∀ before middle rest, Runs key (start initial) before middle → Runs key middle rest after →
      ∀ other entry, middle.cache.get? other = some entry →
        after.cache.get? other = some entry) ∧
    (∀ before middle move next rest, Runs key (start initial) before middle →
      Step key middle move next → Runs key next rest after →
      (∀ error, after.progress move.1 = .failed error → next.cache = middle.cache) ∧
        ∀ other, other ≠ key move.1 → next.cache.get? other = middle.cache.get? other) ∧
    ∀ call, after.progress call = .begun → ∀ compute : Unit → Except ε α,
      ∃ rest last, Runs key after rest last ∧ (∀ move ∈ rest, move.1 = call) ∧
        last.cache = (after.cache.getOrCompute (key call) compute).2 ∧
        last.progress call = .ofOutcome (after.cache.getOrCompute (key call) compute).1 := by
  have sound := run.sound
  refine ⟨fun call entry hReturned => ?_, ?_, ?_, ?_⟩
  · have hKept := sound.returned call entry hReturned
    refine ⟨hKept, sound.origin _ _ hKept, fun other entry' hKey hOther => ?_⟩
    have hKept' := sound.returned other entry' hOther
    rw [hKey, hKept] at hKept'
    exact (Option.some.inj hKept').symm
  · exact fun _ _ _ _ later other entry h => later.get?_of_some h
  · exact fun _ _ _ _ _ _ step later =>
      ⟨fun error h => step.cache_of_failed later h, fun other h => step.get?_of_ne h⟩
  · exact fun call h compute => exists_runs_getOrCompute h compute

/-- The fourth call has a key of its own. -/
def overtakingKey (call : Nat) : String :=
  if call = 3 then "m" else "k"

/-- Three calls for one key find nothing. The second overtakes the first, which then returns
the entry of the second and not its own result, and the third fails. -/
theorem racing_calls_agree_overtaking :
    ∃ (moves : List (Nat × Move Nat String)) (after : Race Nat Nat String),
      Runs overtakingKey (start .empty) moves after ∧
        (0, .finished 5) ∈ moves ∧ (1, .finished 7) ∈ moves ∧
        after.progress 0 = .returned 7 ∧ after.progress 1 = .returned 7 ∧
        after.progress 2 = .failed "gone" ∧ after.progress 3 = .computing ∧
        ∀ other entry, overtakingKey other = overtakingKey 1 →
          after.progress other = .returned entry → entry = 7 := by
  have hBegun : Runs overtakingKey (start .empty) [] (start .empty : Race Nat Nat String) := .none
  have hMissed := (((hBegun.step (.missed 0 rfl rfl)).step (.missed 1 rfl rfl)).step
    (.missed 2 rfl rfl)).step (.missed 3 rfl rfl)
  have hFinished := ((hMissed.step (.finished 1 7 rfl)).step (.finished 0 5 rfl)).step
    (.broke 2 "gone" rfl)
  have run := (hFinished.step (.stored 1 rfl)).step (.stored 0 rfl)
  refine ⟨_, _, run, by simp, by simp, rfl, rfl, rfl, rfl, fun other entry hKey hOther => ?_⟩
  exact ((racing_calls_agree overtakingKey .empty _ _ run).1 1 7 rfl).2.2 other entry hKey hOther

end Race

end ComponentQueries.ResultCache
