import ComponentQueries.Proofs.Session.Attribution

/-! The store as a history. The record of a component is what the notices about it make of
a blank record, and a call adds notices about its own file only. -/
namespace ComponentQueries

/-- The record that notices make, if there are any. -/
def ComponentRecord.ofNotices (notices : List Notice) : Option ComponentRecord :=
  if notices.isEmpty then none else some (notices.foldl ComponentRecord.update .blank)

namespace ComponentStore

/-- Each record is what the notices about its component make. -/
def Replays (store : ComponentStore) : Prop :=
  ∀ path, store.record? path = ComponentRecord.ofNotices (store.noticesFor path)

theorem replays_empty : Replays empty := fun _ => rfl

/-- A notice is added to those of its path and to no others. -/
theorem noticesFor_notify (store : ComponentStore) (path other : String) (notice : Notice) :
    (store.notify path notice).noticesFor other =
      store.noticesFor other ++ if path = other then [notice] else [] := by
  by_cases hPath : path = other
  · simp [noticesFor, notify, hPath]
  · simp [noticesFor, notify, hPath]

/-- A record follows from the notices of its path, also after one more. -/
theorem Replays.notify {store : ComponentStore} (replays : store.Replays) (path : String)
    (notice : Notice) : (store.notify path notice).Replays := by
  intro other
  rw [noticesFor_notify]
  by_cases hPath : path = other
  · subst hPath
    have hRecord : (store.notify path notice).record? path =
        some (((store.record? path).getD .blank).update notice) :=
      Table.lookup_insert_self _ _ _
    have hBefore : (store.record? path).getD .blank =
        (store.noticesFor path).foldl ComponentRecord.update .blank := by
      rw [replays path, ComponentRecord.ofNotices]
      cases store.noticesFor path with
      | nil => rfl
      | cons first others => rfl
    rw [hRecord, hBefore, ComponentRecord.ofNotices]
    simp
  · have hRecord : (store.notify path notice).record? other = store.record? other :=
      Table.lookup_insert_of_ne (Ne.symm hPath) _ _
    rw [hRecord, replays other, if_neg hPath, List.append_nil]

end ComponentStore

namespace Session

/-! What one notice keeps is kept by all work on a file, since the store changes in no
other way. -/
section Notices

variable {motive : ComponentStore → Prop} {path : String}

/-- What one notice keeps is kept by any number of them. -/
theorem store_notifyAll
    (step : ∀ store notice, motive store → motive (store.notify path notice))
    (notices : List Notice) {session : Session} (start : motive session.store) :
    motive (session.notifyAll path notices).store := by
  induction notices generalizing session with
  | nil => exact start
  | cons notice others ih => exact @ih (session.notify path notice) (step _ _ start)

/-- A failure reaches the store by notices only. -/
theorem store_fail (toolkit : Toolkit) {session : Session}
    (step : ∀ store notice, motive store → motive (store.notify path notice))
    (start : motive session.store) (text : Option String) (failure : Failure) :
    motive (session.fail toolkit path text failure).store := by
  unfold fail
  dsimp only
  split
  · exact start
  · exact step _ _ start

theorem store_succeed {session : Session}
    (step : ∀ store notice, motive store → motive (store.notify path notice))
    (start : motive session.store) (result : FileResult) :
    motive (session.succeed path result).store := by
  unfold succeed
  dsimp only
  split
  · exact step _ _ start
  · exact step _ _ (step _ _ start)

theorem store_extractFile (toolkit : Toolkit) {session : Session} {source : SourceFile}
    (step : ∀ store notice, motive store → motive (store.notify source.path notice))
    (start : motive session.store) : motive (session.extractFile toolkit source).2.store := by
  have hBuilt : motive (if (session.cache.get? source.key).isSome then session
      else session.buildTree toolkit source).store := by
    split
    · exact start
    · exact store_notifyAll step _ start
  unfold extractFile
  dsimp only
  generalize (if (session.cache.get? source.key).isSome then session
    else session.buildTree toolkit source) = built at hBuilt ⊢
  split
  · next result cache _ =>
      exact @store_succeed motive _ { built with cache } step hBuilt result
  · split
    · exact hBuilt
    · exact store_fail toolkit step hBuilt _ _
  · exact store_fail toolkit step hBuilt _ _

/-- Working on a file reaches the store by notices for its path only. -/
theorem store_parseFile (toolkit : Toolkit) (files : Files) {session : Session}
    (step : ∀ store notice, motive store → motive (store.notify path notice))
    (start : motive session.store) :
    motive (session.parseFile toolkit files path).2.store := by
  unfold parseFile
  split
  · exact store_fail toolkit step start _ _
  · exact start
  · next source hRead =>
      split
      · rw [← (Toolkit.readSource_eq_ok hRead).1] at step
        exact store_extractFile toolkit step start
      · exact step _ _ start

end Notices

/-- After calls, the records still are what the notices make. -/
theorem replays_after (toolkit : Toolkit) (calls : List Call) {session : Session}
    (replays : session.store.Replays) : (session.after toolkit calls).store.Replays := by
  induction calls generalizing session with
  | nil => exact replays
  | cons call others ih =>
      have hNext : (session.next toolkit call).store.Replays := by
        rw [next]
        exact store_parseFile toolkit call.files (fun _ notice h => h.notify call.path notice)
          replays
      rw [after, List.foldl_cons, ← after]
      exact ih hNext

end Session

/-- A call tells the store about its own file. -/
theorem Toolkit.path_of_mem_answer_events {toolkit : Toolkit} {call : Call}
    {extraction : SourceFile → Except Failure FileResult} {event : Event}
    (h : event ∈ (toolkit.answer call extraction).events) : event.path = call.path := by
  unfold answer at h
  split at h
  · rw [List.mem_singleton.mp h]
  · cases h
  · next source hRead =>
      rw [← (readSource_eq_ok hRead).1]
      split at h
      · unfold Answer.ofExtraction at h
        split at h
        · rcases List.mem_cons.mp h with rfl | hSucceeded
          · rfl
          · split at hSucceeded
            · cases hSucceeded
            · rw [List.mem_singleton.mp hSucceeded]
        · split at h
          · cases h
          · rw [List.mem_singleton.mp h]
        · rw [List.mem_singleton.mp h]
      · rw [List.mem_singleton.mp h, (readSource_eq_ok hRead).1]

end ComponentQueries
