/-! The order in which the files of a batch are done with, when several are worked on at
a time. -/
namespace ComponentQueries

/-- An order in which files are done with, each with its place in the batch. Files are
admitted in the order of the batch, and only `limit` of them are worked on at a time, so
that a file that is done with was among the first that could have been admitted. -/
structure Schedule (paths : List String) (limit : Nat) where
  order : List (String × Nat)
  each : order.Perm paths.zipIdx
  admitted : ∀ turn file, order[turn]? = some file → file.2 < turn + limit

abbrev Scheduler := (paths : List String) → (limit : Nat) → 0 < limit → Schedule paths limit

/-- The files are done with in the order of the batch. -/
def Schedule.inOrder : Scheduler := fun paths limit positive =>
  { order := paths.zipIdx
    each := .refl _
    admitted := by
      intro turn file hFile
      rw [List.getElem?_zipIdx] at hFile
      obtain ⟨path, -, rfl⟩ := Option.map_eq_some_iff.mp hFile
      dsimp only
      omega }

end ComponentQueries
