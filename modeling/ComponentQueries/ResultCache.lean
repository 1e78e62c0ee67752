/-! A cache in which the first result for a key stays. -/
namespace ComponentQueries

/-- Results under the keys of file versions. A key keeps its first result. -/
structure ResultCache (α : Type) where
  entries : List (String × α)

namespace ResultCache

variable {α ε : Type}

def empty : ResultCache α := ⟨[]⟩

def get? (cache : ResultCache α) (key : String) : Option α :=
  cache.entries.lookup key

def size (cache : ResultCache α) : Nat :=
  cache.entries.length

def keys (cache : ResultCache α) : List String :=
  cache.entries.map Prod.fst

/-- Offers a result for a key. The key keeps the result that it had, and what it
has in the end comes back. -/
def offer (cache : ResultCache α) (key : String) (result : α) : α × ResultCache α :=
  match cache.get? key with
  | some kept => (kept, cache)
  | none => (result, ⟨cache.entries ++ [(key, result)]⟩)

/-- The result under a key, computed if there is none. A failed computation
leaves no trace. -/
def getOrCompute (cache : ResultCache α) (key : String) (compute : Unit → Except ε α) :
    Except ε α × ResultCache α :=
  match cache.get? key with
  | some kept => (.ok kept, cache)
  | none =>
    match compute () with
    | .error error => (.error error, cache)
    | .ok result =>
      let (kept, cache) := cache.offer key result
      (.ok kept, cache)

end ResultCache

end ComponentQueries
