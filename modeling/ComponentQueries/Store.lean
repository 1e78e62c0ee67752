import ComponentQueries.Export
import ComponentQueries.Table

/-! What is known about components. A notice changes one half of a record and is kept
in the order of arrival. -/
namespace ComponentQueries

inductive Notice where
  | features (features : Features)
  | succeeded
  | failed (message : Option String)
  deriving DecidableEq, Repr

def Notice.label : Notice → String
  | features _ => "features"
  | succeeded => "success"
  | failed _ => "failed"

def Notice.message? : Notice → Option String
  | failed message => message
  | features _ | succeeded => none

/-- How the last extraction of a component ended. -/
inductive ExtractionState where
  | success | failed
  deriving DecidableEq, Repr

def ExtractionState.label : ExtractionState → String
  | success => "success"
  | failed => "failed"

structure ComponentRecord where
  features : Features
  state : Option ExtractionState
  deriving DecidableEq, Repr

def ComponentRecord.blank : ComponentRecord := ⟨Features.none, none⟩

/-- The record after a notice. Each notice changes one half of it. -/
def ComponentRecord.update (record : ComponentRecord) : Notice → ComponentRecord
  | .features features => { record with features }
  | .succeeded => { record with state := some .success }
  | .failed _ => { record with state := some .failed }

/-- A notice about the component with a path. -/
structure Event where
  path : String
  notice : Notice
  deriving DecidableEq, Repr

/-- The latest record of each component, and all notices in their order. -/
structure ComponentStore where
  records : List (String × ComponentRecord)
  events : List Event

namespace ComponentStore

def empty : ComponentStore := ⟨[], []⟩

def record? (store : ComponentStore) (path : String) : Option ComponentRecord :=
  store.records.lookup path

def notify (store : ComponentStore) (path : String) (notice : Notice) : ComponentStore :=
  let record := ((store.record? path).getD ComponentRecord.blank).update notice
  ⟨Table.insert path record store.records, store.events ++ [⟨path, notice⟩]⟩

def noticesFor (store : ComponentStore) (path : String) : List Notice :=
  (store.events.filter (·.path = path)).map Event.notice

end ComponentStore

end ComponentQueries
