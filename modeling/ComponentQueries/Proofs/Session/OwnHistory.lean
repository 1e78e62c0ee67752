import ComponentQueries.Proofs.Session.History
import ComponentQueries.Proofs.Session.Outcomes
import Mathlib.Data.List.Basic

/-! What the store says about a component, told from the calls for its own file alone. Each
call comes to a verdict, and the last verdicts that have something to say make up the record. -/
namespace ComponentQueries

/-- What a call for a file comes to. -/
inductive Verdict where
  | returned (result : FileResult)
  | passedOver
  | failed (text : Option String) (failure : Failure)
  | brokenOff (reason : Breakoff)

namespace Verdict

/-- The verdict on a file that is worth a look. -/
def ofExtraction (source : SourceFile) : Except Failure FileResult → Verdict
  | .ok result => returned result
  | .error (.fault fault) =>
    if fault.kind.isFatal then brokenOff (.fault fault)
    else failed (some source.text) (.fault fault)
  | .error failure => failed (some source.text) failure

/-- What a call shows: the fragments or the reason to break off, the report of a failure, and
the events for its file. -/
def answer (toolkit : Toolkit) (path : String) : Verdict → Answer
  | returned result => .ofResult path result
  | passedOver => ⟨.ok none, [], [⟨path, .features ⟨false, false, false⟩⟩]⟩
  | failed text failure => .ofFailure toolkit path text failure
  | brokenOff reason => ⟨.error reason, [], []⟩

/-- The notices that a call gives about its file. -/
def notices : Verdict → List Notice
  | returned result =>
    .features result.features :: if result.fragments.isEmpty then [] else [.succeeded]
  | passedOver => [.features ⟨false, false, false⟩]
  | failed _ failure => [failure.notice]
  | brokenOff _ => []

end Verdict

namespace Session

end Session

namespace Verdict

end Verdict

namespace Session

end Session

namespace Notice

end Notice

namespace ComponentRecord

end ComponentRecord

namespace Verdict

end Verdict

namespace ComponentRecord

end ComponentRecord

namespace ComponentStore

end ComponentStore

namespace Session

end Session

end ComponentQueries
