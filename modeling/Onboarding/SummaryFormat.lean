import Onboarding.Batch
import Onboarding.Choice

/-!
# Summary formats

The forms in which the counts of a run are printed.
-/

namespace Onboarding

/-- A form of the counts. -/
inductive SummaryFormat where
  | text
  | json
  deriving DecidableEq

namespace SummaryFormat

/-- The name on the command line. -/
def name : SummaryFormat → String
  | text => "text"
  | json => "json"

instance : Choice SummaryFormat where
  all := [.text, .json]
  name := name

/-- What is printed for counts. -/
def render : SummaryFormat → Summary → String
  | text, s => s.text
  | json, s => s.json ++ "\n"

end SummaryFormat

end Onboarding
