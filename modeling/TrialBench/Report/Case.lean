import TrialBench.Suite.Event
namespace TrialBench.Report

inductive Status where
  | success
  | failure
  | error
  | skipped
  deriving DecidableEq

structure Case where
  name : String
  status : Status
  message : String
  span : Option Span
  deriving DecidableEq

-- A test that ended without a verdict is an error of the test itself.
def statusOf : Outcome → Status
  | .success => .success
  | .fail => .failure
  | .notStarted | .running => .error

def caseOf? : SuiteEvent → Option Case
  | .testFinished name outcome span _ =>
    some ⟨name, statusOf outcome, "test finished with outcome " ++ outcome.label, some span⟩
  | .testSkipped name reason =>
    some ⟨name, .skipped, "not run: suite canceled due to " ++ reason.text, none⟩
  | _ => none

def count (status : Status) (cases : List Case) : Nat := cases.countP (·.status = status)

end TrialBench.Report
