import TrialBench.Outcome
namespace TrialBench

structure Stats where
  initialRunCount : Nat
  finishedCount : Nat
  passed : Nat
  failed : Nat
  unexpected : Nat
  notRun : Nat
  deriving DecidableEq

namespace Stats

def start (initialRunCount : Nat) : Stats := ⟨initialRunCount, 0, 0, 0, 0, 0⟩

-- Only the passed tests are compared with the size of the suite.
def isSuccess (stats : Stats) : Bool := stats.passed == stats.initialRunCount

-- An outcome that is neither a pass nor a failure is counted as unexpected.
def finish (stats : Stats) (outcome : Outcome) : Stats :=
  let counted := { stats with finishedCount := stats.finishedCount + 1 }
  match outcome with
  | .success => { counted with passed := stats.passed + 1 }
  | .fail => { counted with failed := stats.failed + 1 }
  | .notStarted | .running => { counted with unexpected := stats.unexpected + 1 }

def skip (stats : Stats) : Stats := { stats with notRun := stats.notRun + 1 }

def hasRemaining (stats : Stats) : Bool :=
  decide (stats.finishedCount + stats.notRun < stats.initialRunCount)

end Stats
end TrialBench
