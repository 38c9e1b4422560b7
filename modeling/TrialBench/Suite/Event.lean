import TrialBench.Duration
import TrialBench.Shutdown
import TrialBench.Stats
import TrialBench.Timestamp
namespace TrialBench

structure Span where
  start : Timestamp
  elapsed : Duration
  deriving DecidableEq

-- What a suite run tells, in the order it happens.
inductive SuiteEvent where
  | runStarted (suite : String) (testCount : Nat)
  | testStarted (name : String) (index : Nat)
  | testFinished (name : String) (outcome : Outcome) (span : Span) (stats : Stats)
  | testSkipped (name : String) (reason : CancelReason)
  | runCanceled (reason : CancelReason)
  | runFinished (suite : String) (span : Span) (stats : Stats)
  deriving DecidableEq

end TrialBench
