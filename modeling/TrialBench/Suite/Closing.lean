import TrialBench.Run.Announce
import TrialBench.Run.Drive
namespace TrialBench

-- What is left to do with a test whose run is over. Other threads may act between any
-- two of its steps.
inductive Closing where
  | returned (result : RunResult)
  -- The body's error was told and is about to be noted.
  | noting
  -- The end of the test is about to be told.
  | announcing
  | reading

namespace Closing

inductive Progress where
  | moved (world : World) (rest : Closing)
  | closed (outcome : Outcome)

def logTag : String := "outcome-harness"

def bodyErrorEvent (suite test : String) (cause : ErrorChain) : LogEvent :=
  ⟨.error, .suite, (runError test cause).render, [("suite", .quoted suite)]⟩

-- An error in the body fails the test whatever it had noted. The outcome that counts
-- is read last.
def advance (suite : String) (test : Nat) (w : World) : Closing → Progress
  | .returned (.finished _) => .moved w .announcing
  | .returned (.failed name cause) => .moved (w.log (bodyErrorEvent suite name cause)) .noting
  | .noting => .moved (w.mark test .fail) .announcing
  | .announcing => .moved (w.logEnd test logTag) .reading
  | .reading => .closed (w.outcomeOf test)

def stepsLeft : Closing → Nat
  | .returned _ => 3
  | .noting => 2
  | .announcing => 1
  | .reading => 0

theorem advance_nearer {suite : String} {test : Nat} {w w' : World} {c rest : Closing}
    (moved : advance suite test w c = .moved w' rest) : rest.stepsLeft < c.stepsLeft := by
  cases c with
  | returned result => cases result <;> cases moved <;> simp [stepsLeft]
  | noting => cases moved; simp [stepsLeft]
  | announcing => cases moved; simp [stepsLeft]
  | reading => cases moved

def finish (suite : String) (test : Nat) (w : World) (c : Closing) : World × Outcome :=
  match _moved : advance suite test w c with
  | .closed outcome => (w, outcome)
  | .moved w rest => finish suite test w rest
termination_by c.stepsLeft
decreasing_by exact advance_nearer _moved

end Closing
end TrialBench
