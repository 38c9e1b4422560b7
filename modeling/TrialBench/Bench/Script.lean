import TrialBench.Names
import TrialBench.Run.Announce
import TrialBench.Run.Drive
namespace TrialBench

-- A test as it is written: what its body does in each of its runs. The last body
-- stands for all later runs.
structure Script where
  name : String
  bodies : List (List BodyStep)

def Script.bodyOf (script : Script) (run : Nat) : List BodyStep :=
  (script.bodies[run]? <|> script.bodies.getLast?).getD []

-- How long a test waits for its message when nobody says otherwise.
def usualTimeout : Duration := .ofSeconds 300

structure Bench where
  scripts : List Script
  world : World

-- What can be asked of the tests from outside, one step at a time.
inductive Request where
  | run (test : Nat) (body : Option (List BodyStep))
  | elapse (millis : Nat)
  | mark (test : Nat) (verdict : Mark)
  | logStart (test : Nat) (tag suite : String)
  | logEnd (test : Nat) (tag : String)
  | state (test : Nat)
  | checkNames
  | act (action : Action)

inductive Reply where
  | nothing
  | ran (result : RunResult) (millis : Nat)
  | state (name : String) (outcome : Outcome)
  | names (check : Except (List String) Unit)

structure Harvest where
  logs : List LogEvent
  findings : List Finding
  records : List Record

def World.harvest (w : World) : World × Harvest :=
  ({ w with logs := [], findings := [], records := [] }, ⟨w.logs, w.findings, w.records⟩)

namespace Bench

def names (bench : Bench) : List String := bench.scripts.map (·.name)

def nextBody (bench : Bench) (test : Nat) : List BodyStep :=
  match bench.scripts[test]?, bench.world.test? test with
  | some script, some cell => script.bodyOf cell.runs
  | _, _ => []

def run (bench : Bench) (test : Nat) (watched : Bool) (body : Option (List BodyStep)) : Run.Finished :=
  bench.world.runTest test watched (body.getD (bench.nextBody test))

def withWorld (bench : Bench) (world : World) : Bench := { bench with world }

def answer (bench : Bench) : Request → Bench × Reply
  | .run test body =>
    let finished := bench.run test false body
    (bench.withWorld finished.world, .ran finished.result (finished.world.clock - bench.world.clock))
  | .elapse millis => (bench.withWorld (bench.world.elapse (bench.world.clock + millis)), .nothing)
  | .mark test verdict => (bench.withWorld (bench.world.mark test verdict), .nothing)
  | .logStart test tag suite => (bench.withWorld (bench.world.logStart test tag suite), .nothing)
  | .logEnd test tag => (bench.withWorld (bench.world.logEnd test tag), .nothing)
  | .state test => (bench, .state (bench.world.nameOf test) (bench.world.outcomeOf test))
  | .checkNames => (bench, .names (Names.check bench.names))
  | .act action => (bench.withWorld (bench.world.perform 0 action), .nothing)

end Bench
end TrialBench
