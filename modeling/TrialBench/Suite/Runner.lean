import TrialBench.Bench.Script
import TrialBench.Suite.Closing
import TrialBench.Suite.Event
namespace TrialBench

-- How a suite is run: what it is called, whether it stops at the first test that does
-- not pass, how long its tests wait, and whether shutdown events are listened to. The
-- spans are what a clock will say of the n-th finished test and of the whole run.
structure SuitePlan where
  suite : String
  failFast : Bool
  timeout : Duration
  watched : Bool
  testSpan : Nat → Span
  runSpan : Span

-- Whoever is told of a run. It may act on the tests, keep a state of its own, and stop
-- the run with an error.
structure Host (σ : Type) where
  hear : SuiteEvent → World → σ → World × σ × Option ErrorChain

structure SuiteState (σ : Type) where
  world : World
  host : σ
  stats : Stats
  reason : Option CancelReason
  told : List SuiteEvent

-- A run goes on until it is over or its host returns an error.
abbrev SuiteM (σ : Type) := EStateM ErrorChain (SuiteState σ)

inductive SuiteEnd where
  | finished (stats : Stats)
  | repeated (names : List String)
  | stopped (error : ErrorChain)

def SuiteEnd.chain? : SuiteEnd → Option ErrorChain
  | .finished _ => none
  | .repeated names => some (.wrap "suite setup failed" (.leaf (Names.repeatsMessage names)))
  | .stopped e => some (.wrap "event callback failed" e)

namespace Suite
variable {σ : Type}

def cancelingEvent (suite : String) (reason : CancelReason) : LogEvent :=
  ⟨.info, .suite, "canceling remaining tests",
    [("suite", .quoted suite), ("reason", .shown reason.text)]⟩

def finishedEvent (suite : String) (stats : Stats) : LogEvent :=
  ⟨.debug, .suite, "suite finished", [("suite", .quoted suite), ("passed", .number stats.passed),
    ("failed", .number stats.failed), ("unexpected", .number stats.unexpected),
    ("not_run", .number stats.notRun)]⟩

def tell (host : Host σ) (event : SuiteEvent) : SuiteM σ Unit := fun s =>
  let (world, state, error) := host.hear event s.world s.host
  let s := { s with world, host := state, told := s.told ++ [event] }
  match error with
  | none => .ok () s
  | some e => .error e s

def onWorld (f : World → World) : SuiteM σ Unit := modify fun s => { s with world := f s.world }

def runTest (plan : SuitePlan) (script : Script) (index : Nat) : SuiteM σ RunResult := do
  let s ← get
  let body := script.bodyOf (((s.world.test? index).map (·.runs)).getD 0)
  let finished := s.world.runTest index plan.watched body
  set { s with world := finished.world, reason := finished.event.map CancelReason.signal <|> s.reason }
  return finished.result

-- Reads the outcome of a test that has run, counts it and tells of it.
def conclude (plan : SuitePlan) (host : Host σ) (script : Script) (index : Nat)
    (result : RunResult) : SuiteM σ Outcome := do
  let s ← get
  let (world, outcome) := Closing.finish plan.suite index s.world (.returned result)
  let stats := s.stats.finish outcome
  set { s with world, stats }
  tell host (.testFinished script.name outcome (plan.testSpan stats.finishedCount) stats)
  return outcome

-- After a test the run may turn to skipping. That is told only if a test is left.
def considerStop (plan : SuitePlan) (host : Host σ) (outcome : Outcome) : SuiteM σ Unit := do
  if plan.failFast ∧ (← get).reason.isNone ∧ ¬ outcome.isSuccess then
    modify fun s => { s with reason := some .testFailure }
  match (← get).reason with
  | none => return
  | some reason =>
    if (← get).stats.hasRemaining then
      onWorld (·.log (cancelingEvent plan.suite reason))
      tell host (.runCanceled reason)

def visit (plan : SuitePlan) (host : Host σ) (script : Script) (index : Nat) : SuiteM σ Unit := do
  match (← get).reason with
  | some reason =>
    modify fun s => { s with stats := s.stats.skip }
    tell host (.testSkipped script.name reason)
  | none =>
    onWorld (·.onTest index fun cell => { cell with timeout := plan.timeout })
    onWorld (·.logStart index Closing.logTag plan.suite)
    tell host (.testStarted script.name index)
    let result ← runTest plan script index
    considerStop plan host (← conclude plan host script index result)

def visitAll (plan : SuitePlan) (host : Host σ) : Nat → List Script → SuiteM σ Unit
  | _, [] => return
  | index, script :: rest => do
    visit plan host script index
    visitAll plan host (index + 1) rest

def runAll (plan : SuitePlan) (host : Host σ) (scripts : List Script) : SuiteM σ Stats := do
  tell host (.runStarted plan.suite scripts.length)
  visitAll plan host 0 scripts
  let stats := (← get).stats
  onWorld (·.log (finishedEvent plan.suite stats))
  tell host (.runFinished plan.suite plan.runSpan stats)
  return stats

def opening (bench : Bench) (state : σ) : SuiteState σ :=
  ⟨{ bench.world with signals := [] }, state, .start bench.scripts.length, none, []⟩

-- Nothing happens at all when two tests share a name.
def execute (plan : SuitePlan) (host : Host σ) (bench : Bench) (state : σ) :
    SuiteState σ × SuiteEnd :=
  let start := opening bench state
  match Names.check bench.names with
  | .error repeated => (start, .repeated repeated)
  | .ok () =>
    match runAll plan host bench.scripts start with
    | .ok stats s => (s, .finished stats)
    | .error e s => (s, .stopped e)

end Suite
end TrialBench
