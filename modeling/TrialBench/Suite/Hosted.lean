import TrialBench.Report.Reporter
import TrialBench.Suite.Runner
namespace TrialBench

-- What is done when a certain event of a run is told, counted from zero.
inductive HookDeed where
  | fail (error : ErrorChain)
  | act (action : Action)

structure Hook where
  event : Nat
  deed : HookDeed

-- A host that follows hooks and then passes each event on to a reporter, if it has one.
structure HookHost where
  heard : Nat
  reporter : Option Reporter
  files : FileTree

namespace HookHost

-- An error stops the hooks that are left.
def follow (w : World) : List HookDeed → World × Option ErrorChain
  | [] => (w, none)
  | .fail e :: _ => (w, some e)
  | .act action :: rest => follow (w.perform 0 action) rest

def pass (state : HookHost) (event : SuiteEvent) : HookHost × Option ErrorChain :=
  match state.reporter with
  | none => (state, none)
  | some reporter =>
    let (reporter, files, result) := reporter.take state.files event
    ({ state with reporter := some reporter, files }, match result with
      | .ok () => none
      | .error e => some e.chain)

def deeds (hooks : List Hook) (event : Nat) : List HookDeed :=
  (hooks.filter (·.event = event)).map (·.deed)

def host (hooks : List Hook) : Host HookHost where
  hear event w state :=
    let (w, stopped) := follow w (deeds hooks state.heard)
    let state := { state with heard := state.heard + 1 }
    match stopped with
    | some e => (w, state, some e)
    | none =>
      let (state, failed) := state.pass event
      (w, state, failed)

end HookHost

-- One run of a suite as it is asked for. What is not said is taken from the profile.
structure RunOrder where
  suite : String
  failFast : Option Bool
  timeout : Option Duration
  report : Bool
  hooks : List Hook

structure RunOutcome where
  bench : Bench
  files : FileTree
  told : List SuiteEvent
  ended : SuiteEnd
  report : Option String

namespace RunOrder

-- A fixed clock: each test takes a quarter of a second more than the one before it.
def fixedStart : Timestamp :=
  (Timestamp.read? "2024-01-02T03:04:05.678Z").getD ⟨0, 0, 0⟩

def plan (order : RunOrder) (profile : Profile) (watched : Bool) : SuitePlan where
  suite := order.suite
  failFast := order.failFast.getD profile.failFast
  timeout := order.timeout.getD profile.timeout
  watched := watched
  testSpan n := ⟨fixedStart, .ofMillis (n * 250)⟩
  runSpan := ⟨fixedStart, .ofSeconds 2⟩

def target? (order : RunOrder) (profile : Profile) : Option ReportTarget :=
  if order.report then profile.report else none

def carryOut (order : RunOrder) (profile : Profile) (watched : Bool) (bench : Bench)
    (files : FileTree) : RunOutcome :=
  let target := order.target? profile
  let state : HookHost := ⟨0, target.map (Reporter.start · order.suite), files⟩
  let (s, ended) := Suite.execute (order.plan profile watched) (HookHost.host order.hooks) bench state
  { bench := bench.withWorld s.world, files := s.host.files, told := s.told, ended
    report := target.bind fun target => s.host.files.read? target.path }

end RunOrder
end TrialBench
