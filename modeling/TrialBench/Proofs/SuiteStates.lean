import TrialBench.Proofs.SuiteRun
namespace TrialBench

-- From its calm states such a host returns no error.
structure Host.Unfailing {σ : Type} (host : Host σ) (calm : σ → Prop) : Prop where
  unfailing : ∀ event w heard, calm heard → (host.hear event w heard).2.2 = none
  stays : ∀ event w heard, calm heard → calm (host.hear event w heard).2.1

theorem Host.Quiet.unfails {σ : Type} {host : Host σ} {calm : σ → Prop} (quiet : host.Quiet calm) :
    host.Unfailing calm := ⟨quiet.unfailing, quiet.stays⟩

theorem SuiteM.bind_ok {σ α β : Type} {x : SuiteM σ α} {f : α → SuiteM σ β} {s t : SuiteState σ} {value : α}
    (first : x s = .ok value t) : (x >>= f) s = f value t := by
  rw [bind_apply, first]

-- A suite run with a host that returns no error: what each of its parts leaves behind.
namespace SuiteState
variable {σ : Type} {host : Host σ} {calm : σ → Prop} {plan : SuitePlan} {s : SuiteState σ} {event : SuiteEvent}
  {script : Script} {index : Nat} {outcome : Outcome} {left : List Script}

def hear (host : Host σ) (event : SuiteEvent) (s : SuiteState σ) : SuiteState σ :=
  { s with
    world := (host.hear event s.world s.host).1
    host := (host.hear event s.world s.host).2.1
    told := s.told ++ [event] }

def introduced (plan : SuitePlan) (index : Nat) (s : SuiteState σ) : SuiteState σ :=
  { s with
    world := (s.world.onTest index fun cell => { cell with timeout := plan.timeout }).logStart index
      Closing.logTag plan.suite }

def invoked (plan : SuitePlan) (script : Script) (index : Nat) (s : SuiteState σ) : Run.Finished :=
  s.world.runTest index plan.watched (script.bodyOf (((s.world.test? index).map (·.runs)).getD 0))

def ran (finished : Run.Finished) (s : SuiteState σ) : SuiteState σ :=
  { s with world := finished.world, reason := finished.event.map CancelReason.signal <|> s.reason }

def counted (closed : World × Outcome) (s : SuiteState σ) : SuiteState σ :=
  { s with world := closed.1, stats := s.stats.finish closed.2 }

def concluded (plan : SuitePlan) (host : Host σ) (script : Script) (index : Nat) (result : RunResult)
    (s : SuiteState σ) : Outcome × SuiteState σ :=
  let closed := Closing.finish plan.suite index s.world (.returned result)
  let after := s.counted closed
  (closed.2, after.hear host
    (.testFinished script.name closed.2 (plan.testSpan after.stats.finishedCount) after.stats))

-- One test, from its announcement to where its end was told.
def attempted (plan : SuitePlan) (host : Host σ) (script : Script) (index : Nat) (s : SuiteState σ) :
    Outcome × SuiteState σ :=
  let begun := (s.introduced plan index).hear host (.testStarted script.name index)
  let finished := begun.invoked plan script index
  (begun.ran finished).concluded plan host script index finished.result

def canceled (plan : SuitePlan) (host : Host σ) (reason : CancelReason) (s : SuiteState σ) : SuiteState σ :=
  { s with world := s.world.log (Suite.cancelingEvent plan.suite reason) }.hear host (.runCanceled reason)

def considered (plan : SuitePlan) (host : Host σ) (outcome : Outcome) (s : SuiteState σ) : SuiteState σ :=
  let held := { s with reason := plan.reasonAfter s.reason outcome }
  match held.reason with
  | none => held
  | some reason => if s.stats.hasRemaining then held.canceled plan host reason else held

def skipped (host : Host σ) (reason : CancelReason) (script : Script) (s : SuiteState σ) : SuiteState σ :=
  { s with stats := s.stats.skip }.hear host (.testSkipped script.name reason)

def visited (plan : SuitePlan) (host : Host σ) (script : Script) (index : Nat) (s : SuiteState σ) : SuiteState σ :=
  match s.reason with
  | some reason => s.skipped host reason script
  | none =>
    let (outcome, after) := s.attempted plan host script index
    after.considered plan host outcome

def visitedAll (plan : SuitePlan) (host : Host σ) : Nat → List Script → SuiteState σ → SuiteState σ
  | _, [], s => s
  | index, script :: left, s => visitedAll plan host (index + 1) left (s.visited plan host script index)

def closed (plan : SuitePlan) (host : Host σ) (s : SuiteState σ) : SuiteState σ :=
  { s with world := s.world.log (Suite.finishedEvent plan.suite s.stats) }.hear host
    (.runFinished plan.suite plan.runSpan s.stats)

theorem tell_exact (unfailing : host.Unfailing calm) (kept : calm s.host) :
    Suite.tell host event s = .ok () (s.hear host event) := by
  unfold Suite.tell hear
  simp only [unfailing.unfailing event s.world s.host kept]

theorem hear_calm (unfailing : host.Unfailing calm) (kept : calm s.host) : calm (s.hear host event).host :=
  unfailing.stays event s.world s.host kept

theorem attempted_calm (unfailing : host.Unfailing calm) (kept : calm s.host) :
    calm (s.attempted plan host script index).2.host := by
  have begun : calm ((s.introduced plan index).hear host (.testStarted script.name index)).host :=
    hear_calm unfailing kept
  exact hear_calm unfailing begun

theorem considered_calm (unfailing : host.Unfailing calm) (kept : calm s.host) :
    calm (s.considered plan host outcome).host := by
  unfold considered
  dsimp only
  split
  · exact kept
  · split
    · exact hear_calm unfailing kept
    · exact kept

theorem visited_calm (unfailing : host.Unfailing calm) (kept : calm s.host) :
    calm (s.visited plan host script index).host := by
  unfold visited
  split
  · exact hear_calm unfailing kept
  · exact considered_calm unfailing (attempted_calm unfailing kept)

theorem visitedAll_calm (unfailing : host.Unfailing calm) (kept : calm s.host) :
    calm (s.visitedAll plan host index left).host := by
  induction left generalizing s index with
  | nil => exact kept
  | cons script left ih => exact ih (visited_calm unfailing kept)

theorem runTest_settles :
    Suite.runTest plan script index s =
      .ok (s.invoked plan script index).result (s.ran (s.invoked plan script index)) := rfl

theorem conclude_settles (unfailing : host.Unfailing calm) {result : RunResult} (kept : calm s.host) :
    Suite.conclude plan host script index result s =
      .ok (s.concluded plan host script index result).1 (s.concluded plan host script index result).2 := by
  have counted : calm (s.counted (Closing.finish plan.suite index s.world (.returned result))).host := kept
  exact SuiteM.bind_ok (tell_exact unfailing counted)

theorem considerStop_settles (unfailing : host.Unfailing calm) (kept : calm s.host) :
    Suite.considerStop plan host outcome s = .ok () (s.considered plan host outcome) := by
  unfold considered
  cases stopped : plan.reasonAfter s.reason outcome with
  | none =>
    rw [Scene.considerStop_exact stopped]
  | some reason =>
    rw [Scene.considerStop_exact stopped]
    dsimp only
    split
    · exact tell_exact unfailing kept
    · rfl

theorem visit_exact (unfailing : host.Unfailing calm) (kept : calm s.host) :
    Suite.visit plan host script index s = .ok () (s.visited plan host script index) := by
  unfold visited
  cases held : s.reason with
  | some reason =>
    rw [Scene.visit_skips held]
    exact tell_exact unfailing kept
  | none =>
    have introduced : calm (s.introduced plan index).host := kept
    let begun := (s.introduced plan index).hear host (.testStarted script.name index)
    have ran : calm (begun.ran (begun.invoked plan script index)).host := hear_calm unfailing introduced
    rw [Scene.visit_runs held rfl]
    refine (SuiteM.bind_ok (tell_exact unfailing introduced)).trans ?_
    refine (SuiteM.bind_ok runTest_settles).trans ?_
    refine (SuiteM.bind_ok (conclude_settles unfailing ran)).trans ?_
    exact considerStop_settles unfailing (attempted_calm unfailing kept)

theorem visitAll_exact (unfailing : host.Unfailing calm) (kept : calm s.host) :
    Suite.visitAll plan host index left s = .ok () (s.visitedAll plan host index left) := by
  induction left generalizing s index with
  | nil => rfl
  | cons script left ih =>
    exact (SuiteM.bind_ok (visit_exact unfailing kept)).trans (ih (visited_calm unfailing kept))

-- What the whole run leaves behind.
def played (plan : SuitePlan) (host : Host σ) (scripts : List Script) (s : SuiteState σ) : SuiteState σ :=
  (s.hear host (.runStarted plan.suite scripts.length)).visitedAll plan host 0 scripts

theorem runAll_exact (unfailing : host.Unfailing calm) (kept : calm s.host) :
    Suite.runAll plan host left s =
      .ok (s.played plan host left).stats ((s.played plan host left).closed plan host) := by
  have opened : calm (s.hear host (.runStarted plan.suite left.length)).host := hear_calm unfailing kept
  have visited : calm (s.played plan host left).host := visitedAll_calm unfailing opened
  refine (SuiteM.bind_ok (tell_exact unfailing kept)).trans ?_
  refine (SuiteM.bind_ok (visitAll_exact unfailing opened)).trans ?_
  have logged : calm { s.played plan host left with
    world := (s.played plan host left).world.log
      (Suite.finishedEvent plan.suite (s.played plan host left).stats) }.host := visited
  exact SuiteM.bind_ok (tell_exact unfailing logged)

theorem execute_exact {bench : Bench} {heard : σ} (unfailing : host.Unfailing calm) (kept : calm heard)
    (distinct : Names.check bench.names = .ok ()) :
    Suite.execute plan host bench heard =
      (((Suite.opening bench heard).played plan host bench.scripts).closed plan host,
        .finished ((Suite.opening bench heard).played plan host bench.scripts).stats) := by
  have opened : calm (Suite.opening bench heard).host := kept
  have ran : Suite.runAll plan host bench.scripts _ = .ok _ _ := runAll_exact unfailing opened
  unfold Suite.execute
  simp only [distinct, ran]

end SuiteState
end TrialBench
