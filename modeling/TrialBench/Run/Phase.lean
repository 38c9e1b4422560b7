import TrialBench.Bench.Op
namespace TrialBench

inductive WaitEnd where
  | released
  | canceled
  | timedOut (waited : Duration)
  deriving DecidableEq

inductive RunResult where
  | finished (outcome : Outcome)
  | failed (test : String) (cause : ErrorChain)
  deriving DecidableEq

def runErrorText (test : String) : String := "test `" ++ test ++ "` returned an error"

def runError (test : String) (cause : ErrorChain) : ErrorChain := .wrap (runErrorText test) cause

-- Where a run stands. Other threads may act between any two of its steps.
inductive Phase where
  -- The outcome is about to be reset.
  | start (body : List BodyStep)
  -- A cancel request that is still pending belongs to an earlier run.
  | clear (body : List BodyStep)
  -- Steps that are under way come before what is left of the body.
  | body (underway : List Op) (rest : List BodyStep)
  -- The gate is about to be taken from the test.
  | returned (error : Option ErrorChain)
  | waiting (gate deadline : Nat) (waited : Duration)
  | ended (how : WaitEnd)
  -- The failure is noted and is about to be told.
  | noted (how : WaitEnd)
  | reading
  | done (result : RunResult)

namespace Run

-- A wait has whole milliseconds, and at least one. One too long for the clock's 64 bits
-- ends after thirty years of 365 days.
def waitMillis (timeout : Duration) : Nat :=
  if Nat.pow 2 63 ≤ timeout.seconds then 30 * 365 * 86400000 else max 1 timeout.millisUp

def timedOutEvent (test : String) (waited : Duration) : LogEvent :=
  ⟨.error, .unitTest, "unit test waited too long for pass/fail message",
    [("test", .shown test), ("waited", .shown waited.text)]⟩

def canceledEvent (test : String) : LogEvent :=
  ⟨.error, .unitTest, "unit test was canceled while listening for pass/fail message",
    [("test", .shown test)]⟩

def unexpectedEvent (test : String) (outcome : Outcome) : LogEvent :=
  ⟨.warn, .unitTest, "unexpected unit test result",
    [("test", .shown test), ("outcome", .shown outcome.label)]⟩

def failedAssertion (test message : String) : LogEvent :=
  ⟨.error, .unitTest, message ++ " FAILED", [("test", .shown test)]⟩

-- What a run's next step comes to. A blocked run waits for others or for its deadline.
inductive Progress where
  | moved (world : World) (phase : Phase)
  | blocked (deadline : Nat)
  | finished (result : RunResult)

-- A session is made first. Only with messages enabled does it get a handler and the
-- test a new gate, in place of an earlier one; a failure leaves an earlier gate alone.
def prepare (w : World) (test : Nat) (enable ignoreError : Bool) (rest : List BodyStep) : Progress :=
  match w.newChannel with
  | (w, .error fault) =>
    if ignoreError then .moved (w.find (.sessionError fault)) (.body [] rest)
    else .moved w (.returned (some fault))
  | (w, .ok channel) =>
    if enable then
      let (w, gate) := w.newGate
      .moved w (.body [.install channel (.verdict test gate), .keepGate test gate,
        .listSession channel] rest)
    else .moved w (.body [.listSession channel] rest)

def bodyStep (w : World) (test : Nat) (rest : List BodyStep) : BodyStep → Progress
  | .mark verdict => .moved (w.mark test verdict) (.body [] rest)
  | .assert message holds =>
    if holds then .moved w (.body [] rest)
    else .moved (w.log (failedAssertion (w.nameOf test) message)) (.body [.mark test .fail] rest)
  | .prepare enable ignoreError => prepare w test enable ignoreError rest
  | .observe => .moved (w.observe test) (.body [] rest)
  | .stop error => .moved w (.returned (some error))
  | .act action => .moved w (.body [.act test action] rest)

-- The gate lasts no longer than the body's run. An error in the body ends the run
-- without a wait, and so does a body that left no gate.
def takeGate (w : World) (test : Nat) (error : Option ErrorChain) : Progress :=
  match w.test? test with
  | none => .moved w .reading
  | some cell =>
    let w := w.onTest test fun cell => { cell with gate := none }
    match error, cell.gate with
    | some cause, _ => .moved w (.done (.failed cell.name cause))
    | none, none => .moved w .reading
    | none, some gate =>
      .moved w (.waiting gate (w.clock + waitMillis cell.timeout) cell.timeout)

-- A release beats a cancel request, and that beats the deadline.
def poll (w : World) (test gate deadline : Nat) (waited : Duration) : Progress :=
  if w.isOpen gate then .moved (w.useGate gate) (.ended .released)
  else if w.pendingFor test then
    .moved (w.clearCancel test) (.ended .canceled)
  else if deadline ≤ w.clock then .moved w (.ended (.timedOut waited))
  else .blocked deadline

-- The answer is read last, after everything that was noted on the way.
def read (w : World) (test : Nat) : Progress :=
  let outcome := w.outcomeOf test
  let told := if outcome.isTerminal then w else w.log (unexpectedEvent (w.nameOf test) outcome)
  .moved told (.done (.finished outcome))

def restart (w : World) (test : Nat) : World :=
  w.onTest test fun cell => { cell with outcome := cell.outcome.restart, runs := cell.runs + 1 }

def advance (w : World) (test : Nat) : Phase → Progress
  | .start body => .moved (restart w test) (.clear body)
  | .clear body => .moved (w.clearCancel test) (.body [] body)
  | .body (op :: ops) rest => .moved (Op.step w op).1 (.body ((Op.step w op).2 ++ ops) rest)
  | .body [] (step :: rest) => bodyStep w test rest step
  | .body [] [] => .moved w (.returned none)
  | .returned error => takeGate w test error
  | .waiting gate deadline waited => poll w test gate deadline waited
  | .ended .released => .moved w .reading
  | .ended how => .moved (w.mark test .fail) (.noted how)
  | .noted (.timedOut waited) => .moved (w.log (timedOutEvent (w.nameOf test) waited)) .reading
  | .noted .canceled => .moved (w.log (canceledEvent (w.nameOf test))) .reading
  | .noted .released => .moved w .reading
  | .reading => read w test
  | .done result => .finished result

def stepWeights : List BodyStep → Nat
  | [] => 0
  | step :: rest => step.weight + stepWeights rest

-- How far a run is from its end, when nobody else acts.
def weight (clock : Nat) : Phase → Nat
  | .start body => 14 + stepWeights body
  | .clear body => 12 + stepWeights body
  | .body underway rest => 10 + Op.weights underway + stepWeights rest
  | .returned _ => 8
  | .waiting _ deadline _ => 6 + if clock < deadline then 1 else 0
  | .ended _ => 4
  | .noted _ => 3
  | .reading => 2
  | .done _ => 1

theorem newChannel_weight (w : World) : w.newChannel.1.weight = w.weight := by
  unfold World.newChannel; split <;> rfl

theorem bodyStep_lighter {w w' : World} {test : Nat} {rest : List BodyStep} {step : BodyStep}
    {p' : Phase} (moved : bodyStep w test rest step = .moved w' p') :
    w'.weight + weight w'.clock p' < w.weight + weight w.clock (.body [] (step :: rest)) := by
  cases step with
  | mark verdict =>
    cases moved; simp [World.weight, World.mark, World.onTest, weight, stepWeights, BodyStep.weight]
  | assert message holds =>
    simp only [bodyStep] at moved
    split at moved
    · cases moved
      simp [weight, stepWeights, BodyStep.weight]
    · cases moved
      simp [World.weight, World.log, weight, stepWeights, BodyStep.weight, Op.weights, Op.weight]
      omega
  | prepare enable ignoreError =>
    have same := newChannel_weight w
    simp only [bodyStep, prepare] at moved
    split at moved
    · rename_i v fault made
      rw [made] at same
      split at moved
      · cases moved
        simp_all [World.weight, World.find, weight, stepWeights, BodyStep.weight, Op.weights]
      · cases moved
        simp_all [World.weight, weight]
        omega
    · rename_i v channel made
      rw [made] at same
      split at moved
      · cases moved
        simp_all [World.weight, World.newGate, weight, stepWeights, BodyStep.weight, Op.weights, Op.weight]
        omega
      · cases moved
        simp_all [World.weight, weight, stepWeights, BodyStep.weight, Op.weights, Op.weight]
        omega
  | observe =>
    cases moved
    simp only [World.observe]
    split <;> simp [World.weight, World.find, weight, stepWeights, BodyStep.weight]
  | stop error => cases moved; simp [weight]; omega
  | act action =>
    cases moved; simp [weight, stepWeights, BodyStep.weight, Op.weights, Op.weight]; omega

theorem advance_lighter {w w' : World} {test : Nat} {p p' : Phase}
    (moved : advance w test p = .moved w' p') :
    w'.weight + weight w'.clock p' < w.weight + weight w.clock p := by
  cases p with
  | start body => cases moved; simp [World.weight, restart, World.onTest, weight]
  | clear body =>
    cases moved; simp [World.weight, World.clearCancel, World.onTest, weight, Op.weights]
  | body underway rest =>
    cases underway with
    | nil =>
      cases rest with
      | nil => cases moved; simp [weight, Op.weights, stepWeights]
      | cons step rest => exact bodyStep_lighter moved
    | cons op ops =>
      cases moved
      have := Op.step_lighter w op
      simp only [weight, Op.weights, Op.weights_append]
      omega
  | returned error =>
    simp only [advance, takeGate] at moved
    split at moved
    · cases moved; simp [weight]
    · split at moved <;> cases moved <;> simp [World.weight, World.onTest, weight]
      split <;> omega
  | waiting gate deadline waited =>
    simp only [advance, poll] at moved
    split at moved
    · cases moved; simp [World.weight, World.useGate, weight]; omega
    · split at moved
      · cases moved; simp [World.weight, World.clearCancel, World.onTest, weight]; omega
      · split at moved <;> cases moved
        simp [weight]; omega
  | ended how =>
    cases how <;> cases moved <;> simp [World.weight, World.mark, World.onTest, weight]
  | noted how => cases how <;> cases moved <;> simp [World.weight, World.log, weight]
  | reading =>
    simp only [advance, read] at moved
    cases moved
    split <;> simp [World.weight, World.log, weight]
  | done result => cases moved

end Run
end TrialBench
