import TrialBench.Run.Phase
namespace TrialBench

namespace World

def earliest : List Timer → Option (Timer × List Timer)
  | [] => none
  | timer :: rest =>
    match earliest rest with
    | none => some (timer, [])
    | some (next, others) =>
      if timer.due ≤ next.due then some (timer, rest) else some (next, timer :: others)

theorem earliest_weight {agenda others : List Timer} {next : Timer}
    (found : earliest agenda = some (next, others)) :
    next.action.weight + 1 + agendaWeight others = agendaWeight agenda := by
  induction agenda generalizing others next with
  | nil => cases found
  | cons timer rest ih =>
    simp only [earliest] at found
    split at found
    · rename_i none_left
      cases found
      cases rest with
      | nil => simp [agendaWeight]
      | cons other rest =>
        simp only [earliest] at none_left
        split at none_left <;> (try split at none_left) <;> cases none_left
    · rename_i first left there
      have := ih there
      split at found <;> cases found <;> simp only [agendaWeight]
      omega

-- The next timer up to a moment, taken off the agenda when the clock has come to it.
def popTimer (w : World) (limit : Nat) : Option (Timer × World) :=
  match earliest w.agenda with
  | none => none
  | some (next, others) =>
    if next.due ≤ limit then some (next, { w with agenda := others, clock := max w.clock next.due })
    else none

theorem popTimer_lighter {w w' : World} {limit : Nat} {timer : Timer}
    (popped : w.popTimer limit = some (timer, w')) :
    timer.action.weight + w'.weight < w.weight := by
  simp only [popTimer] at popped
  split at popped
  · cases popped
  · rename_i next others found
    split at popped <;> cases popped
    have := earliest_weight found
    simp only [weight]
    omega

theorem perform_weight (w : World) (owner : Nat) (action : Action) :
    (w.perform owner action).weight ≤ w.weight + action.weight := by
  have := Op.drain_weight w [.act owner action]
  simpa [perform, Op.weights, Op.weight] using this

def elapse (w : World) (limit : Nat) : World :=
  match _popped : w.popTimer limit with
  | some (timer, w') => elapse (w'.perform timer.owner timer.action) limit
  | none => { w with clock := max w.clock limit }
termination_by w.weight
decreasing_by
  have := popTimer_lighter _popped
  have := perform_weight w' timer.owner timer.action
  omega

def shutdownEvent (test : String) (event : ShutdownEvent) : LogEvent :=
  ⟨.warn, .signal, "received shutdown signal, canceling the running test",
    [("test", .quoted test), ("event", .shown event.text)]⟩

-- Takes the first pending signal and turns it into a cancel request. The order does not matter:
-- a suite takes one event at most and never looks at what else is pending, so a suite that takes
-- a later one is a suite in which those before it came after it.
def takeSignal (w : World) (test : Nat) : Option (ShutdownEvent × World) :=
  match w.signals with
  | [] => none
  | event :: rest =>
    some (event, (({ w with signals := rest }).log (shutdownEvent (w.nameOf test) event)).requestCancel test)

theorem takeSignal_weight {w w' : World} {test : Nat} {event : ShutdownEvent}
    (taken : w.takeSignal test = some (event, w')) : w'.weight = w.weight := by
  simp only [takeSignal] at taken
  split at taken <;> cases taken
  rfl

end World

namespace Run

structure Finished where
  world : World
  event : Option ShutdownEvent
  result : RunResult

theorem blocked_waiting {w : World} {test deadline : Nat} {p : Phase}
    (stopped : advance w test p = .blocked deadline) :
    w.clock < deadline ∧ ∃ gate waited, p = .waiting gate deadline waited := by
  cases p with
  | waiting gate deadline waited =>
    simp only [advance, poll] at stopped
    split at stopped
    · cases stopped
    · split at stopped
      · cases stopped
      · split at stopped
        · cases stopped
        · rename_i later
          cases stopped
          exact ⟨by omega, gate, waited, rfl⟩
  | body underway rest =>
    cases underway with
    | cons op ops => cases stopped
    | nil =>
      cases rest with
      | nil => cases stopped
      | cons step rest =>
        simp only [advance] at stopped
        cases step <;> simp only [bodyStep, prepare] at stopped
        all_goals (repeat' split at stopped) <;> cases stopped
  | returned error =>
    simp only [advance, takeGate] at stopped
    repeat' split at stopped
    all_goals cases stopped
  | ended how => cases how <;> cases stopped
  | noted how => cases how <;> cases stopped
  | _ => cases stopped

inductive Turn where
  | moved (world : World) (phase : Phase)
  | heeded (event : ShutdownEvent) (world : World)
  | resting (deadline : Nat)
  | finished (result : RunResult)

-- A run goes before the signals: only one that is blocked takes a pending shutdown
-- event, if it is watched.
def turn (w : World) (test : Nat) (watched : Bool) (p : Phase) : Turn :=
  match advance w test p with
  | .moved w' p' => .moved w' p'
  | .finished result => .finished result
  | .blocked deadline =>
    match if watched then w.takeSignal test else none with
    | some (event, w') => .heeded event w'
    | none => .resting deadline

theorem turn_moved {w w' : World} {test : Nat} {watched : Bool} {p p' : Phase} :
    turn w test watched p = .moved w' p' ↔ advance w test p = .moved w' p' := by
  unfold turn
  split
  · simp_all
  · simp_all
  · split <;> simp_all

theorem turn_finished {w : World} {test : Nat} {watched : Bool} {p : Phase} {result : RunResult} :
    turn w test watched p = .finished result ↔ advance w test p = .finished result := by
  unfold turn
  split
  · simp_all
  · simp_all
  · split <;> simp_all

theorem turn_heeded {w w' : World} {test : Nat} {watched : Bool} {p : Phase} {event : ShutdownEvent} :
    turn w test watched p = .heeded event w' ↔
      watched = true ∧ (∃ deadline, advance w test p = .blocked deadline) ∧
        w.takeSignal test = some (event, w') := by
  unfold turn
  cases advance w test p with
  | moved v q => simp
  | finished result => simp
  | blocked deadline =>
    cases watched with
    | false => simp
    | true => cases w.takeSignal test <;> simp [Prod.ext_iff]

theorem turn_resting {w : World} {test : Nat} {watched : Bool} {p : Phase} {deadline : Nat} :
    turn w test watched p = .resting deadline ↔
      advance w test p = .blocked deadline ∧ (watched = true → w.takeSignal test = none) := by
  unfold turn
  cases advance w test p with
  | moved v q => simp
  | finished result => simp
  | blocked deadline =>
    cases watched with
    | false => simp
    | true => cases w.takeSignal test <;> simp

-- Runs to the end with nobody else at work. A run that rests lets time pass to the
-- next timer or to its deadline.
def drive (w : World) (test : Nat) (watched : Bool) (p : Phase) : Finished :=
  match _turned : turn w test watched p with
  | .moved w' p' => drive w' test watched p'
  | .finished result => ⟨w, none, result⟩
  | .heeded event w' => { drive w' test false p with event := some event }
  | .resting deadline =>
    match _popped : w.popTimer deadline with
    | some (timer, w') => drive (w'.perform timer.owner timer.action) test watched p
    | none => drive { w with clock := deadline } test watched p
termination_by w.weight + weight w.clock p + watched.toNat
decreasing_by
  · have := advance_lighter (turn_moved.1 _turned)
    omega
  · obtain ⟨rfl, ⟨deadline, stopped⟩, taken⟩ := turn_heeded.1 _turned
    obtain ⟨early, gate, waited, rfl⟩ := blocked_waiting stopped
    have same := World.takeSignal_weight taken
    simp only [weight, same, early, if_true, Bool.toNat_true, Bool.toNat_false]
    split <;> omega
  · obtain ⟨early, gate, waited, rfl⟩ := blocked_waiting (turn_resting.1 _turned).1
    have := World.popTimer_lighter _popped
    have := World.perform_weight w' timer.owner timer.action
    simp only [weight, early, if_true]
    split <;> omega
  · obtain ⟨early, gate, waited, rfl⟩ := blocked_waiting (turn_resting.1 _turned).1
    simp only [weight, early, if_true, World.weight, Nat.lt_irrefl, if_false]
    omega

variable {w v : World} {test deadline : Nat} {watched : Bool} {p q : Phase}

theorem drive_moved (turned : turn w test watched p = .moved v q) :
    drive w test watched p = drive v test watched q := by
  rw [drive]
  split <;> simp_all

theorem drive_finished {result : RunResult} (turned : turn w test watched p = .finished result) :
    drive w test watched p = ⟨w, none, result⟩ := by
  rw [drive]
  split <;> simp_all

theorem drive_heeded {event : ShutdownEvent} (turned : turn w test watched p = .heeded event v) :
    drive w test watched p = { drive v test false p with event := some event } := by
  rw [drive]
  split <;> simp_all

theorem drive_fired {timer : Timer} (turned : turn w test watched p = .resting deadline)
    (popped : w.popTimer deadline = some (timer, v)) :
    drive w test watched p = drive (v.perform timer.owner timer.action) test watched p := by
  rw [drive]
  split <;> simp_all
  split <;> simp_all

theorem drive_lapsed (turned : turn w test watched p = .resting deadline) (none_ : w.popTimer deadline = none) :
    drive w test watched p = drive { w with clock := deadline } test watched p := by
  rw [drive]
  split <;> simp_all
  split <;> simp_all

end Run

namespace World

def runTest (w : World) (test : Nat) (watched : Bool) (body : List BodyStep) : Run.Finished :=
  Run.drive w test watched (.start body)

end World
end TrialBench
