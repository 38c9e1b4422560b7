import TrialBench.Bench.World
namespace TrialBench

-- The smallest steps of a script: between any two of them another thread may act.
-- Posting reads the handler, and the call of that handler is a step of its own.
inductive Op where
  | act (owner : Nat) (action : Action)
  | call (handler : Handler) (message : Message)
  | mark (test : Nat) (verdict : Mark)
  -- The verdict of a message that came through a gate's handler.
  | note (test gate : Nat) (verdict : Mark)
  | release (test gate : Nat)
  | install (channel : Nat) (handler : Handler)
  | keepGate (test gate : Nat)
  | listSession (channel : Nat)

namespace Op

def weight : Op → Nat
  | .act _ action => action.weight
  | .call _ _ => 4
  | _ => 1

def weights : List Op → Nat
  | [] => 0
  | op :: rest => op.weight + weights rest

def acts (owner : Nat) (actions : List Action) : List Op := actions.map (.act owner)

-- A follow-up is used up by its first use, so a recorder acts on its first call only.
def takeAt : Nat → List (List Action) → List Action × List (List Action)
  | _, [] => ([], [])
  | 0, first :: rest => (first, [] :: rest)
  | i + 1, first :: rest => ((takeAt i rest).1, first :: (takeAt i rest).2)

def unexpectedMessage (name : String) (id : Int) : LogEvent :=
  ⟨.warn, .unitTest, "unit test got unexpected message", [("test", .shown name), ("id", .number id)]⟩

def droppedMessage (id : Int) : LogEvent :=
  ⟨.debug, .context, "no message handler installed, dropping message", [("id", .number id)]⟩

-- A verdict is noted before the gate is released. A message without one releases it too.
def answer (test gate : Nat) (message : Message) : List Op :=
  match message.verdict? with
  | some verdict => [.note test gate verdict, .release test gate]
  | none => [.release test gate]

def serve (w : World) (handler : Handler) (message : Message) : World × List Op :=
  match handler with
  | .verdict test gate =>
    match message.verdict? with
    | some _ => (w, answer test gate message)
    | none => (w.log (unexpectedMessage (w.nameOf test) message.id), answer test gate message)
  | .recorder followUp tag owner =>
    let (actions, left) := takeAt followUp w.followUps
    ({ w with followUps := left, records := w.records ++ [⟨tag, message⟩] }, acts owner actions)

def deliver (w : World) (channel : Nat) (message : Message) : World × List Op :=
  match w.handlerAt channel with
  | some handler => (w, [.call handler message])
  | none => (w.log (droppedMessage message.id), [])

def setRecorder (w : World) (owner channel : Nat) (tag : String) (followUp : List Action) : World :=
  { w.install channel (.recorder w.followUps.length tag owner) with
    followUps := w.followUps ++ [followUp] }

-- A session that does not exist is passed over.
def ask (w : World) (owner : Nat) : Action → World × List Op
  | .createSession =>
    match w.newChannel with
    | (w, .ok channel) => (w.listSession channel, [])
    | (w, .error fault) => (w.find (.sessionError fault), [])
  | .cloneSession session =>
    match w.channelOf? session with
    | some channel => (w.listSession channel, [])
    | none => (w, [])
  | .handle session tag followUp =>
    match w.channelOf? session with
    | some channel => (setRecorder w owner channel tag followUp, [])
    | none => (w, [])
  | .post session message =>
    match w.channelOf? session with
    | some channel => deliver w channel message
    | none => (w, [])
  | .describe session =>
    match w.channelOf? session with
    | some channel => (w.find (.session (World.sessionView (w.handlerAt channel).isSome)), [])
    | none => (w, [])
  | .mark test verdict => (w.mark (test.getD owner) verdict, [])
  | .markAll test verdicts => (w, verdicts.map (.mark (test.getD owner)))
  | .cancel test => (w.requestCancel (test.getD owner), [])
  | .signal event => (w.raise event, [])
  | .schedule delay action =>
    ({ w with agenda := w.agenda ++ [⟨w.clock + delay, owner, action⟩] }, [])

def step (w : World) : Op → World × List Op
  | .act owner action => ask w owner action
  | .call handler message => serve w handler message
  | .mark test verdict => (w.mark test verdict, [])
  | .note test _ verdict => (w.mark test verdict, [])
  | .release _ gate => (w.openGate gate, [])
  | .install channel handler => (w.install channel handler, [])
  | .keepGate test gate => (w.onTest test fun cell => { cell with gate := some gate }, [])
  | .listSession channel => (w.listSession channel, [])

end Op

namespace World

def followUpWeight : List (List Action) → Nat
  | [] => 0
  | actions :: rest => weights actions + followUpWeight rest

def agendaWeight : List Timer → Nat
  | [] => 0
  | timer :: rest => timer.action.weight + 1 + agendaWeight rest

def weight (w : World) : Nat := followUpWeight w.followUps + agendaWeight w.agenda

end World

namespace Op

theorem weights_append (a b : List Op) : weights (a ++ b) = weights a + weights b := by
  induction a with
  | nil => simp [weights]
  | cons op rest ih => simp [weights, ih, Nat.add_assoc]

theorem weights_acts (owner : Nat) (actions : List Action) :
    weights (acts owner actions) = TrialBench.weights actions := by
  induction actions with
  | nil => rfl
  | cons action rest ih => simpa [acts, weights, weight, TrialBench.weights] using ih

theorem weights_marks (test : Nat) (verdicts : List Mark) :
    weights (verdicts.map (Op.mark test)) = verdicts.length := by
  induction verdicts with
  | nil => rfl
  | cons verdict rest ih => simp [weights, weight, ih, Nat.add_comm]

theorem weight_takeAt (i : Nat) (followUps : List (List Action)) :
    TrialBench.weights (takeAt i followUps).1 + World.followUpWeight (takeAt i followUps).2
      = World.followUpWeight followUps := by
  induction followUps generalizing i with
  | nil => simp [takeAt, TrialBench.weights, World.followUpWeight]
  | cons first rest ih =>
    cases i with
    | zero => simp [takeAt, TrialBench.weights, World.followUpWeight]
    | succ i =>
      have := ih i
      simp only [takeAt, World.followUpWeight]
      omega

theorem followUpWeight_append (a b : List (List Action)) :
    World.followUpWeight (a ++ b) = World.followUpWeight a + World.followUpWeight b := by
  induction a with
  | nil => simp [World.followUpWeight]
  | cons first rest ih => simp [World.followUpWeight, ih, Nat.add_assoc]

theorem agendaWeight_append (a b : List Timer) :
    World.agendaWeight (a ++ b) = World.agendaWeight a + World.agendaWeight b := by
  induction a with
  | nil => simp [World.agendaWeight]
  | cons first rest ih => simp [World.agendaWeight, ih, Nat.add_assoc]

theorem ask_lighter (w : World) (owner : Nat) (action : Action) :
    (ask w owner action).1.weight + weights (ask w owner action).2 < w.weight + action.weight := by
  cases action with
  | createSession =>
    simp only [ask, World.newChannel]
    split <;> split at * <;> simp_all [World.weight, World.listSession, World.find, weights, Action.weight]
    all_goals (rename_i h; obtain ⟨rfl, -⟩ := h; simp)
  | cloneSession session =>
    simp only [ask]; split <;> simp [World.weight, World.listSession, weights, Action.weight]
  | handle session tag followUp =>
    simp only [ask]
    split
    · simp [World.weight, setRecorder, World.install, weights, Action.weight, followUpWeight_append,
        World.followUpWeight]
      omega
    · simp only [weights, Action.weight]
      omega
  | post session message =>
    simp only [ask]
    split
    · simp only [deliver]
      split <;> simp [World.weight, World.log, weights, weight, Action.weight]
    · simp [weights, Action.weight]
  | describe session =>
    simp only [ask]; split <;> simp [World.weight, World.find, weights, Action.weight]
  | mark test verdict => simp [ask, World.weight, World.mark, World.onTest, weights, Action.weight]
  | markAll test verdicts => simp [ask, weights_marks, Action.weight]
  | cancel test =>
    simp [ask, World.weight, World.requestCancel, World.onTest, weights, Action.weight]
  | signal event =>
    simp only [ask, World.raise]; split <;> simp [World.weight, weights, Action.weight]
  | schedule delay action =>
    simp [ask, World.weight, weights, Action.weight, agendaWeight_append, World.agendaWeight]
    omega

theorem step_lighter (w : World) (op : Op) :
    (step w op).1.weight + weights (step w op).2 < w.weight + op.weight := by
  cases op with
  | act owner action => exact ask_lighter w owner action
  | call handler message =>
    cases handler with
    | verdict test gate =>
      simp only [step, serve]
      split <;> rename_i found <;> simp [found, answer, World.weight, World.log, weights, weight]
    | recorder followUp tag owner =>
      have := weight_takeAt followUp w.followUps
      simp only [step, serve, World.weight, weights_acts, weight]
      omega
  | mark test verdict => simp [step, World.weight, World.mark, World.onTest, weights, weight]
  | note test gate verdict => simp [step, World.weight, World.mark, World.onTest, weights, weight]
  | release test gate => simp [step, World.weight, World.openGate, weights, weight]
  | install channel handler => simp [step, World.weight, World.install, weights, weight]
  | keepGate test gate => simp [step, World.weight, World.onTest, weights, weight]
  | listSession channel => simp [step, World.weight, World.listSession, weights, weight]

-- Runs steps to their end, each together with all it leads to before the next.
def drain (w : World) : List Op → World
  | [] => w
  | op :: rest => drain (step w op).1 ((step w op).2 ++ rest)
termination_by ops => w.weight + weights ops
decreasing_by
  have := step_lighter w op
  simp only [weights_append, weights]
  omega

theorem drain_weight (w : World) (ops : List Op) : (drain w ops).weight ≤ w.weight + weights ops := by
  fun_induction drain w ops with
  | case1 w => simp [weights]
  | case2 w op rest ih =>
    have := step_lighter w op
    simp only [weights_append, weights] at ih ⊢
    omega

end Op

namespace World

def perform (w : World) (owner : Nat) (action : Action) : World := Op.drain w [.act owner action]

def performAll (w : World) (owner : Nat) (actions : List Action) : World :=
  Op.drain w (Op.acts owner actions)

end World
end TrialBench
