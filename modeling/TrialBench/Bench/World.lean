import TrialBench.Bench.Action
import TrialBench.Duration
import TrialBench.Log.Event
import TrialBench.Text.Quoted
namespace TrialBench

-- A handler of messages. A verdict handler belongs to one gate of one test. A recorder
-- writes down what it gets, and its first call leads to its follow-up. Its later calls only
-- write down, or it could call itself without end: one that is to act again is installed again.
inductive Handler where
  | verdict (test gate : Nat)
  | recorder (followUp : Nat) (tag : String) (owner : Nat)
  deriving DecidableEq

-- The state of one test between steps. The gate is there only while a run lasts.
structure TestCell where
  name : String
  timeout : Duration
  outcome : Outcome
  gate : Option Nat
  cancelPending : Bool
  runs : Nat

def TestCell.fresh (name : String) (timeout : Duration) : TestCell :=
  ⟨name, timeout, .notStarted, none, false, 0⟩

structure Timer where
  due : Nat
  owner : Nat
  action : Action

structure Device where
  name : String
  version : String

inductive Finding where
  | sessionError (error : ErrorChain)
  | test (name : String) (outcome : Outcome) (view : String) (device : Device)
  | session (view : String)

structure Record where
  tag : String
  message : Message

-- Everything that tests, handlers and runs share. Channels hold the handlers of
-- sessions; a session and its clones name one channel. A gate is open when it holds
-- the permit of a release that no wait has used.
structure World where
  device : Device
  sessionFaults : List (Nat × ErrorChain)
  tests : List TestCell
  channels : List (Option Handler)
  sessions : List Nat
  attempts : Nat
  gates : List Bool
  followUps : List (List Action)
  agenda : List Timer
  clock : Nat
  signals : List ShutdownEvent
  logs : List LogEvent
  findings : List Finding
  records : List Record

namespace World

def fresh (device : Device) (faults : List (Nat × ErrorChain)) (tests : List TestCell) : World :=
  ⟨device, faults, tests, [], [], 0, [], [], [], 0, [], [], [], []⟩

def test? (w : World) (test : Nat) : Option TestCell := w.tests[test]?

def onTest (w : World) (test : Nat) (f : TestCell → TestCell) : World :=
  { w with tests := w.tests.modify test f }

def outcomeOf (w : World) (test : Nat) : Outcome :=
  match w.test? test with
  | some cell => cell.outcome
  | none => .notStarted

def nameOf (w : World) (test : Nat) : String := ((w.test? test).map (·.name)).getD ""

def mark (w : World) (test : Nat) (verdict : Mark) : World :=
  w.onTest test fun cell => { cell with outcome := cell.outcome.mark verdict }

def requestCancel (w : World) (test : Nat) : World :=
  w.onTest test fun cell => { cell with cancelPending := true }

def clearCancel (w : World) (test : Nat) : World :=
  w.onTest test fun cell => { cell with cancelPending := false }

def pendingFor (w : World) (test : Nat) : Bool := ((w.test? test).map (·.cancelPending)).getD false

def log (w : World) (event : LogEvent) : World := { w with logs := w.logs ++ [event] }

def find (w : World) (finding : Finding) : World := { w with findings := w.findings ++ [finding] }

def openGate (w : World) (gate : Nat) : World := { w with gates := w.gates.set gate true }

def useGate (w : World) (gate : Nat) : World := { w with gates := w.gates.set gate false }

def isOpen (w : World) (gate : Nat) : Bool := w.gates.getD gate false

def newGate (w : World) : World × Nat := ({ w with gates := w.gates ++ [false] }, w.gates.length)

-- A new session's channel has no handler. Some attempts fail by arrangement.
def newChannel (w : World) : World × Except ErrorChain Nat :=
  let counted := { w with attempts := w.attempts + 1 }
  match w.sessionFaults.lookup w.attempts with
  | some fault => (counted, .error (.wrap "failed to create execution session" fault))
  | none => ({ counted with channels := w.channels ++ [none] }, .ok w.channels.length)

def listSession (w : World) (channel : Nat) : World := { w with sessions := w.sessions ++ [channel] }

def channelOf? (w : World) (session : Option Nat) : Option Nat :=
  match session with
  | some i => w.sessions[i]?
  | none => w.sessions.getLast?

def handlerAt (w : World) (channel : Nat) : Option Handler := (w.channels[channel]?).join

def install (w : World) (channel : Nat) (handler : Handler) : World :=
  { w with channels := w.channels.set channel (some handler) }

-- A signal that is already pending is not counted twice.
def raise (w : World) (event : ShutdownEvent) : World :=
  if event ∈ w.signals then w else { w with signals := w.signals ++ [event] }

def boolText (b : Bool) : String := if b then "true" else "false"

def sessionView (handled : Bool) : String :=
  "LocalSession \x7b handler_installed: " ++ boolText handled ++ " \x7d MessagePoster \x7b .. \x7d"

def testView (cell : TestCell) : String :=
  "TestContext \x7b name: " ++ Text.quote cell.name ++ ", outcome: " ++ cell.outcome.debugName
    ++ ", has_gate: " ++ boolText cell.gate.isSome ++ " \x7d"

def observe (w : World) (test : Nat) : World :=
  match w.test? test with
  | some cell => w.find (.test cell.name cell.outcome (testView cell) w.device)
  | none => w

end World
end TrialBench
