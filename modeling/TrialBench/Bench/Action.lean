import TrialBench.ErrorChain
import TrialBench.Outcome
import TrialBench.Shutdown
namespace TrialBench

structure Message where
  id : Int
  payload : List Int
  deriving DecidableEq

namespace Message

def passedId : Int := 100
def failedId : Int := 101

def verdict? (message : Message) : Option Mark :=
  if message.id = passedId then some .pass
  else if message.id = failedId then some .fail
  else none

end Message

-- What scripts ask for, in bodies, handlers, schedules and between runs. A session or
-- test that is not named is the newest session and the script's own test.
inductive Action where
  | createSession
  | cloneSession (session : Option Nat)
  | handle (session : Option Nat) (tag : String) (followUp : List Action)
  | post (session : Option Nat) (message : Message)
  | describe (session : Option Nat)
  | mark (test : Option Nat) (verdict : Mark)
  | markAll (test : Option Nat) (verdicts : List Mark)
  | cancel (test : Option Nat)
  | signal (event : ShutdownEvent)
  | schedule (delay : Nat) (action : Action)

-- What a test's body can do besides: note a verdict, open the channel that its
-- messages come through, look at itself, or end with an error.
inductive BodyStep where
  | mark (verdict : Mark)
  | assert (message : String) (holds : Bool)
  | prepare (enable ignoreError : Bool)
  | observe
  | stop (error : ErrorChain)
  | act (action : Action)

-- How much work an action can lead to. A handler's follow-up runs once at most, so it
-- counts where it is set and nowhere else.
mutual
def Action.weight : Action → Nat
  | .handle _ _ followUp => 2 + weights followUp
  | .post _ _ => 5
  | .markAll _ verdicts => 1 + verdicts.length
  | .schedule _ action => 2 + action.weight
  | _ => 1
def weights : List Action → Nat
  | [] => 0
  | action :: rest => action.weight + weights rest
end

def BodyStep.weight : BodyStep → Nat
  | .act action => action.weight + 1
  | .prepare _ _ => 4
  | .assert _ _ => 2
  | _ => 1

end TrialBench
