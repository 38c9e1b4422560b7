namespace TrialBench

inductive ShutdownEvent where
  | hangup
  | terminate
  | interrupt
  deriving DecidableEq

inductive CancelReason where
  | testFailure
  | signal (event : ShutdownEvent)
  deriving DecidableEq

def ShutdownEvent.text : ShutdownEvent → String
  | .hangup => "hangup"
  | .terminate => "terminate"
  | .interrupt => "interrupt"

namespace CancelReason

def text : CancelReason → String
  | .testFailure => "test failure"
  | .signal event => event.text ++ " signal"

def event? : CancelReason → Option ShutdownEvent
  | .testFailure => none
  | .signal event => some event

end CancelReason
end TrialBench
