import TrialBench.Bench.World
namespace TrialBench.World

def startEvent (cell : TestCell) (device : Device) (tag suite : String) : LogEvent where
  level := .info
  source := .unitTest
  message := suite ++ ": starting '" ++ cell.name ++ "' on device " ++ device.name
    ++ ", platform version " ++ device.version
  fields := [("tag", .quoted tag), ("suite", .quoted suite), ("test", .shown cell.name),
    ("device", .shown device.name), ("platform_version", .shown device.version)]

-- What is told after it, with the outcome as it is then.
def endEvent (cell : TestCell) (tag : String) : LogEvent where
  level := .info
  source := .unitTest
  message := "test '" ++ cell.name ++ "': " ++ cell.outcome.label
  fields := [("tag", .quoted tag), ("test", .shown cell.name), ("outcome", .shown cell.outcome.label)]

def logStart (w : World) (test : Nat) (tag suite : String) : World :=
  match w.test? test with
  | some cell => w.log (startEvent cell w.device tag suite)
  | none => w

def logEnd (w : World) (test : Nat) (tag : String) : World :=
  match w.test? test with
  | some cell => w.log (endEvent cell tag)
  | none => w

end TrialBench.World
