namespace TrialBench

inductive LogLevel where
  | error
  | warn
  | info
  | debug
  deriving DecidableEq

inductive LogSource where
  | config
  | context
  | output
  | registry
  | signal
  | suite
  | unitTest
  deriving DecidableEq

-- A field is a number, a text shown as it is, or a text that log lines put in quotes.
inductive LogValue where
  | number (value : Int)
  | shown (text : String)
  | quoted (text : String)
  deriving DecidableEq

structure LogEvent where
  level : LogLevel
  source : LogSource
  message : String
  fields : List (String × LogValue)
  deriving DecidableEq

def LogLevel.text : LogLevel → String
  | .error => "ERROR"
  | .warn => "WARN"
  | .info => "INFO"
  | .debug => "DEBUG"

def LogSource.target : LogSource → String
  | .config => "outcome_harness::config"
  | .context => "outcome_harness::context"
  | .output => "outcome_harness::output"
  | .registry => "outcome_harness::registry"
  | .signal => "outcome_harness::signal"
  | .suite => "outcome_harness::suite"
  | .unitTest => "outcome_harness::unit_test"

end TrialBench
