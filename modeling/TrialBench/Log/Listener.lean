import TrialBench.Log.Filter
import TrialBench.Text.Quoted
namespace TrialBench

def LogValue.text : LogValue → String
  | .number value => toString value
  | .shown text => text
  | .quoted text => Text.quote text

namespace LogEvent

-- The controls that a terminal would act on are spelled out. Line ends are kept.
def spellControl (c : Char) : List Char :=
  if c ∈ ['\x1b', '\x07', '\x08', '\x0c', '\x7f'] then
    ['\\', 'x', Text.hexDigit (c.toNat / 16), Text.hexDigit (c.toNat % 16)]
  else if 0x80 ≤ c.toNat ∧ c.toNat ≤ 0x9f then
    ['\\', 'u', '\x7b'] ++ Text.hexDigits c.toNat ++ ['\x7d']
  else [c]

def spellControls (text : String) : String := String.ofList (text.toList.flatMap spellControl)

def levelColumn (level : LogLevel) : String :=
  String.ofList (List.replicate (5 - level.text.length) ' ') ++ level.text

def fieldText (name : String) (value : LogValue) : String := " " ++ name ++ "=" ++ value.text

-- An event as it is written, without the time. Only the message is made harmless.
def line (event : LogEvent) : String :=
  levelColumn event.level ++ " " ++ event.source.target ++ ": " ++ spellControls event.message
    ++ String.join (event.fields.map fun (name, value) => fieldText name value)

end LogEvent

-- Who takes the events of a process: nobody, somebody else, or a filtered log.
inductive Listener where
  | nobody
  | elsewhere
  | filtered (filter : LogFilter)
  deriving DecidableEq

namespace Listener

def complaint (setting : String) (fault : DirectiveFault) : LogEvent where
  level := .warn
  source := .output
  message := "ignoring invalid OUTCOME_HARNESS_LOG value `" ++ setting ++ "`: " ++ fault.text
  fields := []

-- An unreadable setting is complained of, and the usual filter takes its place.
def filterFor (setting : String) : LogFilter × List LogEvent :=
  if setting = "" then (.usual, [])
  else match LogFilter.read setting with
    | .ok filter => (filter, [])
    | .error fault => (.usual, [complaint setting fault])

-- Whoever listens first keeps listening, so setting up a second time does nothing.
def setUp (setting : String) : Listener → Listener × List LogEvent
  | .nobody =>
    let (filter, events) := filterFor setting
    (.filtered filter, events)
  | listener => (listener, [])

def written (listener : Listener) (events : List LogEvent) : List String :=
  match listener with
  | .filtered filter => (events.filter filter.shows).map LogEvent.line
  | _ => []

end Listener
end TrialBench
