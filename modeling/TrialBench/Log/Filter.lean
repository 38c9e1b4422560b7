import TrialBench.Log.Event
import TrialBench.Number.Digits
namespace TrialBench

inductive Verbosity where
  | off
  | error
  | warn
  | info
  | debug
  | trace
  deriving DecidableEq

namespace Verbosity

def names : List (String × Verbosity) := [
  ("off", .off), ("error", .error), ("warn", .warn), ("info", .info), ("debug", .debug),
  ("trace", .trace)]

def rank : Verbosity → Nat
  | .off => 0
  | .error => 1
  | .warn => 2
  | .info => 3
  | .debug => 4
  | .trace => 5

def ofLevel : LogLevel → Verbosity
  | .error => .error
  | .warn => .warn
  | .info => .info
  | .debug => .debug

def admits (limit : Verbosity) (level : LogLevel) : Bool := (ofLevel level).rank ≤ limit.rank

-- The number may carry a plus sign and leading zeros.
def numbered? (text : String) : Option Verbosity :=
  let digits := match text.toList with
    | '+' :: digits => digits
    | digits => digits
  (Digits.read? 10 digits).bind fun n => (names[n]?).map (·.2)

-- The names are read in any case. No name at all stands for errors only.
def named? (text : String) : Option Verbosity :=
  if text = "" then some .error else names.lookup (text.map Char.toLower)

def read? (text : String) : Option Verbosity := numbered? text <|> named? text

end Verbosity

-- What a filter says of the events whose source starts with the target, if it names
-- one, and that carry the field, if it names one.
structure Directive where
  target : Option String
  field : Option String
  limit : Verbosity
  deriving DecidableEq

inductive DirectiveFault where
  | equalSigns
  | fieldLists
  | fieldListEnd
  | level
  deriving DecidableEq

def DirectiveFault.text : DirectiveFault → String
  | .equalSigns => "invalid filter directive: too many '=' in filter directive, expected 0 or 1"
  | .fieldLists => "invalid filter directive: too many '[\x7b' in filter directive, expected 0 or 1"
  | .fieldListEnd => "invalid filter directive: expected fields list to end with '\x7d]'"
  | .level => "error parsing level filter: expected one of \"off\", \"error\", \"warn\", \"info\", "
    ++ "\"debug\", \"trace\", or a number 0-5"

namespace Directive

-- A text without its closing bracket pairs, however many there are, from its reverse.
def dropClosings : List Char → List Char
  | ']' :: '\x7d' :: rest => dropClosings rest
  | text => text

def fieldIn (text : String) : Except DirectiveFault (Option String) :=
  match text.toList.reverse with
  | ']' :: '\x7d' :: rest =>
    let name := String.ofList (dropClosings rest).reverse
    .ok (if name = "" then none else some name)
  | _ => .error .fieldListEnd

def splitField (text : String) : Except DirectiveFault (String × Option String) :=
  match text.splitOn "[\x7b" with
  | [target] => .ok (target, none)
  | [target, field] => (fieldIn field).map fun name => (target, name)
  | _ => .error .fieldLists

-- A level alone holds for every source. A target alone lets everything through.
def ofBare (text : String) : Directive :=
  match Verbosity.read? text with
  | some limit => ⟨none, none, limit⟩
  | none => ⟨some text, none, .trace⟩

def ofPair (scope level : String) : Except DirectiveFault Directive := do
  let (target, field) ← splitField scope
  match Verbosity.read? level with
  | some limit => return ⟨some target, field, limit⟩
  | none => .error .level

def read (text : String) : Except DirectiveFault Directive :=
  match text.splitOn "=" with
  | [bare] => .ok (ofBare bare)
  | [scope, level] => ofPair scope level
  | _ => .error .equalSigns

-- The message counts as a field of every event.
def fieldNames (event : LogEvent) : List String := "message" :: event.fields.map (·.1)

def concerns (directive : Directive) (event : LogEvent) : Bool :=
  directive.target.all (·.toList.isPrefixOf event.source.target.toList)
    && directive.field.all (fieldNames event).contains

-- How much of a target is named. Naming an empty one is more than naming none.
def reach (directive : Directive) : Nat :=
  match directive.target with
  | none => 0
  | some target => target.length + 1

def fieldYields : Option String → Option String → Bool
  | none, _ => true
  | some _, none => false
  | some a, some b => a ≤ b

-- The longer target goes first, and at equal lengths the greater field. Where nothing
-- tells two directives apart, the later one goes first.
def yieldsTo (earlier later : Directive) : Bool :=
  earlier.reach < later.reach
    || (earlier.reach == later.reach && fieldYields earlier.field later.field)

def prefer (best : Option Directive) (next : Directive) : Option Directive :=
  match best with
  | none => some next
  | some earlier => if earlier.yieldsTo next then some next else some earlier

end Directive

structure LogFilter where
  directives : List Directive
  deriving DecidableEq

namespace LogFilter

def usual : LogFilter := ⟨[⟨none, none, .info⟩]⟩

-- Commas separate directives, and blanks belong to them.
def read (text : String) : Except DirectiveFault LogFilter :=
  ((text.splitOn ",").mapM Directive.read).map LogFilter.mk

def deciding? (filter : LogFilter) (event : LogEvent) : Option Directive :=
  (filter.directives.filter (·.concerns event)).foldl Directive.prefer none

-- What no directive concerns is not shown.
def shows (filter : LogFilter) (event : LogEvent) : Bool :=
  (filter.deciding? event).any (·.limit.admits event.level)

end LogFilter
end TrialBench
