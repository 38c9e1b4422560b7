import TrialBench.Duration
import TrialBench.Number.Digits
import TrialBench.Text.Blank
namespace TrialBench.Duration

-- A unit is counted in nanoseconds or in seconds. The unit's fraction is resolved
-- on a grid of its own: nanoseconds up to minutes, and whole seconds above.
structure ReadUnit where
  names : List String
  nanos : Nat
  grid : Nat

def readUnits : List ReadUnit := [
  ⟨["nanos", "nsec", "ns"], 1, 1⟩,
  ⟨["usec", "us", "\u00b5s"], 1000, 1⟩,
  ⟨["millis", "msec", "ms"], 1000000, 1⟩,
  ⟨["seconds", "second", "secs", "sec", "s"], second, 1⟩,
  ⟨["minutes", "minute", "min", "mins", "m"], 60 * second, 1⟩,
  ⟨["hours", "hour", "hrs", "hr", "h"], 3600 * second, second⟩,
  ⟨["days", "day", "d"], 86400 * second, second⟩,
  ⟨["weeks", "week", "wks", "wk", "w"], 604800 * second, second⟩,
  ⟨["months", "month", "M"], 2630016 * second, second⟩,
  ⟨["years", "year", "yrs", "yr", "y"], 31557600 * second, second⟩]

def unitNamed? (name : List Char) : Option ReadUnit :=
  readUnits.find? (·.names.contains (String.ofList name))

def isUnitLetter (c : Char) : Bool :=
  ('a' ≤ c && c ≤ 'z') || ('A' ≤ c && c ≤ 'Z') || c = '\u00b5'

-- A number with its unit, such as 1.5h. Places counts the digits of the fraction.
structure Term where
  whole : Nat
  fraction : Nat
  places : Nat
  unit : ReadUnit

def wordLimit : Nat := Nat.pow 2 64

def inWord? (n : Nat) : Option Nat := if n < wordLimit then some n else none

-- The unit's share that is counted as seconds fits in a word, and so does the one
-- that is counted as nanoseconds.
def Term.wholeNanos? (term : Term) : Option Nat :=
  if term.unit.nanos < second then inWord? (term.whole * term.unit.nanos)
  else (inWord? (term.whole * (term.unit.nanos / second))).map (· * second)

-- A fraction counts only when it comes out exact on the unit's grid. The smallest
-- unit has none.
def Term.fractionNanos? (term : Term) : Option Nat :=
  if term.places = 0 then some 0
  else if term.unit.nanos = 1 then none
  else do
    let shifted ← inWord? (term.fraction * (term.unit.nanos / term.unit.grid))
    let scale ← inWord? (Nat.pow 10 term.places)
    if shifted % scale = 0 then some (shifted / scale * term.unit.grid) else none

def addNanos? (total extra : Nat) : Option Nat :=
  let sum := total + extra
  if sum < secondsLimit * second then some sum else none

def Term.addTo? (total : Nat) (term : Term) : Option Nat := do
  let total ← addNanos? total (← term.wholeNanos?)
  addNanos? total (← term.fractionNanos?)

-- Blanks may stand anywhere inside a number.
def isNumberPart (c : Char) : Bool := Digits.isDecimal c || Text.isBlank c

def digitRun (text : List Char) : List Char × List Char :=
  let (run, rest) := text.span isNumberPart
  (run.filter Digits.isDecimal, rest)

def fraction? : List Char → Option (List Char × List Char)
  | '.' :: rest =>
    let (digits, rest) := digitRun rest
    if digits.isEmpty then none else some (digits, rest)
  | rest => some ([], rest)

def decimalValue (digits : List Char) : Nat := (Digits.read? 10 digits).getD 0

def term? (text : List Char) : Option (Term × List Char) := do
  let (digits, rest) := digitRun text
  let whole ← inWord? (← Digits.read? 10 digits)
  let (places, rest) ← fraction? rest
  let fraction ← inWord? (decimalValue places)
  let (name, rest) := rest.span isUnitLetter
  let unit ← unitNamed? name
  some (⟨whole, fraction, places.length, unit⟩, rest)

-- Every term takes at least one character, so the length bounds their number.
def terms? : Nat → List Char → Option (List Term)
  | 0, _ => none
  | fuel + 1, text => do
    let (term, rest) ← term? text
    if rest.all Text.isBlank then some [term]
    else return term :: (← terms? fuel rest)

-- Terms may repeat and stand in any order. A zero needs no unit when it stands alone.
def read? (text : String) : Option Duration :=
  if text = "0" then some ⟨0⟩
  else do
    let terms ← terms? (text.length + 1) text.toList
    let total ← terms.foldlM Term.addTo? 0
    some ⟨total⟩

end TrialBench.Duration
