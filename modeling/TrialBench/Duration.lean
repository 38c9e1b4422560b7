namespace TrialBench

structure Duration where
  nanos : Nat
  deriving DecidableEq

namespace Duration

def second : Nat := 1000000000

-- Seconds are kept in 64 bits.
def secondsLimit : Nat := Nat.pow 2 64

def ofSeconds (n : Nat) : Duration := ⟨n * second⟩
def ofMillis (n : Nat) : Duration := ⟨n * 1000000⟩

def seconds (d : Duration) : Nat := d.nanos / second
def subsecond (d : Duration) : Nat := d.nanos % second

-- Whole milliseconds, rounded up: the clock that ends waits has no finer step.
def millisUp (d : Duration) : Nat := (d.nanos + 999999) / 1000000

-- One kind of part of a written length: how many nanoseconds one stands for, and
-- how one and many of it are named.
structure Part where
  nanos : Nat
  one : String
  many : String

-- A year has 365.25 days and a month 30.44; only these and days have a plural.
def parts : List Part := [
  ⟨31557600 * second, "year", "years"⟩,
  ⟨2630016 * second, "month", "months"⟩,
  ⟨86400 * second, "day", "days"⟩,
  ⟨3600 * second, "h", "h"⟩,
  ⟨60 * second, "m", "m"⟩,
  ⟨second, "s", "s"⟩,
  ⟨1000000, "ms", "ms"⟩,
  ⟨1000, "us", "us"⟩,
  ⟨1, "ns", "ns"⟩]

def Part.text (part : Part) (count : Nat) : String :=
  toString count ++ if count = 1 then part.one else part.many

-- The largest part first; parts that are zero are left out.
def written (rest : Nat) : List Part → List String
  | [] => []
  | part :: smaller =>
    let later := written (rest % part.nanos) smaller
    if rest / part.nanos = 0 then later else part.text (rest / part.nanos) :: later

def text (d : Duration) : String :=
  if d.nanos = 0 then "0s" else String.intercalate " " (written d.nanos parts)

end Duration
end TrialBench
