import TrialBench.Number.Shortest
import TrialBench.Report.Case
import TrialBench.Text.Terminal
namespace TrialBench.Report

structure Document where
  name : String
  span : Span
  suite : String
  cases : List Case

def escapeChar (c : Char) : List Char :=
  if c = '<' then ['&', 'l', 't', ';']
  else if c = '>' then ['&', 'g', 't', ';']
  else if c = '&' then ['&', 'a', 'm', 'p', ';']
  else if c = '\'' then ['&', 'a', 'p', 'o', 's', ';']
  else if c = '"' then ['&', 'q', 'u', 'o', 't', ';']
  else [c]

def escape (text : String) : String := String.ofList (text.toList.flatMap escapeChar)

-- Texts are shown as a terminal would print them.
def shown (text : String) : String := escape (Text.Terminal.strip text)

def property (name value : String) : String := " " ++ name ++ "=\"" ++ value ++ "\""

def opening (name : String) (properties : List (String × String)) : String :=
  "<" ++ name ++ String.join (properties.map fun (name, value) => property name value)

-- The time in seconds as a binary64 number: whole seconds and their fraction are
-- rounded each on its own, and then their sum.
def seconds (d : Duration) : Double :=
  match Double.ofNat d.seconds, Double.ofQuotient false d.subsecond Duration.second with
  | .finite _ whole, .finite _ part => Double.addMagnitudes whole part
  | x, _ => x

def secondsText (d : Duration) : String := (seconds d).placesText 3

def spanProperties (span : Span) : List (String × String) :=
  [("timestamp", span.start.text), ("time", secondsText span.elapsed)]

def indent (depth : Nat) (line : String) : String :=
  String.ofList (List.replicate (4 * depth) ' ') ++ line

-- The line inside a case that says why it is no success.
def statusLines (case : Case) : List String :=
  let line (name : String) (type : List (String × String)) : List String :=
    [indent 3 (opening name (("message", shown case.message) :: type) ++ "/>")]
  match case.status with
  | .success => []
  | .failure => line "failure" [("type", "test failure")]
  | .error => line "error" [("type", "unexpected outcome")]
  | .skipped => line "skipped" []

def caseLines (suite : String) (case : Case) : List String :=
  let properties := [("name", shown case.name), ("classname", shown suite)]
    ++ (case.span.map spanProperties).getD []
  indent 2 (opening "testcase" properties ++ ">") ::
    (statusLines case ++ [indent 2 "</testcase>"])

def suiteLines (document : Document) : List String :=
  let counted (status : Status) : String := toString (count status document.cases)
  let properties := [("name", shown document.suite), ("tests", toString document.cases.length),
    ("disabled", counted .skipped), ("errors", counted .error), ("failures", counted .failure)]
  indent 1 (opening "testsuite" properties ++ ">") ::
    (document.cases.flatMap (caseLines document.suite) ++ [indent 1 "</testsuite>"])

def lines (document : Document) : List String :=
  let counted (status : Status) : String := toString (count status document.cases)
  let properties := [("name", shown document.name), ("tests", toString document.cases.length),
    ("failures", counted .failure), ("errors", counted .error)] ++ spanProperties document.span
  "<?xml version=\"1.0\" encoding=\"UTF-8\"?>" ::
    (opening "testsuites" properties ++ ">") :: (suiteLines document ++ ["</testsuites>"])

def render (document : Document) : String :=
  String.join ((lines document).map (· ++ "\n"))

end TrialBench.Report
