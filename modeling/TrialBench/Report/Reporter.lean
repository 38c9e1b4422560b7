import TrialBench.ErrorChain
import TrialBench.FileTree
import TrialBench.Report.Document
import TrialBench.Settings.Profile
namespace TrialBench

structure Reporter where
  target : ReportTarget
  suite : String
  cases : List Report.Case

-- A report fails before anything is written, at a path, or while it is written.
inductive ReportError where
  | path (path : String) (reason : FileError)
  | output (path : String) (reason : FileError)
  deriving DecidableEq

def ReportError.chain : ReportError → ErrorChain
  | .path file reason => .wrap ("error operating on path " ++ file) (.leaf reason.text)
  | .output file reason => ⟨"error writing JUnit output to " ++ file,
      ["error serializing JUnit report", "I/O error: " ++ reason.text, reason.text]⟩

namespace Reporter

def start (target : ReportTarget) (suite : String) : Reporter := ⟨target, suite, []⟩

def document (reporter : Reporter) (span : Span) : Report.Document :=
  ⟨reporter.target.name, span, reporter.suite, reporter.cases⟩

-- The folders above the report are made first, and a failure there names the folder.
-- Whatever was made stays, also when the report itself cannot be opened or written.
def write (reporter : Reporter) (files : FileTree) (span : Span) :
    FileTree × Except ReportError Unit :=
  let path := reporter.target.path
  let folder := (Path.parent? path).getD ""
  match files.makeFolders folder with
  | (files, .error reason) => (files, .error (.path folder reason))
  | (files, .ok ()) =>
    match files.openPlace path with
    | .error reason => (files, .error (.path path reason))
    | .ok place =>
      match files.store place (Report.render (reporter.document span)) with
      | .error reason => (files, .error (.output path reason))
      | .ok files => (files, .ok ())

def collect (reporter : Reporter) (event : SuiteEvent) : Reporter :=
  { reporter with cases := reporter.cases ++ (Report.caseOf? event).toList }

-- Only the end of a run touches files. The cases stay, whether it succeeds or not.
def take (reporter : Reporter) (files : FileTree) (event : SuiteEvent) :
    Reporter × FileTree × Except ReportError Unit :=
  match event with
  | .runFinished _ span _ => (reporter, reporter.write files span)
  | event => (reporter.collect event, files, .ok ())

end Reporter
end TrialBench
