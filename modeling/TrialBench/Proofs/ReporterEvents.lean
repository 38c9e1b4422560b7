import TrialBench.Proofs.ReportCases
namespace TrialBench

-- Says how a test ended, or that it was not run.
def SuiteEvent.isResult : SuiteEvent → Bool
  | .testFinished .. | .testSkipped .. => true
  | _ => false

namespace Report
variable {event : SuiteEvent} {told : List SuiteEvent}

-- The case that stands for such an event.
def Describes : SuiteEvent → Case → Prop
  | .testFinished name outcome span _, entry =>
    entry.name = name ∧ entry.status = statusOf outcome ∧ entry.span = some span
  | .testSkipped name _, entry => entry.name = name ∧ entry.status = .skipped ∧ entry.span = none
  | _, _ => False

theorem cases_described : List.Forall₂ Describes (told.filter SuiteEvent.isResult) (told.filterMap caseOf?) := by
  induction told with
  | nil => exact .nil
  | cons event told ih =>
    cases event with
    | testFinished name outcome span stats => exact .cons ⟨rfl, rfl, rfl⟩ ih
    | testSkipped name reason => exact .cons ⟨rfl, rfl, rfl⟩ ih
    | _ => exact ih

end Report

namespace Reporter
variable {reporter next : Reporter} {files found left : FileTree} {event : SuiteEvent} {span : Span}
  {visits : List (FileTree × SuiteEvent)}

-- A reporter after some events, each with the files as it found them then. Nothing is assumed
-- of these, and the reporter goes on after an error.
def after (reporter : Reporter) (visits : List (FileTree × SuiteEvent)) : Reporter :=
  visits.foldl (fun reporter visit => (reporter.take visit.1 visit.2).1) reporter

theorem after_exact : reporter.after visits =
    { reporter with cases := reporter.cases ++ (visits.map (·.2)).filterMap Report.caseOf? } := by
  unfold after
  simp only [take_collects]
  rw [← collect_all, List.foldl_map]

-- How a reporter takes an event.
structure Takes (reporter : Reporter) (found : FileTree) (event : SuiteEvent) (next : Reporter) (left : FileTree)
    (answer : Except ReportError Unit) : Prop where
  quiet : (∀ suite span stats, event ≠ .runFinished suite span stats) → left = found ∧ answer = .ok ()
  keeps : ∀ suite span stats, event = .runFinished suite span stats → next = reporter
  writes : ∀ suite span stats, event = .runFinished suite span stats → answer = .ok () →
    reporter.Leaves span left

theorem take_takes : reporter.Takes found event (reporter.take found event).1 (reporter.take found event).2.1
    (reporter.take found event).2.2 := by
  refine ⟨?_, ?_, ?_⟩
  · intro other
    cases event with
    | runFinished suite span stats => exact absurd rfl (other suite span stats)
    | _ => exact ⟨rfl, rfl⟩
  · rintro suite span stats rfl
    rfl
  · rintro suite span stats rfl done
    exact (write_wrote (Prod.ext rfl done)).leaves

-- What a reporter has collected is what it was told, one case for each result in their order.
-- The end of a run writes these cases and is not remembered, whether it fails or not. Only it
-- does anything to the files.
theorem reports_exact (target : ReportTarget) (suite : String) (visits : List (FileTree × SuiteEvent)) :
    ∃ cases, List.Forall₂ Report.Describes ((visits.map (·.2)).filter SuiteEvent.isResult) cases ∧
      (start target suite).after visits = ⟨target, suite, cases⟩ ∧
      ∀ found event next left answer, ((start target suite).after visits).take found event = (next, left, answer) →
        Takes ⟨target, suite, cases⟩ found event next left answer ∧
          ∀ ran span stats, event = .runFinished ran span stats → ∀ later others,
            later.map (·.2) = others.map (·.2) →
              (start target suite).after (visits ++ (found, event) :: later) =
                (start target suite).after (visits ++ others) := by
  refine ⟨_, Report.cases_described, ?_, ?_⟩
  · rw [after_exact]
    rfl
  · intro found event next left answer taken
    constructor
    · have takes := @take_takes ((start target suite).after visits) found event
      rw [taken, after_exact] at takes
      exact takes
    · rintro ran span stats rfl later others same
      simp only [after_exact, List.map_append, List.map_cons, same, List.filterMap_append, List.filterMap_cons,
        Report.caseOf?]

section Blocked
open Scene (someTarget)

def someSpan : Span := ⟨⟨0, 0, 0⟩, .ofSeconds 2⟩
def failed : SuiteEvent := .testFinished "late" .fail someSpan (.start 1)
def ends : SuiteEvent := .runFinished "suite" someSpan (.start 1)

-- A folder stands in the way of the report.
def blocked : FileTree := FileTree.fresh.put ["work", "report.xml"] .folder

theorem write_blocked (named : reporter.target = someTarget) :
    reporter.write blocked span = (blocked, .error (.path "report.xml" .isFolder)) := by
  have opened : blocked.openPlace "report.xml" = .error .isFolder := by
    unfold FileTree.openPlace
    rw [Scene.report_lastStep rfl rfl]
    rfl
  unfold Reporter.write
  simp only [named, someTarget, Scene.report_folder, Option.getD_some, Scene.makeFolders_here, opened]

-- A report that first failed is written with the one case that was collected before.
theorem reports_exact_blocked : ∃ cases left,
    List.Forall₂ Report.Describes [failed] cases ∧
      ((start someTarget "suite").after [(.fresh, failed)]).take blocked ends =
        (⟨someTarget, "suite", cases⟩, blocked, .error (.path "report.xml" .isFolder)) ∧
      ((start someTarget "suite").after [(.fresh, failed), (blocked, ends)]).take .fresh ends =
        (⟨someTarget, "suite", cases⟩, left, .ok ()) ∧
      Leaves ⟨someTarget, "suite", cases⟩ someSpan left := by
  obtain ⟨cases, described, held, takes⟩ := reports_exact someTarget "suite" [(.fresh, failed)]
  have again : (start someTarget "suite").after [(.fresh, failed), (blocked, ends)] =
      (start someTarget "suite").after [(.fresh, failed)] := (takes _ _ _ _ _ rfl).2 _ _ _ rfl [] [] rfl
  obtain ⟨left, done, -⟩ := @Scene.write_tidy ⟨someTarget, "suite", cases⟩ .fresh someSpan (.inl rfl) rfl
  have written : ((start someTarget "suite").after [(.fresh, failed)]).take .fresh ends =
      (⟨someTarget, "suite", cases⟩, left, .ok ()) := by
    rw [held]
    exact Prod.ext rfl done
  refine ⟨cases, left, described, ?_, again ▸ written, (takes _ _ _ _ _ written).1.writes _ _ _ rfl rfl⟩
  rw [held]
  exact Prod.ext rfl (write_blocked rfl)

theorem sink_folders : FileTree.fresh.makeFolders "/dev" = (.fresh, .ok ()) := by
  have segments : Path.segments "/dev" = ["", "dev"] := by
    rw [Path.segments_exact]
    decide +kernel
  have root : Path.parent? "/" = none := by
    unfold Path.parent?
    rw [Path.segments_exact]
    decide +kernel
  have above : Path.parent? "/dev" = some "/" := by
    unfold Path.parent?
    rw [segments]
    decide +kernel
  have valid : FileTree.checkText "/dev" = .ok () := by
    unfold FileTree.checkText
    rw [String.contains_char_eq]
    rfl
  have exists_ : FileTree.fresh.makeFolder "/dev" = .error .exists := by
    unfold FileTree.makeFolder FileTree.lastStep
    rw [valid, segments]
    rfl
  have stands : FileTree.fresh.isFolder "/dev" = true := by
    unfold FileTree.isFolder FileTree.find Path.steps
    rw [valid, segments]
    rfl
  have size : "/dev".length = 4 := by decide
  have ancestry : FileTree.ancestry ("/dev".length + 1) "/dev" = ["/dev"] := by
    simp [FileTree.ancestry, size, above, root]
  unfold FileTree.makeFolders
  rw [ancestry]
  simp [FileTree.climb, exists_, stands, FileTree.makeAll]

-- A report can succeed and leave nothing to read.
theorem report_swallowed : ∃ left,
    ((start ⟨"/dev/null", "name"⟩ "suite").after [(.fresh, failed)]).take .fresh ends =
      ((start ⟨"/dev/null", "name"⟩ "suite").after [(.fresh, failed)], left, .ok ()) ∧
    left.read? "/dev/null" = none := by
  have segments : Path.segments "/dev/null" = ["", "dev", "null"] := by
    rw [Path.segments_exact]
    decide +kernel
  have above : Path.parent? "/dev/null" = some "/dev" := by
    unfold Path.parent?
    rw [segments]
    decide +kernel
  have valid : FileTree.checkText "/dev/null" = .ok () := by
    unfold FileTree.checkText
    rw [String.contains_char_eq]
    rfl
  have opened : FileTree.fresh.openPlace "/dev/null" = .ok ["dev", "null"] := by
    unfold FileTree.openPlace FileTree.lastStep
    rw [valid, segments]
    rfl
  have stored (text : String) : FileTree.fresh.store ["dev", "null"] text = .ok .fresh := rfl
  have found : FileTree.fresh.find "/dev/null" = .ok (["dev", "null"], .sink) := by
    unfold FileTree.find Path.steps
    rw [valid, segments]
    rfl
  have written (reporter : Reporter) (named : reporter.target.path = "/dev/null") :
      reporter.write .fresh someSpan = (.fresh, .ok ()) := by
    unfold Reporter.write
    simp only [named, above, Option.getD_some, sink_folders, opened, stored]
  refine ⟨.fresh, Prod.ext rfl (written _ (by rw [after_exact]; rfl)), ?_⟩
  unfold FileTree.read?
  rw [found]

end Blocked
end Reporter
end TrialBench
