import TrialBench.Proofs.Counters
import TrialBench.Proofs.ReportText
import TrialBench.Proofs.StoredFiles
namespace TrialBench

-- How a test was reported, in the words of a report.
def SuiteEvent.Reports (told : List SuiteEvent) (name : String) : Report.Status → Prop
  | .success => ∃ span stats, .testFinished name .success span stats ∈ told
  | .failure => ∃ span stats, .testFinished name .fail span stats ∈ told
  | .error => ∃ outcome, (outcome = .notStarted ∨ outcome = .running) ∧
      ∃ span stats, .testFinished name outcome span stats ∈ told
  | .skipped => ∃ reason, .testSkipped name reason ∈ told

namespace Reporter
variable {start reporter next : Reporter} {files found left written : FileTree} {event : SuiteEvent}
  {told : List SuiteEvent} {suite : String} {span : Span} {stats : Stats}

-- A reporter that was given these events one by one and returned no error, with the files as
-- it left them. It may find any files each time, since others write too.
inductive Fed (start : Reporter) : List SuiteEvent → Reporter → FileTree → Prop where
  | fresh {files : FileTree} : Fed start [] start files
  | takes {told : List SuiteEvent} {reporter next : Reporter} {files found left : FileTree} {event : SuiteEvent}
      (fed : Fed start told reporter files) (taken : reporter.take found event = (next, left, .ok ())) :
      Fed start (told ++ [event]) next left

theorem take_collects : (reporter.take files event).1 = reporter.collect event := by
  cases event with
  | runFinished suite span stats => simp [take, collect, Report.caseOf?]
  | _ => rfl

theorem collect_all : told.foldl collect reporter =
    { reporter with cases := reporter.cases ++ told.filterMap Report.caseOf? } := by
  induction told generalizing reporter with
  | nil => simp
  | cons event told ih =>
    rw [List.foldl_cons, ih, collect, List.filterMap_cons]
    cases told_ : Report.caseOf? event <;> simp

theorem Fed.collected (fed : Fed start told reporter files) :
    reporter = { start with cases := start.cases ++ told.filterMap Report.caseOf? } := by
  rw [← collect_all]
  induction fed with
  | fresh => rfl
  | @takes told reporter next files found left event fed taken ih =>
    rw [List.foldl_concat, ← ih, ← @take_collects reporter found event, taken]

-- The report of a reporter, as it was written to its path.
def Wrote (reporter : Reporter) (files written : FileTree) (span : Span) : Prop :=
  ∃ made place, files.makeFolders ((Path.parent? reporter.target.path).getD "") = (made, .ok ()) ∧
    made.openPlace reporter.target.path = .ok place ∧
    made.store place (Report.render (reporter.document span)) = .ok written

theorem write_wrote (done : reporter.write files span = (written, .ok ())) : reporter.Wrote files written span := by
  unfold write at done
  dsimp only at done
  split at done
  · cases done
  · rename_i made folders
    split at done
    · cases done
    · rename_i place opened
      split at done
      · cases done
      · rename_i stored
        cases done
        exact ⟨made, place, folders, opened, stored⟩

theorem Fed.wrote (fed : Fed start told reporter left) (last : told.getLast? = some (.runFinished suite span stats)) :
    ∃ found, reporter.Wrote found left span := by
  cases fed with
  | fresh => cases last
  | @takes told before next files found left event fed taken =>
    rw [List.getLast?_concat] at last
    cases last
    obtain ⟨rfl, done⟩ : before = reporter ∧ before.write found span = (left, .ok ()) := by
      simpa only [take, Prod.mk.injEq] using taken
    exact ⟨found, write_wrote done⟩

-- The report of these cases stands at its path, unless the path leads to a device that keeps
-- nothing. Whoever reads it finds one suite with these cases.
def Leaves (reporter : Reporter) (span : Span) (files : FileTree) : Prop :=
  Report.Holds (Report.render (reporter.document span)) (reporter.document span) ∧
    ∃ place, files.find reporter.target.path = .ok (place, .sink) ∨
      files.find reporter.target.path = .ok (place, .file (.text (Report.render (reporter.document span))))

theorem Wrote.leaves (wrote : reporter.Wrote found left span) : reporter.Leaves span left := by
  obtain ⟨made, place, -, opened, stored⟩ := wrote
  exact ⟨Report.render_holds, place, FileTree.store_find opened stored⟩

end Reporter

-- From its calm states such a host passes each event on to the reporter that it holds, unless
-- it returns an error. It keeps the files as the reporter left them.
def Host.Feeds {σ : Type} (host : Host σ) (calm : σ → Prop) (holds : σ → Reporter → FileTree → Prop) : Prop :=
  ∀ event w heard reporter files, calm heard → holds heard reporter files → (host.hear event w heard).2.2 = none →
    ∃ found next left, reporter.take found event = (next, left, .ok ()) ∧
      holds (host.hear event w heard).2.1 next left

def HookHost.Holds (state : HookHost) (reporter : Reporter) (files : FileTree) : Prop :=
  state.reporter = some reporter ∧ state.files = files

theorem HookHost.host_feeds {hooks : List Hook} : (host hooks).Feeds (fun _ => True) HookHost.Holds := by
  rintro event w state reporter files - ⟨held, -⟩ silent
  unfold host at silent ⊢
  dsimp only at silent ⊢
  cases stopped : (follow w (deeds hooks state.heard)).2 with
  | some error =>
    rw [stopped] at silent
    cases silent
  | none =>
    rw [stopped] at silent
    simp only [pass, held] at silent ⊢
    refine ⟨state.files, (reporter.take state.files event).1, (reporter.take state.files event).2.1, ?_, rfl, rfl⟩
    cases taken : (reporter.take state.files event).2.2 with
    | error reason =>
      rw [taken] at silent
      cases silent
    | ok done => exact Prod.ext rfl (Prod.ext rfl taken)

namespace Bench
variable {plan : SuitePlan} {bench : Bench} {outcomes : List Outcome} {reason : CancelReason} {index : Nat}

-- What a report says of the test at an index that was run, and of a test that was not.
def caseAt (bench : Bench) (plan : SuitePlan) (outcomes : List Outcome) (index : Nat) : Report.Case :=
  let outcome := outcomes[index]?.getD .notStarted
  ⟨(bench.scripts[index]?.map (·.name)).getD "", Report.statusOf outcome,
    "test finished with outcome " ++ outcome.label, some (plan.testSpan (index + 1))⟩

def omitted (reason : CancelReason) (script : Script) : Report.Case :=
  ⟨script.name, .skipped, "not run: suite canceled due to " ++ reason.text, none⟩

def cases (bench : Bench) (plan : SuitePlan) (outcomes : List Outcome) (reason : CancelReason) : List Report.Case :=
  (List.range outcomes.length).map (bench.caseAt plan outcomes) ++
    (bench.scripts.drop outcomes.length).map (omitted reason)

theorem score_cases (within : outcomes.length ≤ bench.scripts.length) :
    Beat.parts Report.caseOf? (bench.score plan outcomes reason) = bench.cases plan outcomes reason := by
  have ran : Beat.parts Report.caseOf? (bench.rounds plan outcomes) =
      (List.range outcomes.length).map (bench.caseAt plan outcomes) := by
    apply rounds_each rfl
    intro index early
    unfold round caseAt
    rw [List.getElem?_eq_getElem early, List.getElem?_eq_getElem (Nat.lt_of_lt_of_le early within)]
    rfl
  have skipped : (bench.scripts.drop outcomes.length).filterMap
      (fun script => Report.caseOf? (.testSkipped script.name reason)) =
        (bench.scripts.drop outcomes.length).map (omitted reason) := congrFun List.filterMap_eq_map _
  rw [score_parts rfl, ran, skipped]
  exact List.append_nil _

theorem cases_ran (early : index < outcomes.length) :
    (bench.cases plan outcomes reason)[index]? = some (bench.caseAt plan outcomes index) := by
  rw [cases, List.getElem?_append_left (by simpa using early), List.getElem?_map, List.getElem?_range early]
  rfl

theorem cases_omitted (late : outcomes.length ≤ index) :
    (bench.cases plan outcomes reason)[index]? = bench.scripts[index]?.map (omitted reason) := by
  rw [cases, List.getElem?_append_right (by simpa using late), List.getElem?_map, List.getElem?_drop, List.length_map,
    List.length_range, Nat.add_sub_cancel' late]

theorem cases_names (within : outcomes.length ≤ bench.scripts.length) :
    (bench.cases plan outcomes reason).map (·.name) = bench.scripts.map (·.name) := by
  apply List.ext_getElem?
  intro index
  rw [List.getElem?_map, List.getElem?_map]
  rcases Nat.lt_or_ge index outcomes.length with early | late
  · rw [cases_ran early, List.getElem?_eq_getElem (Nat.lt_of_lt_of_le early within)]
    simp [caseAt, Nat.lt_of_lt_of_le early within]
  · rw [cases_omitted late, Option.map_map]
    rfl

-- The status of a test by its outcome. A test that was not run has none.
def statusAt (outcomes : List Outcome) (index : Nat) : Report.Status :=
  (outcomes[index]?.map Report.statusOf).getD .skipped

theorem cases_statusAt {entry : Report.Case} (there : (bench.cases plan outcomes reason)[index]? = some entry) :
    entry.status = statusAt outcomes index := by
  rcases Nat.lt_or_ge index outcomes.length with early | late
  · rw [cases_ran early] at there
    cases there
    simp [caseAt, statusAt, early]
  · rw [cases_omitted late] at there
    obtain ⟨script, -, rfl⟩ := Option.map_eq_some_iff.mp there
    simp [omitted, statusAt, late]

theorem cases_statuses : (bench.cases plan outcomes reason).map (·.status) =
    outcomes.map Report.statusOf ++ List.replicate (bench.scripts.drop outcomes.length).length .skipped := by
  have ran : (List.range outcomes.length).map (fun index => (bench.caseAt plan outcomes index).status) =
      outcomes.map Report.statusOf := by
    have listed := congrArg (List.map Report.statusOf) (@outcomes_listed outcomes)
    rwa [List.map_map] at listed
  have skipped : (bench.scripts.drop outcomes.length).map (fun script => (omitted reason script).status) =
      List.replicate (bench.scripts.drop outcomes.length).length .skipped := List.map_const'
  rw [cases, List.map_append, List.map_map, List.map_map, ← skipped, ← ran]
  rfl

-- The two ways to tell outcomes apart agree: what is counted as a pass, a failure or neither
-- is a case of that kind.
theorem cases_counts : Report.count .success (bench.cases plan outcomes reason) = outcomes.count .success ∧
    Report.count .failure (bench.cases plan outcomes reason) = outcomes.count .fail ∧
    Report.count .error (bench.cases plan outcomes reason) = outcomes.countP (fun outcome => !outcome.isTerminal) ∧
    Report.count .skipped (bench.cases plan outcomes reason) = (bench.scripts.drop outcomes.length).length := by
  have counted (status : Report.Status) : Report.count status (bench.cases plan outcomes reason) =
      outcomes.countP (fun outcome => Report.statusOf outcome = status) +
        (List.replicate (bench.scripts.drop outcomes.length).length Report.Status.skipped).countP (· = status) := by
    have whole := congrArg (List.countP fun found => decide (found = status))
      (@cases_statuses plan bench outcomes reason)
    rw [List.countP_map, List.countP_append, List.countP_map] at whole
    exact whole
  have verdicts {status : Report.Status} (apart : .skipped ≠ status) {kind : Outcome → Bool}
      (agree : ∀ outcome, decide (Report.statusOf outcome = status) = kind outcome) :
      Report.count status (bench.cases plan outcomes reason) = outcomes.countP kind := by
    rw [counted, List.countP_replicate, if_neg (by simpa using apart), Nat.add_zero]
    exact congrArg (List.countP · outcomes) (funext agree)
  have run (outcome : Outcome) : Report.statusOf outcome ≠ .skipped := by cases outcome <;> decide
  refine ⟨?_, ?_, ?_, ?_⟩
  · exact verdicts (by decide) fun outcome => by cases outcome <;> rfl
  · exact verdicts (by decide) fun outcome => by cases outcome <;> rfl
  · exact verdicts (by decide) fun outcome => by cases outcome <;> rfl
  · have none_ : outcomes.countP (fun outcome => decide (Report.statusOf outcome = .skipped)) = 0 :=
      List.countP_eq_zero.mpr fun outcome _ => by simp [run]
    rw [counted, List.countP_replicate, if_pos (by decide), none_, Nat.zero_add]

end Bench

namespace Scene
variable {plan : SuitePlan} {scripts : List Script} {c : Scene} {moments : List Moment} {bench : Bench}
  {outcomes : List Outcome} {reason : CancelReason} {index : Nat} {site : Site}

theorem Closed.skip_at (closed : Closed bench plan c outcomes) (distinct : (bench.scripts.map (·.name)).Nodup)
    (place : index < bench.scripts.length) :
    (∃ reason, .testSkipped bench.scripts[index].name reason ∈ c.told) ↔ outcomes.length ≤ index := by
  rw [skip_named, closed.skipped, List.mem_map]
  constructor
  · rintro ⟨script, member, same⟩
    obtain ⟨steps, there⟩ := List.mem_iff_getElem?.mp member
    rw [List.getElem?_drop] at there
    rw [← name_place distinct place there same]
    exact Nat.le_add_right ..
  · intro late
    refine ⟨bench.scripts[index], List.mem_iff_getElem?.mpr ⟨index - outcomes.length, ?_⟩, rfl⟩
    rw [List.getElem?_drop, Nat.add_sub_cancel' late, List.getElem?_eq_getElem place]

-- Each case stands for one test, in the order of the suite, and says what was told of it.
structure Covers (scripts : List Script) (told : List SuiteEvent) (cases : List Report.Case) : Prop where
  names : cases.map (·.name) = scripts.map (·.name)
  statuses : ∀ (index : Nat) (script : Script) (entry : Report.Case) (status : Report.Status),
    scripts[index]? = some script → cases[index]? = some entry →
    (entry.status = status ↔ SuiteEvent.Reports told script.name status)

-- What is told of a test has the same words as its outcome.
theorem Closed.reports_at (closed : Closed bench plan c outcomes) (distinct : (bench.scripts.map (·.name)).Nodup)
    (place : index < bench.scripts.length) {status : Report.Status} :
    SuiteEvent.Reports c.told bench.scripts[index].name status ↔ Bench.statusAt outcomes index = status := by
  have finished {outcome : Outcome} := @Closed.finish_at _ _ _ _ _ closed distinct place outcome
  have skipped := (closed.skip_at distinct place).trans List.getElem?_eq_none_iff.symm
  unfold Bench.statusAt
  generalize outcomes[index]? = found at finished skipped ⊢
  cases status with
  | success | failure =>
    apply finished.trans
    rcases found with _ | _ | _ | _ | _ <;> simp [Report.statusOf]
  | error =>
    simp only [SuiteEvent.Reports, finished]
    rcases found with _ | _ | _ | _ | _ <;> simp [Report.statusOf]
  | skipped =>
    apply skipped.trans
    rcases found with _ | _ | _ | _ | _ <;> simp [Report.statusOf]

theorem Closed.covers (closed : Closed bench plan c outcomes) (distinct : (bench.scripts.map (·.name)).Nodup) :
    Covers bench.scripts c.told (bench.cases plan outcomes reason) := by
  refine ⟨Bench.cases_names closed.finished.1, ?_⟩
  intro index script entry status at_ there
  obtain ⟨place, rfl⟩ := List.getElem?_eq_some_iff.mp at_
  rw [closed.reports_at distinct place, Bench.cases_statusAt there]

-- The numbers of a list of cases are those of the stats.
structure Tallies (cases : List Report.Case) (stats : Stats) : Prop where
  tests : cases.length = stats.initialRunCount
  passed : Report.count .success cases = stats.passed
  failed : Report.count .failure cases = stats.failed
  unexpected : Report.count .error cases = stats.unexpected
  notRun : Report.count .skipped cases = stats.notRun

theorem Closed.tallies (closed : Closed bench plan c outcomes) :
    Tallies (bench.cases plan outcomes reason) c.stats := by
  have whole : (bench.cases plan outcomes reason).length = bench.scripts.length := by
    have names := congrArg List.length (@Bench.cases_names plan bench outcomes reason closed.finished.1)
    rwa [List.length_map, List.length_map] at names
  obtain ⟨passed, failed, unexpected, notRun⟩ := @Bench.cases_counts plan bench outcomes reason
  rw [closed.stats]
  exact ⟨whole, passed, failed, unexpected, notRun⟩

-- A suite in the text of a report matches what was told of a run and its stats.
structure Matches (listed : Report.Element) (scripts : List Script) (suite : String) (told : List SuiteEvent)
    (stats : Stats) : Prop where
  tag : listed.name = "testsuite"
  named : listed.Says "name" suite
  whole : listed.inner.length = scripts.length
  cases : ∀ (index : Nat) (script : Script) (entry : Report.Element), scripts[index]? = some script →
    listed.inner[index]? = some entry → entry.name = "testcase" ∧ entry.Says "name" script.name ∧
      entry.Says "classname" suite ∧
        ∀ status, entry.status? = some status ↔ SuiteEvent.Reports told script.name status
  tests : listed.property? "tests" = some (toString stats.initialRunCount)
  disabled : listed.property? "disabled" = some (toString stats.notRun)
  errors : listed.property? "errors" = some (toString stats.unexpected)
  failures : listed.property? "failures" = some (toString stats.failed)
  passed : listed.inner.countP (·.status? = some .success) = stats.passed

theorem Covers.matches {document : Report.Document} {listed : Report.Element} {told : List SuiteEvent} {stats : Stats}
    (covers : Covers scripts told document.cases) (tallies : Tallies document.cases stats)
    (lists : listed.Lists document) : Matches listed scripts document.suite told stats := by
  have names : document.cases.length = scripts.length := by
    simpa using congrArg List.length covers.names
  refine ⟨lists.tag, lists.named, lists.cases.length_eq.trans names, ?_, ?_, ?_, ?_, ?_, ?_⟩
  · intro index script entry at_ there
    obtain ⟨early, rfl⟩ := List.getElem?_eq_some_iff.mp there
    have within : index < document.cases.length := lists.cases.length_eq ▸ early
    have shows := lists.cases.get early within
    have name : document.cases[index].name = script.name := by
      have same := congrArg (·[index]?) covers.names
      simpa [at_, within] using same
    refine ⟨shows.tag, name ▸ shows.named, shows.classed, fun status => ?_⟩
    exact shows.is.trans (covers.statuses index script _ status at_ (List.getElem?_eq_getElem within))
  · rw [lists.tests, tallies.tests]
  · rw [lists.disabled, tallies.notRun]
  · rw [lists.errors, tallies.unexpected]
  · rw [lists.failures, tallies.failed]
  · rw [Report.Element.count_shown lists.cases, tallies.passed]

-- The report of a suite run that is over. It was written last and is left at its path. It has
-- one case for each test, and its counts are those of the stats, in its text too.
structure Reported (scripts : List Script) (plan : SuitePlan) (suite : String) (told : List SuiteEvent) (stats : Stats)
    (reporter : Reporter) (left : FileTree) : Prop where
  written : ∃ found, reporter.Wrote found left plan.runSpan
  leaves : reporter.Leaves plan.runSpan left
  named : reporter.suite = suite
  covers : Covers scripts told reporter.cases
  tallies : Tallies reporter.cases stats
  text : ∃ run listed, Report.Element.ofText? (Report.render (reporter.document plan.runSpan)) = some [run] ∧
    run.inner = [listed] ∧ Matches listed scripts suite told stats

variable {target : ReportTarget} {suite : String} {reporter : Reporter} {left : FileTree}

theorem Path.reports (path : Path plan scripts (opening site scripts) moments c) (idle : ∀ test, site.Idle test)
    (ended : c.stage = .ended) (distinct : (scripts.map (·.name)).Nodup)
    (fed : Reporter.Fed (.start target suite) c.told reporter left) :
    Reported scripts plan suite c.told c.stats reporter left := by
  obtain ⟨outcomes, reason, closed, parts⟩ := path.scored idle ended
  obtain ⟨found, wrote⟩ := fed.wrote closed.last
  obtain rfl : reporter = ⟨target, suite, Bench.cases ⟨scripts, site.world⟩ plan outcomes reason⟩ := by
    rw [fed.collected, parts, Bench.score_cases closed.finished.1]
    rfl
  have leaves := wrote.leaves
  obtain ⟨run, listed, read, -, -, inner, lists⟩ := leaves.1
  exact ⟨⟨found, wrote⟩, leaves, rfl, closed.covers distinct, closed.tallies, run, listed, read, inner,
    Covers.matches (closed.covers distinct) closed.tallies lists⟩

-- A host that feeds a reporter is kept in step with it by a suite run, as long as it
-- returns no error.
theorem feeds_keeps {σ : Type} {host : Host σ} {calm : σ → Prop} {holds : σ → Reporter → FileTree → Prop}
    {fresh : Reporter} (acting : host.Acting calm) (feeds : host.Feeds calm holds) :
    host.Keeps fun told heard => calm heard.1 ∧
      ((∀ answer ∈ heard.2, answer = none) →
        ∃ reporter left, holds heard.1 reporter left ∧ Reporter.Fed fresh told reporter left) := by
  refine ⟨?_, ?_⟩
  · rintro told event w ⟨heard, noted⟩ ⟨kept, fed⟩
    refine ⟨acting.stays event w heard kept, fun silent => ?_⟩
    obtain ⟨earlier, now⟩ := List.forall_mem_append.mp silent
    obtain ⟨reporter, files, held, fed⟩ := fed earlier
    obtain ⟨found, next, left, taken, holds⟩ :=
      feeds event w heard reporter files kept held (now _ (List.mem_singleton_self _))
    exact ⟨next, left, holds, fed.takes taken⟩
  · rintro told event w ⟨heard, noted⟩ ⟨kept, -⟩
    exact acting.acts event w heard kept

-- A report agrees with the stats of its suite run, however the threads of the run act and
-- wherever it stops. The program either comes to such a report or is stopped by its host.
theorem report_agrees (idle : ∀ test, site.Idle test) (distinct : Names.check (scripts.map (·.name)) = .ok ()) :
    (∀ moments c target suite reporter left, Path plan scripts (opening site scripts) moments c → c.stage = .ended →
      Reporter.Fed (.start target suite) c.told reporter left →
        Reported scripts plan suite c.told c.stats reporter left) ∧
    ∀ (σ : Type) (host : Host σ) (calm : σ → Prop) (holds : σ → Reporter → FileTree → Prop) (heard : σ)
      (target : ReportTarget) (suite : String) (files : FileTree), host.Acting calm → host.Feeds calm holds →
      calm heard → holds heard (.start target suite) files → scripts.length ≤ site.world.tests.length →
      ∃ s, (∃ stats reporter left, Suite.execute plan host ⟨scripts, site.world⟩ heard = (s, .finished stats) ∧
          holds s.host reporter left ∧ Reported scripts plan suite s.told stats reporter left) ∨
        ∃ error, Suite.execute plan host ⟨scripts, site.world⟩ heard = (s, .stopped error) ∧
          ∃ event w heard, calm heard ∧ (host.hear event w heard).2.2 = some error := by
  have apart := Names.check_ok.mp distinct
  constructor
  · intro moments c target suite reporter left path ended fed
    exact path.reports idle ended apart fed
  · intro σ host calm holds heard target suite files acting feeds kept held known
    have leads : Leads plan scripts host _ _ _ _ _ _ := execute_leads (feeds_keeps acting feeds) idle known
      ⟨kept, fun _ => ⟨.start target suite, files, held, .fresh⟩⟩
    unfold Suite.execute Bench.names
    simp only [distinct]
    generalize Suite.runAll plan host scripts _ = strict at leads ⊢
    generalize Suite.runAll plan host.lenient scripts _ = lenient at leads
    cases leads with
    | goes path kept stands silent =>
      obtain ⟨ended, rfl⟩ := stands
      obtain ⟨reporter, left, held, fed⟩ := kept.2 silent
      exact ⟨_, .inl ⟨_, reporter, left, rfl, held, path.reports idle ended apart fed⟩⟩
    | stops _ _ _ _ _ _ _ refuses =>
      obtain ⟨told, event, w, before, calm, answer⟩ := refuses
      exact ⟨_, .inr ⟨_, rfl, event, w, before.1, calm.1, answer⟩⟩

def someTarget : ReportTarget := ⟨"report.xml", "name"⟩

-- The files that a harness starts with, before a report was written and after.
def Tidy (files : FileTree) : Prop :=
  files = .fresh ∨ ∃ text, files = FileTree.fresh.put ["work", "report.xml"] (.file (.text text))

theorem report_segments : Path.segments "report.xml" = ["report.xml"] := by
  rw [Path.segments_exact]
  decide +kernel

theorem report_folder : Path.parent? "report.xml" = some "" := by
  unfold Path.parent?
  rw [report_segments]
  rfl

-- The empty path has no folders to make.
theorem makeFolders_here {files : FileTree} : files.makeFolders "" = (files, .ok ()) := by
  have above : Path.parent? "" = none := by
    unfold Path.parent?
    rw [Path.segments_exact]
    decide +kernel
  simp [FileTree.makeFolders, FileTree.ancestry, FileTree.climb, FileTree.makeAll, above]

theorem report_lastStep {files : FileTree} (here : files.here = ["work"]) (stands : files.isFolderAt ["work"] = true) :
    files.lastStep "report.xml" = .ok (some (["work"], "report.xml")) := by
  have plain : FileTree.checkText "report.xml" = .ok () := by
    unfold FileTree.checkText
    rw [String.contains_char_eq]
    rfl
  have origin : files.origin "report.xml" = ["work"] := by
    unfold FileTree.origin
    rw [here]
    rfl
  have walked : files.walk ["work"] [] = .ok ["work"] := rfl
  unfold FileTree.lastStep
  rw [plain, report_segments, origin]
  simp [walked, stands, bind, Except.bind]

theorem write_tidy {files : FileTree} {span : Span} (tidy : Tidy files) (named : reporter.target = someTarget) :
    ∃ written, reporter.write files span = (written, .ok ()) ∧ Tidy written := by
  have opened : files.openPlace "report.xml" = .ok ["work", "report.xml"] := by
    unfold FileTree.openPlace
    rcases tidy with rfl | ⟨text, rfl⟩ <;> rw [report_lastStep rfl rfl] <;> rfl
  have stored (text : String) : files.store ["work", "report.xml"] text =
      .ok (FileTree.fresh.put ["work", "report.xml"] (.file (.text text))) := by
    rcases tidy with rfl | ⟨text, rfl⟩ <;> rfl
  unfold Reporter.write
  simp only [named, someTarget, report_folder, Option.getD_some, makeFolders_here, opened, stored]
  exact ⟨_, rfl, .inr ⟨_, rfl⟩⟩

def Reporting (state : HookHost) : Prop :=
  Tidy state.files ∧ ∃ reporter, state.reporter = some reporter ∧ reporter.target = someTarget

theorem reporting_pass {state : HookHost} {event : SuiteEvent} (reporting : Reporting state) :
    (state.pass event).2 = none ∧ Reporting (state.pass event).1 := by
  obtain ⟨tidy, reporter, held, named⟩ := reporting
  unfold HookHost.pass
  rw [held]
  cases event with
  | runFinished suite span stats =>
    obtain ⟨written, done, tidy⟩ := @write_tidy reporter state.files span tidy named
    dsimp only [Reporter.take]
    rw [done]
    exact ⟨rfl, tidy, reporter, rfl, named⟩
  | _ => exact ⟨rfl, tidy, _, rfl, named⟩

theorem reporting_hear {state : HookHost} {event : SuiteEvent} {w : World} (reporting : Reporting state) :
    ((HookHost.host []).hear event w state).2.2 = none ∧ Reporting ((HookHost.host []).hear event w state).2.1 :=
  @reporting_pass { state with heard := state.heard + 1 } event reporting

-- A report of one failure and one skipped test.
theorem report_agrees_broken :
    ∃ s stats reporter, Suite.execute (brokenPlan true) (HookHost.host []) ⟨brokenScripts, brokenSite.world⟩
        ⟨0, some (.start someTarget "suite"), .fresh⟩ = (s, .finished stats) ∧ s.host.reporter = some reporter ∧
      Reported brokenScripts (brokenPlan true) "suite" s.told stats reporter s.host.files := by
  obtain ⟨-, runs⟩ := @report_agrees (brokenPlan true) brokenScripts brokenSite broken_idle rfl
  have acting : (HookHost.host []).Acting Reporting :=
    ⟨fun _ _ _ reporting => (reporting_hear reporting).2,
      fun event w state _ => HookHost.host_acting.acts event w state trivial⟩
  have feeds : (HookHost.host []).Feeds Reporting HookHost.Holds :=
    fun event w state reporter files _ => HookHost.host_feeds event w state reporter files trivial
  obtain ⟨s, ⟨stats, reporter, left, ended, ⟨held, rfl⟩, reported⟩ | ⟨error, -, event, w, heard, reporting, answer⟩⟩ :=
    runs _ _ _ _ ⟨0, some (.start someTarget "suite"), .fresh⟩ someTarget "suite" .fresh acting feeds
      ⟨.inl rfl, _, rfl, rfl⟩ ⟨rfl, rfl⟩ (Nat.le_refl 2)
  · exact ⟨s, stats, reporter, ended, held, reported⟩
  · cases (reporting_hear reporting).1.symm.trans answer

end Scene
end TrialBench
