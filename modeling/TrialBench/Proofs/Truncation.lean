import Mathlib.Data.List.Forall2
import TrialBench.Proofs.Counters
import TrialBench.Proofs.SuiteStates
namespace TrialBench

namespace SuiteEvent

-- The same event, whatever the clock said.
inductive Same : SuiteEvent → SuiteEvent → Prop where
  | same {event : SuiteEvent} : Same event event
  | finished {name : String} {outcome : Outcome} {one other : Span} {stats : Stats} :
      Same (.testFinished name outcome one stats) (.testFinished name outcome other stats)
  | closed {suite : String} {one other : Span} {stats : Stats} :
      Same (.runFinished suite one stats) (.runFinished suite other stats)

def outcome? (event : SuiteEvent) : Option Outcome := event.finish?.map (·.2.1)

-- What was told up to the end of a test and with it. The tests are counted from zero.
def through : Nat → List SuiteEvent → List SuiteEvent
  | _, [] => []
  | test, event :: later =>
    match event.outcome?, test with
    | none, test => event :: through test later
    | some _, 0 => [event]
    | some _, test + 1 => event :: through test later

theorem through_split {test : Nat} {before later : List SuiteEvent} {last : SuiteEvent} {outcome : Outcome}
    (finished : (before.filterMap outcome?).length = test) (ends : last.outcome? = some outcome) :
    through test (before ++ last :: later) = before ++ [last] := by
  induction before generalizing test with
  | nil =>
    subst finished
    simp [through, ends]
  | cons event before ih =>
    rw [List.filterMap_cons] at finished
    cases kind : event.outcome? with
    | none =>
      rw [kind] at finished
      simp only [List.cons_append, through, kind, ih finished]
    | some other =>
      rw [kind] at finished
      subst finished
      simp only [List.cons_append, List.length_cons, through, kind, ih rfl]

end SuiteEvent

-- The stop of a suite by a test that did not pass. It is told only if a test is left.
def Suite.stopping (skipped : List Script) : List SuiteEvent :=
  match skipped with
  | [] => []
  | _ => .runCanceled .testFailure :: skipped.map fun script => .testSkipped script.name .testFailure

theorem Outcome.isSuccess_iff {outcome : Outcome} : outcome.isSuccess = true ↔ outcome = .success := by
  cases outcome <;> simp [isSuccess]

-- Where the first test stands that did not pass.
structure FirstFailure (outcomes : List Outcome) (test : Nat) : Prop where
  failed : ∃ outcome, outcomes[test]? = some outcome ∧ outcome ≠ .success
  passed : ∀ earlier < test, outcomes[earlier]? = some .success

theorem FirstFailure.place {outcomes : List Outcome} {test : Nat} (first : FirstFailure outcomes test) :
    test < outcomes.length := by
  obtain ⟨outcome, at_, -⟩ := first.failed
  exact (List.getElem?_eq_some_iff.mp at_).1

theorem FirstFailure.all {outcomes : List Outcome} {test : Nat} (first : FirstFailure outcomes test) :
    ∀ outcome ∈ outcomes.take test, outcome = .success := by
  intro outcome member
  obtain ⟨earlier, before, rfl⟩ := List.getElem_of_mem member
  rw [List.length_take] at before
  have early : earlier < test := Nat.lt_of_lt_of_le before (Nat.min_le_left _ _)
  have same := first.passed earlier early
  rw [List.getElem?_eq_getElem (Nat.lt_trans early first.place)] at same
  rw [List.getElem_take]
  exact Option.some.inj same

theorem FirstFailure.counts {outcomes : List Outcome} {test : Nat} (first : FirstFailure outcomes test)
    {size skipped : Nat} :
    (Stats.of size (outcomes.take (test + 1)) skipped).passed = test ∧
      (Stats.of size (outcomes.take (test + 1)) skipped).finishedCount = test + 1 := by
  obtain ⟨outcome, at_, failed⟩ := first.failed
  have early : (outcomes.take test).length = test := List.length_take_of_le (Nat.le_of_lt first.place)
  have passed : (outcomes.take test).count .success = (outcomes.take test).length :=
    List.count_eq_length.mpr fun other member => (first.all other member).symm
  have taken : outcomes.take (test + 1) = outcomes.take test ++ [outcome] := by
    rw [List.take_add_one, at_]
    rfl
  constructor
  · simp [Stats.of, taken, passed, early, failed]
  · simp [Stats.of, taken, early]

theorem passes_or_fails (outcomes : List Outcome) :
    (∀ outcome ∈ outcomes, outcome = .success) ∨ ∃ test, FirstFailure outcomes test := by
  induction outcomes with
  | nil => exact .inl fun outcome member => by cases member
  | cons outcome rest ih =>
    by_cases success : outcome = .success
    · subst success
      refine ih.imp ?_ ?_
      · intro passed other member
        rcases List.mem_cons.mp member with rfl | later
        · rfl
        · exact passed other later
      · rintro ⟨test, failed, passed⟩
        refine ⟨test + 1, failed, ?_⟩
        intro earlier before
        cases earlier with
        | zero => rfl
        | succ earlier => exact passed earlier (Nat.lt_of_succ_lt_succ before)
    · refine .inr ⟨0, ⟨outcome, rfl, success⟩, ?_⟩
      intro earlier before
      cases before

-- What a run told and counted that stopped at a test, by what the run told that did not
-- stop.
structure CutAt (scripts : List Script) (plan : SuitePlan) (test : Nat) (ours theirs : List SuiteEvent)
    (stats : Stats) : Prop where
  told : List.Forall₂ SuiteEvent.Same
    (SuiteEvent.through test ours ++ Suite.stopping (scripts.drop (test + 1)) ++
      [.runFinished plan.suite plan.runSpan stats])
    theirs
  passed : stats.passed = test
  finished : stats.finishedCount = test + 1
  notRun : stats.notRun = scripts.length - test - 1

theorem CutAt.of {scripts : List Script} {plan : SuitePlan} {test : Nat} {ours theirs : List SuiteEvent}
    {stats : Stats} {outcomes : List Outcome} (first : FirstFailure outcomes test)
    (told : List.Forall₂ SuiteEvent.Same
      (SuiteEvent.through test ours ++ Suite.stopping (scripts.drop (test + 1))) theirs)
    (counted : stats = .of scripts.length (outcomes.take (test + 1)) (scripts.length - test - 1)) :
    CutAt scripts plan test ours (theirs ++ [.runFinished plan.suite plan.runSpan stats]) stats := by
  refine ⟨List.rel_append told (.cons .same .nil), ?_, ?_, ?_⟩
  · rw [counted]
    exact first.counts.1
  · rw [counted]
    exact first.counts.2
  · rw [counted]
    rfl

-- Two plans that differ in whether a failure stops the run, and in what the clock says.
structure SuitePlan.Hurried (patient eager : SuitePlan) : Prop where
  goesOn : patient.failFast = false
  stops : eager.failFast = true
  suite : eager.suite = patient.suite
  timeout : eager.timeout = patient.timeout
  watched : eager.watched = patient.watched

theorem SuitePlan.reasonAfter_patient {plan : SuitePlan} {reason : Option CancelReason} {outcome : Outcome}
    (patient : plan.failFast = false) : plan.reasonAfter reason outcome = reason := by
  simp [reasonAfter, patient]

theorem SuitePlan.reasonAfter_success {plan : SuitePlan} {reason : Option CancelReason} :
    plan.reasonAfter reason .success = reason := by simp [reasonAfter, Outcome.isSuccess]

theorem SuitePlan.reasonAfter_stops {plan : SuitePlan} {outcome : Outcome} (eager : plan.failFast = true)
    (failed : outcome ≠ .success) : plan.reasonAfter none outcome = some .testFailure := by
  simp [reasonAfter, eager, mt Outcome.isSuccess_iff.mp failed]

-- A host does the same under both plans, because they measure the same times or because
-- it does not look at them.
structure Host.Untimed {σ : Type} (host : Host σ) (patient eager : SuitePlan) : Prop where
  finished : ∀ name outcome count stats, host.hear (.testFinished name outcome (eager.testSpan count) stats) =
    host.hear (.testFinished name outcome (patient.testSpan count) stats)
  closed : ∀ suite stats, host.hear (.runFinished suite eager.runSpan stats) =
    host.hear (.runFinished suite patient.runSpan stats)

namespace SuiteState
variable {σ : Type} {host : Host σ} {calm : σ → Prop} {patient eager plan : SuitePlan} {s t u : SuiteState σ}
  {event event' : SuiteEvent} {script : Script} {index : Nat} {reason : CancelReason} {outcome : Outcome}
  {left more : List Script}

def outcomes (s : SuiteState σ) : List Outcome := s.told.filterMap SuiteEvent.outcome?

theorem attempted_told : ∃ span stats, (s.attempted plan host script index).2.told =
    (s.told ++ [.testStarted script.name index]) ++
      [.testFinished script.name (s.attempted plan host script index).1 span stats] := ⟨_, _, rfl⟩

theorem attempted_outcomes :
    (s.attempted plan host script index).2.outcomes = s.outcomes ++ [(s.attempted plan host script index).1] := by
  obtain ⟨span, stats, told⟩ := @attempted_told σ host plan s script index
  unfold outcomes
  rw [told, List.filterMap_append, List.filterMap_append]
  simp [SuiteEvent.outcome?, SuiteEvent.finish?]

-- A run that goes on adds one outcome a test, and counts it.
structure Grows (s t : SuiteState σ) (count : Nat) : Prop where
  told : s.told <+: t.told
  ran : t.outcomes.length = s.outcomes.length + count
  tally : ∀ size, s.stats = .of size s.outcomes 0 → t.stats = .of size t.outcomes 0

theorem Grows.refl : s.Grows s 0 := ⟨List.prefix_rfl, rfl, fun _ tally => tally⟩

theorem Grows.trans {first second : Nat} (one : s.Grows t first) (two : t.Grows u second) :
    s.Grows u (first + second) := by
  refine ⟨one.told.trans two.told, ?_, fun size tally => two.tally size (one.tally size tally)⟩
  rw [two.ran, one.ran, Nat.add_assoc]

theorem Grows.outcomes {count : Nat} (grows : s.Grows t count) : s.outcomes <+: t.outcomes :=
  grows.told.filterMap SuiteEvent.outcome?

theorem attempted_grows : s.Grows (s.attempted plan host script index).2 1 := by
  refine ⟨?_, ?_, ?_⟩
  · obtain ⟨span, stats, told⟩ := @attempted_told σ host plan s script index
    rw [told, List.append_assoc]
    exact List.prefix_append _ _
  · rw [attempted_outcomes, List.length_append, List.length_singleton]
  · intro size tally
    have counted : (s.attempted plan host script index).2.stats =
        s.stats.finish (s.attempted plan host script index).1 := rfl
    rw [counted, tally, attempted_outcomes, Stats.of_finish]

theorem considered_reason :
    (s.considered plan host outcome).reason = plan.reasonAfter s.reason outcome := by
  unfold considered
  dsimp only
  split
  · rfl
  · split <;> rfl

theorem considered_goes (goes : plan.reasonAfter s.reason outcome = none) (going : s.reason = none) :
    s.considered plan host outcome = s := by
  unfold considered
  simp only [goes]
  rw [← going]

theorem visited_held (held : s.reason = some reason) :
    s.visited plan host script index = s.skipped host reason script := by
  unfold visited
  rw [held]

theorem visited_going (going : s.reason = none) : s.visited plan host script index =
    (s.attempted plan host script index).2.considered plan host (s.attempted plan host script index).1 := by
  unfold visited
  rw [going]

theorem considered_stops (stops : plan.reasonAfter s.reason outcome = some reason) :
    s.considered plan host outcome =
      if s.stats.hasRemaining then { s with reason := some reason }.canceled plan host reason
      else { s with reason := some reason } := by
  unfold considered
  simp only [stops]

-- Once there is a reason to stop, all that is left is skipped for it.
theorem visitedAll_held (held : s.reason = some reason) :
    (s.visitedAll plan host index left).reason = some reason ∧
      (s.visitedAll plan host index left).told = s.told ++ left.map (fun script => .testSkipped script.name reason) ∧
      ∀ size outcomes skipped, s.stats = .of size outcomes skipped →
        (s.visitedAll plan host index left).stats = .of size outcomes (skipped + left.length) := by
  induction left generalizing s index with
  | nil => exact ⟨held, (List.append_nil _).symm, fun size outcomes skipped same => same⟩
  | cons script left ih =>
    have skips : (s.visited plan host script index).reason = some reason := by
      rw [visited_held held]
      exact held
    obtain ⟨still, told, stats⟩ := @ih _ (index + 1) skips
    refine ⟨still, ?_, ?_⟩
    · rw [visitedAll, told, visited_held held]
      simp [SuiteState.skipped, hear]
    · intro size outcomes skipped same
      have next : (s.visited plan host script index).stats = .of size outcomes (skipped + 1) := by
        rw [visited_held held]
        exact (congrArg Stats.skip same).trans Stats.of_skip
      rw [visitedAll, stats size outcomes (skipped + 1) next, List.length_cons, Nat.add_right_comm, Nat.add_assoc]

theorem visitedAll_append : s.visitedAll plan host index (left ++ more) =
    (s.visitedAll plan host index left).visitedAll plan host (index + left.length) more := by
  induction left generalizing s index with
  | nil => rfl
  | cons script left ih =>
    rw [List.cons_append, visitedAll, visitedAll, ih, List.length_cons, Nat.add_right_comm, Nat.add_assoc]

theorem visitedAll_going (went : (s.visitedAll plan host index left).reason = none) : s.reason = none := by
  cases held : s.reason with
  | none => rfl
  | some reason => cases went.symm.trans (visitedAll_held held).1

-- A run that does not stop at failures runs its next test and nothing else, unless a
-- shutdown event came.
theorem visited_patient (goesOn : plan.failFast = false)
    (went : (s.visited plan host script index).reason = none) :
    s.reason = none ∧ s.visited plan host script index = (s.attempted plan host script index).2 := by
  have going : s.reason = none := by
    cases held : s.reason with
    | none => rfl
    | some reason =>
      rw [visited_held held] at went
      cases went.symm.trans held
  refine ⟨going, ?_⟩
  rw [visited_going going, considered_reason] at went
  rw [visited_going going]
  exact considered_goes went ((SuitePlan.reasonAfter_patient goesOn).symm.trans went)

theorem visitedAll_grows (goesOn : plan.failFast = false)
    (went : (s.visitedAll plan host index left).reason = none) :
    s.Grows (s.visitedAll plan host index left) left.length := by
  induction left generalizing s index with
  | nil => exact .refl
  | cons script left ih =>
    obtain ⟨-, first⟩ := visited_patient goesOn (visitedAll_going went)
    have rest := ih went
    rw [first] at rest
    rw [visitedAll, first, List.length_cons, Nat.add_comm left.length]
    exact attempted_grows.trans rest

-- Two states in which the same has happened.
structure Like (s t : SuiteState σ) : Prop where
  world : t.world = s.world
  host : t.host = s.host
  stats : t.stats = s.stats
  reason : t.reason = s.reason
  told : List.Forall₂ SuiteEvent.Same s.told t.told

theorem Like.hear (like : s.Like t) (same : event.Same event') (untimed : host.hear event' = host.hear event) :
    (s.hear host event).Like (t.hear host event') := by
  refine ⟨?_, ?_, like.stats, like.reason, List.rel_append like.told (.cons same .nil)⟩
  · simp only [SuiteState.hear, untimed, like.world, like.host]
  · simp only [SuiteState.hear, untimed, like.world, like.host]

theorem Like.introduced (differ : patient.Hurried eager) (like : s.Like t) :
    (s.introduced patient index).Like (t.introduced eager index) := by
  refine { like with world := ?_ }
  simp only [SuiteState.introduced, like.world, differ.timeout, differ.suite]

theorem Like.ran {finished : Run.Finished} (like : s.Like t) : (s.ran finished).Like (t.ran finished) := by
  refine { like with world := rfl, reason := ?_ }
  simp only [SuiteState.ran, like.reason]

theorem Like.counted {closed : World × Outcome} (like : s.Like t) : (s.counted closed).Like (t.counted closed) := by
  refine { like with world := rfl, stats := ?_ }
  simp only [SuiteState.counted, like.stats]

theorem Like.concluded (differ : patient.Hurried eager) (times : host.Untimed patient eager) {result : RunResult}
    (like : s.Like t) :
    (t.concluded eager host script index result).1 = (s.concluded patient host script index result).1 ∧
      (s.concluded patient host script index result).2.Like (t.concluded eager host script index result).2 := by
  unfold SuiteState.concluded
  rw [like.world, differ.suite]
  let closed := Closing.finish patient.suite index s.world (.returned result)
  have counted : (s.counted closed).Like (t.counted closed) := like.counted
  refine ⟨rfl, counted.hear ?_ ?_⟩
  · rw [counted.stats]
    exact .finished
  · rw [counted.stats]
    exact times.finished _ _ _ _

theorem Like.attempted (differ : patient.Hurried eager) (times : host.Untimed patient eager) (like : s.Like t) :
    (t.attempted eager host script index).1 = (s.attempted patient host script index).1 ∧
      (s.attempted patient host script index).2.Like (t.attempted eager host script index).2 := by
  have begun : ((s.introduced patient index).hear host (.testStarted script.name index)).Like
      ((t.introduced eager index).hear host (.testStarted script.name index)) := (like.introduced differ).hear .same rfl
  have finished : ((t.introduced eager index).hear host (.testStarted script.name index)).invoked eager script index =
      ((s.introduced patient index).hear host (.testStarted script.name index)).invoked patient script index := by
    simp only [invoked, begun.world, differ.watched]
  simp only [SuiteState.attempted, finished]
  exact begun.ran.concluded differ times

-- As long as the tests pass, both runs do the same.
theorem Like.visitedAll (differ : patient.Hurried eager) (times : host.Untimed patient eager) (like : s.Like t)
    (went : (s.visitedAll patient host index left).reason = none)
    (passed : ∀ outcome ∈ (s.visitedAll patient host index left).outcomes, outcome = .success) :
    (s.visitedAll patient host index left).Like (t.visitedAll eager host index left) := by
  induction left generalizing s t index with
  | nil => exact like
  | cons script left ih =>
    obtain ⟨going, first⟩ := visited_patient differ.goesOn (visitedAll_going went)
    rw [SuiteState.visitedAll, first] at went passed ⊢
    have unmoved := visitedAll_going went
    obtain ⟨same, after⟩ := @Like.attempted σ host patient eager s t script index differ times like
    have success : (s.attempted patient host script index).1 = .success := by
      apply passed
      apply (visitedAll_grows differ.goesOn went).outcomes.subset
      simp [attempted_outcomes]
    have alike : t.visited eager host script index = (t.attempted eager host script index).2 := by
      rw [visited_going (like.reason.trans going), same, success]
      have idle := after.reason.trans unmoved
      exact considered_goes (SuitePlan.reasonAfter_success.trans idle) idle
    rw [SuiteState.visitedAll, alike]
    exact ih after went passed

-- A failure is told as the reason to stop if a test is left, and all that is left is
-- skipped for it.
theorem considered_eager {size : Nat} {outcomes : List Outcome} (stops : plan.failFast = true)
    (going : s.reason = none) (failed : outcome ≠ .success) (tally : s.stats = .of size outcomes 0)
    (whole : size = outcomes.length + left.length) :
    ((s.considered plan host outcome).visitedAll plan host index left).told = s.told ++ Suite.stopping left ∧
      ((s.considered plan host outcome).visitedAll plan host index left).stats = .of size outcomes left.length := by
  have after : plan.reasonAfter s.reason outcome = some .testFailure := by
    rw [going]
    exact SuitePlan.reasonAfter_stops stops failed
  have more : s.stats.hasRemaining = true ↔ 0 < left.length := by
    rw [tally, Stats.of_hasRemaining, whole]
    omega
  cases left with
  | nil =>
    rw [considered_stops after, if_neg (by simp [more])]
    exact ⟨(List.append_nil _).symm, tally⟩
  | cons script left =>
    rw [considered_stops after, if_pos (by simp [more])]
    obtain ⟨-, told, stats⟩ := @visitedAll_held σ host plan
      ({ s with reason := some .testFailure }.canceled plan host .testFailure) index .testFailure (script :: left) rfl
    refine ⟨?_, ?_⟩
    · rw [told]
      simp [Suite.stopping, canceled, hear]
    · rw [stats size outcomes 0 tally, Nat.zero_add]

-- The first test that does not pass stops the second run.
theorem Like.stopped (differ : patient.Hurried eager) (times : host.Untimed patient eager) (like : s.Like t)
    (going : s.reason = none) (went : (s.attempted patient host script index).2.reason = none)
    (failed : (s.attempted patient host script index).1 ≠ .success)
    (tally : s.stats = .of (s.outcomes.length + 1 + left.length) s.outcomes 0) :
    List.Forall₂ SuiteEvent.Same ((s.attempted patient host script index).2.told ++ Suite.stopping left)
        (t.visitedAll eager host index (script :: left)).told ∧
      (t.visitedAll eager host index (script :: left)).stats =
        .of (s.outcomes.length + 1 + left.length) (s.attempted patient host script index).2.outcomes left.length := by
  obtain ⟨same, after⟩ := @Like.attempted σ host patient eager s t script index differ times like
  have grows := @attempted_grows σ host patient s script index
  have counted := after.stats.trans (grows.tally _ tally)
  have whole : s.outcomes.length + 1 + left.length =
      (s.attempted patient host script index).2.outcomes.length + left.length := by rw [grows.ran]
  obtain ⟨told, stats⟩ := @considered_eager σ host eager _ (index + 1) (t.attempted eager host script index).1 left _ _
    differ.stops (after.reason.trans went) (same ▸ failed) counted whole
  rw [SuiteState.visitedAll, visited_going (like.reason.trans going), told, stats]
  exact ⟨List.rel_append after.told (List.forall₂_same.mpr fun event member => .same), rfl⟩

theorem ran_through {told : List SuiteEvent}
    (begins : (s.attempted plan host script index).2.told <+: told) :
    SuiteEvent.through s.outcomes.length told = (s.attempted plan host script index).2.told := by
  obtain ⟨later, rfl⟩ := begins
  obtain ⟨span, stats, same⟩ := @attempted_told σ host plan s script index
  rw [same, List.append_assoc _ [_] later]
  apply @SuiteEvent.through_split _ _ _ _ (s.attempted plan host script index).1
  · rw [List.filterMap_append]
    simp [outcomes, SuiteEvent.outcome?, SuiteEvent.finish?]
  · rfl

-- A run that goes on, seen from where one of its tests begins and where the end of that
-- test was told.
structure Passes (plan : SuitePlan) (host : Host σ) (script : Script) (index : Nat) (s early t : SuiteState σ)
    (left : Nat) : Prop where
  going : early.reason = none
  before : s.Grows early index
  unmoved : (early.attempted plan host script index).2.reason = none
  after : (early.attempted plan host script index).2.Grows t left

theorem Passes.count {left : Nat} (passes : Passes plan host script index s t u left) (unheard : s.outcomes = []) :
    t.outcomes.length = index := by
  rw [passes.before.ran, unheard, List.length_nil, Nat.zero_add]

theorem Passes.outcomes {left : Nat} (passes : Passes plan host script index s t u left) (unheard : s.outcomes = []) :
    u.outcomes.take index = t.outcomes ∧ u.outcomes[index]? = some (t.attempted plan host script index).1 ∧
      u.outcomes.take (index + 1) = (t.attempted plan host script index).2.outcomes := by
  obtain ⟨later, whole⟩ := passes.after.outcomes
  obtain rfl := passes.count unheard
  rw [attempted_outcomes] at whole ⊢
  rw [← whole]
  refine ⟨?_, ?_, ?_⟩
  · rw [List.append_assoc, List.take_left]
  · rw [List.getElem?_append_left (by simp), List.getElem?_concat_length]
  · exact List.take_left' (by simp)

theorem visitedAll_split : s.visitedAll plan host 0 (left ++ script :: more) =
    ((s.visitedAll plan host 0 left).visited plan host script left.length).visitedAll plan host (left.length + 1)
      more := by
  rw [visitedAll_append, Nat.zero_add]
  rfl

theorem visitedAll_passes (goesOn : plan.failFast = false)
    (went : (s.visitedAll plan host 0 (left ++ script :: more)).reason = none) :
    Passes plan host script left.length s (s.visitedAll plan host 0 left)
      (s.visitedAll plan host 0 (left ++ script :: more)) more.length := by
  rw [visitedAll_split] at went ⊢
  obtain ⟨going, step⟩ := visited_patient goesOn (visitedAll_going went)
  rw [step] at went ⊢
  exact ⟨going, visitedAll_grows goesOn going, visitedAll_going went, visitedAll_grows goesOn went⟩

theorem Like.cut (differ : patient.Hurried eager) (times : host.Untimed patient eager) (like : s.Like t)
    (unheard : s.outcomes = []) (tally : s.stats = .of (left ++ script :: more).length [] 0)
    (passes : Passes patient host script left.length s (s.visitedAll patient host 0 left) u more.length)
    (first : FirstFailure u.outcomes left.length) :
    List.Forall₂ SuiteEvent.Same
        (((s.visitedAll patient host 0 left).attempted patient host script left.length).2.told ++ Suite.stopping more)
        (t.visitedAll eager host 0 (left ++ script :: more)).told ∧
      (t.visitedAll eager host 0 (left ++ script :: more)).stats =
        .of (left ++ script :: more).length (u.outcomes.take (left.length + 1)) more.length := by
  obtain ⟨early, at_, taken⟩ := passes.outcomes unheard
  have whole : (left ++ script :: more).length =
      (s.visitedAll patient host 0 left).outcomes.length + 1 + more.length := by
    rw [passes.count unheard, List.length_append, List.length_cons]
    omega
  have reached : (s.visitedAll patient host 0 left).Like (t.visitedAll eager host 0 left) := by
    apply like.visitedAll differ times passes.going
    rw [← early]
    exact first.all
  have failed : ((s.visitedAll patient host 0 left).attempted patient host script left.length).1 ≠ .success := by
    obtain ⟨outcome, there, failed⟩ := first.failed
    cases at_.symm.trans there
    exact failed
  rw [visitedAll_append, Nat.zero_add, whole, taken]
  apply reached.stopped differ times passes.going passes.unmoved failed
  rw [← whole]
  exact passes.before.tally _ (by rw [unheard]; exact tally)

theorem Like.truncated (differ : patient.Hurried eager) (times : host.Untimed patient eager) (like : s.Like t)
    (went : (s.visitedAll patient host 0 left).reason = none) (unheard : s.outcomes = [])
    (tally : s.stats = .of left.length [] 0) {test : Nat}
    (first : FirstFailure (s.visitedAll patient host 0 left).outcomes test) {told : List SuiteEvent}
    (begins : (s.visitedAll patient host 0 left).told <+: told) :
    List.Forall₂ SuiteEvent.Same (SuiteEvent.through test told ++ Suite.stopping (left.drop (test + 1)))
        (t.visitedAll eager host 0 left).told ∧
      (t.visitedAll eager host 0 left).stats =
        .of left.length ((s.visitedAll patient host 0 left).outcomes.take (test + 1)) (left.length - test - 1) := by
  have ran := (visitedAll_grows differ.goesOn went).ran
  rw [unheard, List.length_nil, Nat.zero_add] at ran
  obtain ⟨passing, script, rest, rfl, rfl⟩ : ∃ passing script rest, left = passing ++ script :: rest ∧
      passing.length = test := by
    have place : test < left.length := ran ▸ first.place
    refine ⟨left.take test, left[test], left.drop (test + 1), ?_, List.length_take_of_le (Nat.le_of_lt place)⟩
    rw [← List.drop_eq_getElem_cons place, List.take_append_drop]
  have passes := visitedAll_passes differ.goesOn went
  have before := ran_through (passes.after.told.trans begins)
  rw [passes.count unheard] at before
  have skipped : (passing ++ script :: rest).drop (passing.length + 1) = rest := by
    rw [← List.drop_drop, List.drop_left]
    rfl
  have remaining : (passing ++ script :: rest).length - passing.length - 1 = rest.length := by
    rw [List.length_append, List.length_cons]
    omega
  rw [before, skipped, remaining]
  exact like.cut differ times unheard tally passes first

theorem closed_outcomes : (s.closed plan host).outcomes = s.outcomes := by
  simp [closed, hear, outcomes, SuiteEvent.outcome?, SuiteEvent.finish?]

theorem Like.closed (differ : patient.Hurried eager) (times : host.Untimed patient eager) (like : s.Like t) :
    (s.closed patient host).Like (t.closed eager host) := by
  have logged : SuiteState.Like { s with world := s.world.log (Suite.finishedEvent patient.suite s.stats) }
      { t with world := t.world.log (Suite.finishedEvent eager.suite t.stats) } := by
    refine { like with world := ?_ }
    simp only [like.world, like.stats, differ.suite]
  apply logged.hear
  · rw [like.stats, differ.suite]
    exact .closed
  · rw [like.stats, differ.suite]
    exact times.closed _ _

theorem execute_truncates {bench : Bench} {heard : σ} (differ : patient.Hurried eager)
    (unfailing : host.Unfailing calm) (times : host.Untimed patient eager) (kept : calm heard)
    (distinct : bench.names.Nodup) (undisturbed : (Suite.execute patient host bench heard).1.reason = none) :
    ∃ ours theirs stats stats', Suite.execute patient host bench heard = (ours, .finished stats) ∧
      Suite.execute eager host bench heard = (theirs, .finished stats') ∧
      ours.outcomes.length = bench.scripts.length ∧
      (((∀ outcome ∈ ours.outcomes, outcome = .success) ∧ ours.Like theirs ∧ stats' = stats) ∨
        ∃ test, FirstFailure ours.outcomes test ∧ CutAt bench.scripts eager test ours.told theirs.told stats') := by
  have usable := Names.check_ok.mpr distinct
  have first : Suite.execute patient host bench heard = _ := execute_exact unfailing kept usable
  have second : Suite.execute eager host bench heard = _ := execute_exact unfailing kept usable
  let opened := (Suite.opening bench heard).hear host (.runStarted patient.suite bench.scripts.length)
  let opened' := (Suite.opening bench heard).hear host (.runStarted eager.suite bench.scripts.length)
  have like : opened.Like opened' := by
    have start : (Suite.opening bench heard).Like (Suite.opening bench heard) := ⟨rfl, rfl, rfl, rfl, .nil⟩
    simp only [opened, opened', differ.suite]
    exact start.hear .same rfl
  have went : (opened.visitedAll patient host 0 bench.scripts).reason = none := by
    rwa [first] at undisturbed
  have outcomes : ((opened.visitedAll patient host 0 bench.scripts).closed patient host).outcomes =
      (opened.visitedAll patient host 0 bench.scripts).outcomes := closed_outcomes
  refine ⟨_, _, _, _, first, second, ?_, ?_⟩
  · exact outcomes ▸ (visitedAll_grows differ.goesOn went).ran.trans (Nat.zero_add _)
  · rcases passes_or_fails (opened.visitedAll patient host 0 bench.scripts).outcomes with passed | ⟨test, failed⟩
    · have same := like.visitedAll differ times went passed
      exact .inl ⟨outcomes ▸ passed, same.closed differ times, same.stats⟩
    · obtain ⟨told, stats⟩ := like.truncated differ times went rfl rfl failed (List.prefix_append _ [_])
      exact .inr ⟨test, outcomes ▸ failed, .of failed told stats⟩

end SuiteState
end TrialBench
