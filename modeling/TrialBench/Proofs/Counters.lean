import TrialBench.Proofs.EventGrammar
import TrialBench.Proofs.RepeatedNames
namespace TrialBench

namespace SuiteEvent

def finish? : SuiteEvent → Option (String × Outcome × Stats)
  | .testFinished name outcome _ stats => some (name, outcome, stats)
  | _ => none

def skip? : SuiteEvent → Option String
  | .testSkipped name _ => some name
  | _ => none

def close? : SuiteEvent → Option Stats
  | .runFinished _ _ stats => some stats
  | _ => none

end SuiteEvent

namespace Stats
variable {size skipped : Nat} {outcomes : List Outcome}

theorem of_parts : (of size outcomes skipped).passed + (of size outcomes skipped).failed +
    (of size outcomes skipped).unexpected = (of size outcomes skipped).finishedCount := by
  simp only [of]
  induction outcomes with
  | nil => rfl
  | cons outcome rest ih =>
    rw [List.count_cons, List.count_cons, List.countP_cons, List.length_cons, ← ih]
    cases outcome <;> simp [Outcome.isTerminal] <;> omega

-- A suite has passed when all of its tests were run and passed.
theorem of_isSuccess (within : outcomes.length ≤ size) : (of size outcomes skipped).isSuccess = true ↔
    outcomes.length = size ∧ ∀ outcome ∈ outcomes, outcome = .success := by
  have most := @List.count_le_length Outcome _ .success outcomes
  simp only [isSuccess, of, beq_iff_eq]
  constructor
  · intro all
    have full : outcomes.count .success = outcomes.length := by omega
    refine ⟨by omega, fun outcome member => ?_⟩
    exact (List.count_eq_length.mp full outcome member).symm
  · rintro ⟨whole, passed⟩
    have full := List.count_eq_length.mpr fun outcome member => (passed outcome member).symm
    omega

end Stats

-- Events of one kind among the beats, and what they say.
def Beat.parts {α : Type} (kind : SuiteEvent → Option α) (beats : List Beat) : List α :=
  beats.filterMap fun beat => beat.told?.bind kind

theorem Beat.parts_told {α : Type} {kind : SuiteEvent → Option α} {beats : List Beat} :
    (beats.filterMap told?).filterMap kind = parts kind beats := List.filterMap_filterMap

namespace Bench
variable {α : Type} {plan : SuitePlan} {bench : Bench} {outcomes : List Outcome} {reason : CancelReason}
  {kind : SuiteEvent → Option α}

theorem parts_append {first second : List Beat} :
    Beat.parts kind (first ++ second) = Beat.parts kind first ++ Beat.parts kind second := List.filterMap_append

theorem parts_silent {event : SuiteEvent} {beats : List Beat} (silent : kind event = none) :
    Beat.parts kind (.told event :: beats) = Beat.parts kind beats := List.filterMap_cons_none silent

theorem skipping_parts (silent : kind (.runCanceled reason) = none) {skipped : List Script} :
    Beat.parts kind (skipping plan reason skipped) =
      skipped.filterMap fun script => kind (.testSkipped script.name reason) := by
  have written (beats : List Beat) (line : LogEvent) : Beat.parts kind (.wrote line :: beats) = Beat.parts kind beats :=
    List.filterMap_cons_none rfl
  rw [skipping, written, parts_silent silent, Beat.parts, List.filterMap_map]
  rfl

theorem rounds_parts (silent : kind (.runStarted plan.suite bench.scripts.length) = none) :
    Beat.parts kind (bench.rounds plan outcomes) =
      (List.range outcomes.length).flatMap fun index => Beat.parts kind (bench.round plan outcomes index) := by
  rw [rounds, parts_silent silent]
  exact List.filterMap_flatMap

-- A kind of events of which there is one for each test that was run.
theorem rounds_each {entry : Nat → α} (silent : kind (.runStarted plan.suite bench.scripts.length) = none)
    (round : ∀ index < outcomes.length, Beat.parts kind (bench.round plan outcomes index) = [entry index]) :
    Beat.parts kind (bench.rounds plan outcomes) = (List.range outcomes.length).map entry := by
  rw [rounds_parts silent, List.flatMap_congr fun index member => round index (List.mem_range.mp member),
    ← List.map_eq_flatMap]

theorem score_parts (silent : kind (.runCanceled reason) = none) :
    Beat.parts kind (bench.score plan outcomes reason) = Beat.parts kind (bench.rounds plan outcomes)
      ++ (bench.scripts.drop outcomes.length).filterMap (fun script => kind (.testSkipped script.name reason))
      ++ (kind (.runFinished plan.suite plan.runSpan
        (.of bench.scripts.length outcomes (bench.scripts.drop outcomes.length).length))).toList := by
  have stop : Beat.parts kind (if outcomes.length < bench.scripts.length then
      skipping plan reason (bench.scripts.drop outcomes.length) else []) =
      (bench.scripts.drop outcomes.length).filterMap fun script => kind (.testSkipped script.name reason) := by
    split
    · exact skipping_parts silent
    · rename_i late
      rw [List.drop_eq_nil_of_le (Nat.le_of_not_lt late)]
      rfl
  have close (event : SuiteEvent) : Beat.parts kind [.told event] = (kind event).toList := by
    cases spoken : kind event <;> simp [Beat.parts, Beat.told?, spoken]
  rw [score, parts_append, parts_append, stop, close]

-- What is told when the test at an index has come to its end.
def finish (bench : Bench) (outcomes : List Outcome) (index : Nat) : String × Outcome × Stats :=
  ((bench.scripts[index]?.map (·.name)).getD "", outcomes[index]?.getD .notStarted,
    .of bench.scripts.length (outcomes.take (index + 1)) 0)

theorem finish_at {index : Nat} (place : index < bench.scripts.length) (early : index < outcomes.length) :
    bench.finish outcomes index =
      (bench.scripts[index].name, outcomes[index], .of bench.scripts.length (outcomes.take (index + 1)) 0) := by
  unfold finish
  rw [List.getElem?_eq_getElem place, List.getElem?_eq_getElem early]
  rfl

theorem rounds_finish (within : outcomes.length ≤ bench.scripts.length) :
    Beat.parts SuiteEvent.finish? (bench.rounds plan outcomes) =
      (List.range outcomes.length).map (bench.finish outcomes) := by
  apply rounds_each rfl
  intro index early
  unfold round finish
  rw [List.getElem?_eq_getElem early, List.getElem?_eq_getElem (Nat.lt_of_lt_of_le early within)]
  rfl

-- Nothing is skipped while tests are run, and the run is not over.
theorem rounds_silent (starts : ∀ suite size, kind (.runStarted suite size) = none)
    (begins : ∀ name index, kind (.testStarted name index) = none)
    (ends : ∀ name outcome span stats, kind (.testFinished name outcome span stats) = none) :
    Beat.parts kind (bench.rounds plan outcomes) = [] := by
  rw [rounds_parts (starts _ _), List.flatMap_eq_nil_iff]
  intro index member
  unfold round
  split
  · simp [Beat.parts, Beat.told?, begins, ends]
  · rfl

theorem finish_skipped {skipped : List Script} :
    skipped.filterMap (fun script => SuiteEvent.finish? (.testSkipped script.name reason)) = [] :=
  List.filterMap_eq_nil_iff.mpr fun _ _ => rfl

theorem score_finish (within : outcomes.length ≤ bench.scripts.length) :
    Beat.parts SuiteEvent.finish? (bench.score plan outcomes reason) =
      (List.range outcomes.length).map (bench.finish outcomes) := by
  rw [score_parts rfl, rounds_finish within, finish_skipped, List.append_nil]
  exact List.append_nil _

theorem score_skip : Beat.parts SuiteEvent.skip? (bench.score plan outcomes reason) =
    (bench.scripts.drop outcomes.length).map (·.name) := by
  rw [score_parts rfl, rounds_silent (fun _ _ => rfl) (fun _ _ => rfl) fun _ _ _ _ => rfl, List.nil_append]
  exact (List.append_nil _).trans (congrFun List.filterMap_eq_map _)

theorem score_close : Beat.parts SuiteEvent.close? (bench.score plan outcomes reason) =
    [.of bench.scripts.length outcomes (bench.scripts.drop outcomes.length).length] := by
  have none_ : (bench.scripts.drop outcomes.length).filterMap
      (fun script => SuiteEvent.close? (.testSkipped script.name reason)) = [] :=
    List.filterMap_eq_nil_iff.mpr fun _ _ => rfl
  rw [score_parts rfl, rounds_silent (fun _ _ => rfl) (fun _ _ => rfl) fun _ _ _ _ => rfl, none_]
  rfl

theorem outcomes_listed :
    (List.range outcomes.length).map (fun index => outcomes[index]?.getD .notStarted) = outcomes := by
  apply List.ext_getElem
  · rw [List.length_map, List.length_range]
  · intro index _ early
    rw [List.getElem_map, List.getElem_range, List.getElem?_eq_getElem early]
    rfl

theorem finish_outcomes : ((List.range outcomes.length).map (bench.finish outcomes)).map (·.2.1) = outcomes := by
  rw [List.map_map]
  exact outcomes_listed

end Bench

namespace Scene
variable {plan : SuitePlan} {scripts : List Script} {c : Scene} {moments : List Moment} {seen more : List Beat}
  {bench : Bench} {outcomes : List Outcome} {index : Nat} {left : List Script} {stats : Stats} {site : Site}

-- What was told of finished tests follows from their outcomes alone.
def Finished (bench : Bench) (told : List SuiteEvent) (outcomes : List Outcome) : Prop :=
  outcomes.length ≤ bench.scripts.length ∧
    told.filterMap SuiteEvent.finish? = (List.range outcomes.length).map (bench.finish outcomes)

theorem Played.finished (played : Played bench plan index left more seen stats outcomes)
    (within : index ≤ bench.scripts.length)
    (silent : Beat.parts SuiteEvent.finish? more = []) :
    Finished bench (seen.filterMap Beat.told?) outcomes := by
  have early : outcomes.length ≤ bench.scripts.length := by rwa [played.count]
  refine ⟨early, ?_⟩
  rw [Beat.parts_told, played.seen, Bench.parts_append, silent, List.append_nil]
  exact Bench.rounds_finish early

theorem Finished.skipping {skipped : List Script} {reason : CancelReason}
    (within : outcomes.length ≤ bench.scripts.length)
    (told : seen = bench.rounds plan outcomes ++ Bench.skipping plan reason skipped) :
    Finished bench (seen.filterMap Beat.told?) outcomes := by
  refine ⟨within, ?_⟩
  rw [Beat.parts_told, told, Bench.parts_append, Bench.skipping_parts rfl, Bench.finish_skipped,
    Bench.rounds_finish within, List.append_nil]

theorem Finished.score {reason : CancelReason} (within : outcomes.length ≤ bench.scripts.length)
    (told : seen = bench.score plan outcomes reason) : Finished bench (seen.filterMap Beat.told?) outcomes := by
  refine ⟨within, ?_⟩
  rw [Beat.parts_told, told]
  exact Bench.score_finish within

theorem Seen.finished {stage : Stage} (seen_ : Seen bench plan seen c stage) :
    ∃ outcomes, Finished bench (seen.filterMap Beat.told?) outcomes := by
  cases seen_ with
  | opening unseen =>
    refine ⟨[], Nat.zero_le _, ?_⟩
    rw [unseen]
    rfl
  | going played within => exact ⟨_, played.finished within rfl⟩
  | stopped held some_ early rest told => exact ⟨_, .skipping (Nat.le_of_lt early) told⟩
  | introducing played | starting played | pending _ _ played | invoked _ _ played | closing played =>
    exact ⟨_, played.finished (Nat.le_of_lt (Bench.at_drop played.rest).2.2) rfl⟩
  | considering played within => exact ⟨_, played.finished within rfl⟩
  | ended within some_ held told => exact ⟨_, .score within told⟩

theorem Path.finished (path : Path plan scripts (opening site scripts) moments c) (idle : ∀ test, site.Idle test) :
    ∃ outcomes, Finished ⟨scripts, site.world⟩ c.told outcomes := by
  obtain ⟨seen, chronicle⟩ := path.chronicle
  have finished := (chronicle.shows idle).finished
  rwa [chronicle.events rfl] at finished

-- What the stats say that are told of a finished test, by what was reported so far.
structure Counted (size index : Nat) (reported : List Outcome) (stats : Stats) : Prop where
  size : stats.initialRunCount = size
  finished : stats.finishedCount = index + 1
  notRun : stats.notRun = 0
  passed : stats.passed = reported.count .success
  failed : stats.failed = reported.count .fail
  unexpected : stats.unexpected = reported.countP fun outcome => outcome ≠ .success ∧ outcome ≠ .fail

theorem unexpected_exact : (fun outcome : Outcome => !outcome.isTerminal) =
    fun outcome => decide (outcome ≠ .success ∧ outcome ≠ .fail) := by
  funext outcome
  cases outcome <;> rfl

theorem Finished.counted {told : List SuiteEvent} {name : String} {outcome : Outcome}
    (finished : Finished bench told outcomes)
    (at_ : (told.filterMap SuiteEvent.finish?)[index]? = some (name, outcome, stats)) :
    Counted bench.scripts.length index (((told.filterMap SuiteEvent.finish?).map (·.2.1)).take (index + 1)) stats := by
  obtain ⟨within, whole⟩ := finished
  rw [whole, Bench.finish_outcomes]
  rw [whole, List.getElem?_map] at at_
  obtain ⟨place, found, same⟩ := Option.map_eq_some_iff.mp at_
  have early : index < outcomes.length := by simpa using (List.getElem?_eq_some_iff.mp found).1
  rw [List.getElem?_range early] at found
  cases found
  cases same
  refine ⟨rfl, ?_, rfl, rfl, rfl, ?_⟩
  · exact List.length_take_of_le early
  · rw [← unexpected_exact]
    rfl

-- The events of finished and skipped tests, and the last one, as they are told of a suite
-- run that is over.
structure Closed (bench : Bench) (plan : SuitePlan) (c : Scene) (outcomes : List Outcome) : Prop where
  finished : Finished bench c.told outcomes
  skipped : c.told.filterMap SuiteEvent.skip? = (bench.scripts.drop outcomes.length).map (·.name)
  closed : c.told.filterMap SuiteEvent.close? = [c.stats]
  last : c.told.getLast? = some (.runFinished plan.suite plan.runSpan c.stats)
  stats : c.stats = .of bench.scripts.length outcomes (bench.scripts.drop outcomes.length).length

-- What was told of a suite run that is over, and what is counted of it, by the outcomes of
-- the tests that were run.
theorem Path.scored (path : Path plan scripts (opening site scripts) moments c) (idle : ∀ test, site.Idle test)
    (halted : c.stage = .ended) : ∃ outcomes reason, Closed ⟨scripts, site.world⟩ plan c outcomes ∧
      ∀ (α : Type) (kind : SuiteEvent → Option α),
        c.told.filterMap kind = Beat.parts kind (Bench.score ⟨scripts, site.world⟩ plan outcomes reason) := by
  obtain ⟨seen, chronicle⟩ := path.chronicle
  obtain ⟨outcomes, reason, within, -, -, told, stats⟩ := chronicle.scored idle halted
  have events := chronicle.events rfl
  have parts (α : Type) (kind : SuiteEvent → Option α) :
      c.told.filterMap kind = Beat.parts kind (Bench.score ⟨scripts, site.world⟩ plan outcomes reason) := by
    rw [← events, Beat.parts_told, told]
  refine ⟨outcomes, reason, ⟨events ▸ .score within told, ?_, ?_, ?_, stats⟩, parts⟩
  · rw [parts]
    exact Bench.score_skip
  · rw [parts, stats]
    exact Bench.score_close
  · rw [← events, told, stats, Bench.score, List.filterMap_append]
    exact List.getLast?_concat

theorem Path.closed (path : Path plan scripts (opening site scripts) moments c) (idle : ∀ test, site.Idle test)
    (halted : c.stage = .ended) : ∃ outcomes, Closed ⟨scripts, site.world⟩ plan c outcomes := by
  obtain ⟨outcomes, reason, closed, -⟩ := path.scored idle halted
  exact ⟨outcomes, closed⟩

theorem finish_member {told : List SuiteEvent} {name : String} {outcome : Outcome} :
    (∃ span stats, .testFinished name outcome span stats ∈ told) ↔
      ∃ stats, (name, outcome, stats) ∈ told.filterMap SuiteEvent.finish? := by
  constructor
  · rintro ⟨span, stats, member⟩
    exact ⟨stats, List.mem_filterMap.mpr ⟨_, member, rfl⟩⟩
  · rintro ⟨stats, member⟩
    obtain ⟨event, there, same⟩ := List.mem_filterMap.mp member
    cases event with
    | testFinished other verdict span counted =>
      cases same
      exact ⟨span, _, there⟩
    | _ => cases same

theorem skip_named {told : List SuiteEvent} {name : String} :
    (∃ reason, .testSkipped name reason ∈ told) ↔ name ∈ told.filterMap SuiteEvent.skip? := by
  rw [List.mem_filterMap]
  constructor
  · rintro ⟨reason, member⟩
    exact ⟨_, member, rfl⟩
  · rintro ⟨event, member, same⟩
    cases event with
    | testSkipped other reason =>
      cases same
      exact ⟨reason, member⟩
    | _ => cases same

theorem skip_member {told : List SuiteEvent} :
    (∀ name reason, .testSkipped name reason ∉ told) ↔ told.filterMap SuiteEvent.skip? = [] := by
  rw [List.eq_nil_iff_forall_not_mem]
  simp only [← skip_named, not_exists]

theorem name_place {other : Nat} {script : Script} (distinct : (scripts.map (·.name)).Nodup)
    (place : index < scripts.length) (there : scripts[other]? = some script)
    (same : script.name = scripts[index].name) :
    other = index := by
  have known : other < (scripts.map (·.name)).length := by
    rw [List.length_map]
    exact (List.getElem?_eq_some_iff.mp there).1
  apply (List.getElem?_inj known distinct).mp
  rw [List.getElem?_map, List.getElem?_map, there, List.getElem?_eq_getElem place]
  exact congrArg some same

-- With distinct names the events tell which test they are about.
theorem Closed.finish_at (closed : Closed bench plan c outcomes) (distinct : (bench.scripts.map (·.name)).Nodup)
    (place : index < bench.scripts.length) {outcome : Outcome} :
    (∃ span stats, .testFinished bench.scripts[index].name outcome span stats ∈ c.told) ↔
      outcomes[index]? = some outcome := by
  obtain ⟨within, finished⟩ := closed.finished
  rw [finish_member, finished]
  constructor
  · rintro ⟨stats, told⟩
    obtain ⟨other, range, same⟩ := List.mem_map.mp told
    have early := List.mem_range.mp range
    have there : other < bench.scripts.length := Nat.lt_of_lt_of_le early within
    rw [Bench.finish_at there early] at same
    obtain ⟨name, ended, -⟩ : _ ∧ _ ∧ _ := by simpa only [Prod.mk.injEq] using same
    obtain rfl : other = index := name_place distinct place (List.getElem?_eq_getElem there) name
    rw [List.getElem?_eq_getElem early, ended]
  · intro there
    obtain ⟨early, ended⟩ := List.getElem?_eq_some_iff.mp there
    exact ⟨_, List.mem_map.mpr ⟨index, List.mem_range.mpr early, by rw [Bench.finish_at place early, ended]⟩⟩

theorem Closed.passed (closed : Closed bench plan c outcomes) (distinct : (bench.scripts.map (·.name)).Nodup) :
    c.stats.isSuccess = true ↔
      (∀ script ∈ bench.scripts, ∃ span stats, .testFinished script.name .success span stats ∈ c.told) ∧
        ∀ name reason, .testSkipped name reason ∉ c.told := by
  have within := closed.finished.1
  rw [closed.stats, Stats.of_isSuccess within, skip_member, closed.skipped]
  constructor
  · rintro ⟨whole, passed⟩
    refine ⟨fun script member => ?_, ?_⟩
    · obtain ⟨index, place, rfl⟩ := List.getElem_of_mem member
      have early : index < outcomes.length := by rwa [whole]
      apply (closed.finish_at distinct place).mpr
      rw [List.getElem?_eq_getElem early, passed _ (List.getElem_mem early)]
    · rw [whole, List.drop_length]
      rfl
  · rintro ⟨reported, none_left⟩
    have late := List.drop_eq_nil_iff.mp (List.map_eq_nil_iff.mp none_left)
    refine ⟨Nat.le_antisymm within late, fun outcome member => ?_⟩
    obtain ⟨index, early, rfl⟩ := List.getElem_of_mem member
    have place : index < bench.scripts.length := Nat.lt_of_lt_of_le early within
    have told := (closed.finish_at distinct place).mp (reported _ (List.getElem_mem place))
    rw [List.getElem?_eq_getElem early] at told
    exact Option.some.inj told

-- What the stats say that are told last and returned.
structure Total (bench : Bench) (plan : SuitePlan) (c : Scene) : Prop where
  last : c.told.getLast? = some (.runFinished plan.suite plan.runSpan c.stats)
  once : c.told.filterMap SuiteEvent.close? = [c.stats]
  size : c.stats.initialRunCount = bench.scripts.length
  whole : c.stats.finishedCount + c.stats.notRun = c.stats.initialRunCount
  parts : c.stats.passed + c.stats.failed + c.stats.unexpected = c.stats.finishedCount
  notRun : c.stats.notRun = (c.told.filterMap SuiteEvent.skip?).length
  success : c.stats.isSuccess = true ↔
    (∀ script ∈ bench.scripts, ∃ span stats, .testFinished script.name .success span stats ∈ c.told) ∧
      ∀ name reason, .testSkipped name reason ∉ c.told

theorem Closed.total (closed : Closed bench plan c outcomes) (distinct : (bench.scripts.map (·.name)).Nodup) :
    Total bench plan c := by
  have passed := closed.passed distinct
  obtain ⟨⟨within, -⟩, skipped, once, last, stats⟩ := closed
  refine ⟨last, once, ?_, ?_, ?_, ?_, passed⟩
  · rw [stats]
    rfl
  · rw [stats, List.length_drop]
    exact Nat.add_sub_cancel' within
  · rw [stats]
    exact Stats.of_parts
  · rw [skipped, stats, List.length_map]
    rfl

end Scene
end TrialBench
