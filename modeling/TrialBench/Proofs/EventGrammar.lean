import Mathlib.Data.List.Basic
import TrialBench.Proofs.Chronicle
namespace TrialBench

-- The counters of a suite as they follow from the outcomes of the tests that were run.
def Stats.of (size : Nat) (outcomes : List Outcome) (skipped : Nat) : Stats where
  initialRunCount := size
  finishedCount := outcomes.length
  passed := outcomes.count .success
  failed := outcomes.count .fail
  unexpected := outcomes.countP fun outcome => !outcome.isTerminal
  notRun := skipped

namespace Stats
variable {size skipped : Nat} {outcomes : List Outcome} {outcome : Outcome}

theorem of_finish : (of size outcomes skipped).finish outcome = of size (outcomes ++ [outcome]) skipped := by
  cases outcome <;> simp [of, finish, Outcome.isTerminal]

theorem of_skip : (of size outcomes skipped).skip = of size outcomes (skipped + 1) := rfl

theorem of_hasRemaining : (of size outcomes skipped).hasRemaining = true ↔ outcomes.length + skipped < size :=
  decide_eq_true_iff

end Stats

namespace Bench
variable {plan : SuitePlan} {bench : Bench} {outcomes : List Outcome} {outcome : Outcome} {index : Nat}
  {script : Script} {left : List Script}

-- What is seen of the test at an index that is run. The stats that are told count it.
def round (bench : Bench) (plan : SuitePlan) (outcomes : List Outcome) (index : Nat) : List Beat :=
  match bench.scripts[index]?, outcomes[index]? with
  | some script, some outcome =>
    [.told (.testStarted script.name index), .invoked index (bench.nextBody index),
      .told (.testFinished script.name outcome (plan.testSpan (index + 1))
        (.of bench.scripts.length (outcomes.take (index + 1)) 0))]
  | _, _ => []

def rounds (bench : Bench) (plan : SuitePlan) (outcomes : List Outcome) : List Beat :=
  .told (.runStarted plan.suite bench.scripts.length) ::
    (List.range outcomes.length).flatMap (bench.round plan outcomes)

def skipping (plan : SuitePlan) (reason : CancelReason) (skipped : List Script) : List Beat :=
  .wrote (Suite.cancelingEvent plan.suite reason) :: .told (.runCanceled reason) ::
    skipped.map fun script => .told (.testSkipped script.name reason)

-- All that is seen of a suite whose first tests were run with certain outcomes, and
-- whose other tests, if there are any, were skipped for a reason.
def score (bench : Bench) (plan : SuitePlan) (outcomes : List Outcome) (reason : CancelReason) : List Beat :=
  let skipped := bench.scripts.drop outcomes.length
  bench.rounds plan outcomes
    ++ (if outcomes.length < bench.scripts.length then skipping plan reason skipped else [])
    ++ [.told (.runFinished plan.suite plan.runSpan (.of bench.scripts.length outcomes skipped.length))]

theorem round_concat (early : index < outcomes.length) :
    bench.round plan (outcomes ++ [outcome]) index = bench.round plan outcomes index := by
  unfold round
  rw [List.getElem?_append_left early, List.take_append_of_le_length early]

theorem round_last (at_ : bench.scripts[outcomes.length]? = some script) :
    bench.round plan (outcomes ++ [outcome]) outcomes.length =
      [.told (.testStarted script.name outcomes.length), .invoked outcomes.length (bench.nextBody outcomes.length),
        .told (.testFinished script.name outcome (plan.testSpan (outcomes.length + 1))
          (.of bench.scripts.length (outcomes ++ [outcome]) 0))] := by
  have whole : (outcomes ++ [outcome]).take (outcomes.length + 1) = outcomes ++ [outcome] :=
    List.take_of_length_le (by simp)
  unfold round
  rw [at_, List.getElem?_concat_length, whole]

theorem rounds_concat : bench.rounds plan (outcomes ++ [outcome]) =
    bench.rounds plan outcomes ++ bench.round plan (outcomes ++ [outcome]) outcomes.length := by
  have earlier : (List.range outcomes.length).flatMap (bench.round plan (outcomes ++ [outcome])) =
      (List.range outcomes.length).flatMap (bench.round plan outcomes) :=
    List.flatMap_congr fun index member => round_concat (List.mem_range.mp member)
  unfold rounds
  rw [List.length_append, List.length_singleton, List.range_succ, List.flatMap_append, earlier]
  simp

theorem at_drop (rest : bench.scripts.drop index = script :: left) :
    bench.scripts[index]? = some script ∧ bench.scripts.drop (index + 1) = left ∧ index < bench.scripts.length := by
  have place : index < bench.scripts.length := by
    apply Nat.lt_of_not_le
    intro beyond
    rw [List.drop_eq_nil_of_le beyond] at rest
    cases rest
  rw [List.drop_eq_getElem_cons place] at rest
  cases rest
  exact ⟨List.getElem?_eq_getElem place, rfl, place⟩

theorem nextBody_of {cell : TestCell} (at_ : bench.scripts[index]? = some script)
    (runs : some cell.runs = (bench.world.test? index).map (·.runs)) :
    bench.nextBody index = script.bodyOf cell.runs := by
  obtain ⟨first, found, same⟩ := Option.map_eq_some_iff.mp runs.symm
  unfold nextBody
  rw [at_, found]
  exact congrArg script.bodyOf same

end Bench

-- The body that a run has not yet invoked.
def Phase.pending? : Phase → Option (List BodyStep)
  | .start left | .clear left => some left
  | _ => none

-- A suite run that stands here has not begun with the test.
def Stage.Before (test : Nat) : Stage → Prop
  | .opening => True
  | .choosing index _ | .introducing index _ _ | .starting index _ _ => index ≤ test
  | .running _ index _ _ | .closing _ index _ _ | .considering _ index _ => index < test
  | .ended => False

namespace Scene
variable {plan : SuitePlan} {scripts : List Script} {start c next : Scene} {deed : Deed} {done : Option Deed}
  {moments : List Moment} {seen : List Beat} {bench : Bench} {test : Nat}

theorem Turn.before (turn : Turn plan scripts c done next) (before : next.stage.Before test) :
    c.stage.Before test := by
  cases turn with
  | aside | polls | heeds => exact before
  | opens stands | retimes stands | introduces stands | collects stands | closes stands | passes stands =>
    rw [stands]
    first | exact before | trivial
  | skips stands | begins stands | concludes stands | goesOn stands | cancels stands =>
    rw [stands]
    simp only [Stage.Before] at before ⊢
    omega
  | finishes => exact before.elim

theorem Turn.runs (turn : Turn plan scripts c (some deed) next) (before : next.stage.Before test) :
    (next.site.world.test? test).map (·.runs) = (c.site.world.test? test).map (·.runs) := by
  have going : Moment.restarts test ⟨c.site.world, deed⟩ = false := by
    cases turn with
    | aside step outside => cases deed <;> first | rfl | exact outside.elim
    | polls stands step own =>
      rcases own with ⟨p, rfl⟩ | rfl
      · rw [stands] at before
        have apart : _ ≠ test := Nat.ne_of_lt before
        cases p <;> simp [Moment.restarts, apart]
      · rfl
    | closes stands moved step own => rcases own with rfl | rfl <;> rfl
    | _ => rfl
  rw [turn.step.effect.tests, Option.map_map]
  congr 1
  funext cell
  simp [Moment.touch_told, going]

-- A test that has not begun has been run as often as at the start.
theorem Path.runs (path : Path plan scripts start moments c) (before : c.stage.Before test) :
    (c.site.world.test? test).map (·.runs) = (start.site.world.test? test).map (·.runs) := by
  induction path with
  | here => rfl
  | act path turn ih => rw [turn.runs before, ih (turn.before before)]
  | pass path turn ih => rw [turn.still, ih (turn.before before)]

-- The tests before an index were run, in their order, and nothing else was counted.
structure Played (bench : Bench) (plan : SuitePlan) (index : Nat) (left : List Script) (more seen : List Beat)
    (stats : Stats) (outcomes : List Outcome) : Prop where
  count : outcomes.length = index
  rest : bench.scripts.drop index = left
  seen : seen = bench.rounds plan outcomes ++ more
  stats : stats = .of bench.scripts.length outcomes 0

def begun (script : Script) (index : Nat) : Beat := .told (.testStarted script.name index)

def invoking (bench : Bench) (index : Nat) : Beat := .invoked index (bench.nextBody index)

-- What was seen of a suite run, by the place where it stands.
inductive Seen (bench : Bench) (plan : SuitePlan) (seen : List Beat) (c : Scene) : Stage → Prop where
  | opening (unseen : seen = []) (stats : c.stats = .of bench.scripts.length [] 0) :
      Seen bench plan seen c .opening
  | going {index : Nat} {left : List Script} {outcomes : List Outcome}
      (played : Played bench plan index left [] seen c.stats outcomes) (within : index ≤ bench.scripts.length)
      (goes : c.reason = none ∨ left = []) : Seen bench plan seen c (.choosing index left)
  | stopped {index : Nat} {left skipped : List Script} {outcomes : List Outcome} {reason : CancelReason}
      (held : c.reason = some reason) (some_ : outcomes ≠ []) (early : outcomes.length < bench.scripts.length)
      (rest : bench.scripts.drop outcomes.length = skipped ++ left)
      (told : seen = bench.rounds plan outcomes ++ Bench.skipping plan reason skipped)
      (stats : c.stats = .of bench.scripts.length outcomes skipped.length) :
      Seen bench plan seen c (.choosing index left)
  | introducing {index : Nat} {script : Script} {left : List Script} {outcomes : List Outcome}
      (played : Played bench plan index (script :: left) [] seen c.stats outcomes) :
      Seen bench plan seen c (.introducing index script left)
  | starting {index : Nat} {script : Script} {left : List Script} {outcomes : List Outcome}
      (played : Played bench plan index (script :: left) [begun script index] seen c.stats outcomes) :
      Seen bench plan seen c (.starting index script left)
  | pending {thread index : Nat} {script : Script} {left : List Script} {outcomes : List Outcome} {watched : Bool}
      {p : Phase} (seat : c.site.threads[thread]? = some (.run index watched p))
      (waits : p.pending? = some (bench.nextBody index))
      (played : Played bench plan index (script :: left) [begun script index] seen c.stats outcomes) :
      Seen bench plan seen c (.running thread index script left)
  | invoked {thread index : Nat} {script : Script} {left : List Script} {outcomes : List Outcome} {watched : Bool}
      {p : Phase} (seat : c.site.threads[thread]? = some (.run index watched p)) (went : p.pending? = none)
      (played : Played bench plan index (script :: left) [begun script index, invoking bench index] seen c.stats
        outcomes) :
      Seen bench plan seen c (.running thread index script left)
  | closing {rest : Closing} {index : Nat} {script : Script} {left : List Script} {outcomes : List Outcome}
      (played : Played bench plan index (script :: left) [begun script index, invoking bench index] seen c.stats
        outcomes) :
      Seen bench plan seen c (.closing rest index script left)
  | considering {index : Nat} {left : List Script} {outcome : Outcome} {outcomes : List Outcome}
      (played : Played bench plan (index + 1) left [] seen c.stats outcomes)
      (within : index < bench.scripts.length) : Seen bench plan seen c (.considering outcome index left)
  | ended {outcomes : List Outcome} {reason : CancelReason} (within : outcomes.length ≤ bench.scripts.length)
      (some_ : bench.scripts ≠ [] → outcomes ≠ [])
      (held : outcomes.length < bench.scripts.length → c.reason = some reason)
      (told : seen = bench.score plan outcomes reason)
      (stats : c.stats = .of bench.scripts.length outcomes (bench.scripts.drop outcomes.length).length) :
      Seen bench plan seen c .ended

variable {index : Nat} {script : Script} {left : List Script} {outcomes : List Outcome} {more : List Beat}
  {stats : Stats} {rest : List Script}

theorem Played.grow {beats : List Beat} (played : Played bench plan index rest more seen stats outcomes) :
    Played bench plan index rest (more ++ beats) (seen ++ beats) stats outcomes :=
  ⟨played.count, played.rest, by rw [played.seen, List.append_assoc], played.stats⟩

-- A test that was run counts with its outcome, and what was seen of it is its round.
theorem Played.finish {outcome : Outcome}
    (played : Played bench plan index (script :: left) [begun script index, invoking bench index] seen stats outcomes) :
    Played bench plan (index + 1) left []
      (seen ++ [.told (.testFinished script.name outcome (plan.testSpan (stats.finish outcome).finishedCount)
        (stats.finish outcome))])
      (stats.finish outcome) (outcomes ++ [outcome]) := by
  obtain ⟨rfl, rest, told, rfl⟩ := played
  obtain ⟨at_, later, -⟩ := Bench.at_drop rest
  refine ⟨by simp, later, ?_, Stats.of_finish⟩
  rw [Bench.rounds_concat, Bench.round_last at_, told, Stats.of_finish]
  simp [Stats.of, begun, invoking]

theorem Seen.aside {stage : Stage} {next : Site} (seen_ : Seen bench plan seen c stage)
    (step : Site.Step c.site deed next) (outside : deed.Outside) :
    Seen bench plan seen { c with site := next } stage := by
  have kept {thread index : Nat} {watched : Bool} {p : Phase}
      (seat : c.site.threads[thread]? = some (.run index watched p)) :
      next.threads[thread]? = some (.run index watched p) := (step.calm (outside_calm outside)).mpr seat
  cases seen_ with
  | opening unseen stats => exact .opening unseen stats
  | going played within goes => exact .going played within goes
  | stopped held some_ early rest told stats => exact .stopped held some_ early rest told stats
  | introducing played => exact .introducing played
  | starting played => exact .starting played
  | pending seat waits played => exact .pending (kept seat) waits played
  | invoked seat went played => exact .invoked (kept seat) went played
  | closing played => exact .closing played
  | considering played within => exact .considering played within
  | ended within some_ held told stats => exact .ended within some_ held told stats

theorem Seen.heeded {next : Site} {event : ShutdownEvent} {thread : Nat}
    (seen_ : Seen bench plan seen c (.running thread index script left))
    (step : Site.Step c.site (.heed thread index event) next) :
    Seen bench plan seen { c with site := next, reason := some (.signal event) }
      (.running thread index script left) := by
  have kept {watched : Bool} {p : Phase} (seat : c.site.threads[thread]? = some (.run index watched p)) :
      ∃ watched, next.threads[thread]? = some (.run index watched p) := by
    obtain ⟨watched', p', seat', -, rfl | ⟨did, -⟩⟩ := step.run_stays seat
    · exact ⟨watched', seat'⟩
    · cases did
  cases seen_ with
  | pending seat waits played =>
    obtain ⟨watched, later⟩ := kept seat
    exact .pending later waits played
  | invoked seat went played =>
    obtain ⟨watched, later⟩ := kept seat
    exact .invoked later went played

theorem Run.Moves.pending {test : Nat} {w v : World} {p p' : Phase} (moves : Run.Moves test w p v p') :
    p'.pending? = match p with
      | .start body => some body
      | _ => none := by
  cases moves <;> rfl

theorem Seen.advanced {thread : Nat} {p : Phase} {next : Site}
    (seen_ : Seen bench plan seen c (.running thread index script left))
    (step : Site.Step c.site (.advance thread index p) next) :
    Seen bench plan (seen ++ c.beats (some (.advance thread index p)) { c with site := next })
      { c with site := next } (.running thread index script left) := by
  obtain ⟨watched, p', seat, moves, threads⟩ := step.advanced
  have place : thread < c.site.threads.length := (List.getElem?_eq_some_iff.mp seat).1
  have now : next.threads[thread]? = some (.run index watched p') := by
    rw [threads, List.getElem?_set_self place]
  have pending := Run.Moves.pending moves
  have reticent := moves.reticent
  cases seen_ with
  | pending there waits played =>
    cases seat.symm.trans there
    cases p with
    | start body =>
      have silent : c.beats (some (.advance thread index (.start body))) { c with site := next } = [] :=
        beats_none rfl reticent rfl
      rw [silent, List.append_nil]
      exact .pending now (pending.trans waits) played
    | clear body =>
      cases waits
      have invokes : c.beats (some (.advance thread index (.clear (bench.nextBody index)))) { c with site := next } =
          [invoking bench index] := beats_invoked rfl reticent rfl
      rw [invokes]
      exact .invoked now pending played.grow
    | _ => cases waits
  | invoked there went played =>
    cases seat.symm.trans there
    have silent : c.beats (some (.advance thread index p)) { c with site := next } = [] := by
      cases p with
      | clear body => cases went
      | _ => exact beats_none rfl reticent rfl
    rw [silent, List.append_nil]
    cases p with
    | start body => cases went
    | _ => exact .invoked now pending played

theorem Seen.silently {stage : Stage} (silent : done.bind (fun deed => Moment.invokes? ⟨c.site.world, deed⟩) = none)
    (reticent : c.site.world.Reticent next.site.world) (same : next.told = c.told)
    (seen_ : Seen bench plan seen next stage) : Seen bench plan (seen ++ c.beats done next) next stage := by
  rwa [beats_none silent reticent same, List.append_nil]

theorem Seen.telling {stage : Stage} {event : SuiteEvent}
    (silent : done.bind (fun deed => Moment.invokes? ⟨c.site.world, deed⟩) = none)
    (reticent : c.site.world.Reticent next.site.world) (grown : next.told = c.told ++ [event])
    (seen_ : Seen bench plan (seen ++ [.told event]) next stage) :
    Seen bench plan (seen ++ c.beats done next) next stage := by
  rwa [beats_told silent reticent grown]

theorem canceling_written {w : World} {reason : CancelReason} :
    ((w.log (Suite.cancelingEvent plan.suite reason)).logs.drop w.logs.length).filter LogEvent.isCanceling =
      [Suite.cancelingEvent plan.suite reason] := by
  unfold World.log
  rw [List.drop_left]
  rfl

theorem Seen.unstopped {index : Nat} (going : c.reason = none)
    (seen_ : Seen bench plan seen c (.choosing index rest)) :
    ∃ outcomes, Played bench plan index rest [] seen c.stats outcomes ∧ index ≤ bench.scripts.length := by
  cases seen_ with
  | going played within => exact ⟨_, played, within⟩
  | stopped held => cases going.symm.trans held

-- A suite run that does not stop goes on to the next test, or to its end.
theorem Seen.goes {outcome : Outcome}
    (silent : plan.reasonAfter c.reason outcome = none ∨ c.stats.hasRemaining = false)
    (seen_ : Seen bench plan seen c (.considering outcome index left)) :
    Seen bench plan seen
      { c with reason := plan.reasonAfter c.reason outcome, stage := .choosing (index + 1) left }
      (.choosing (index + 1) left) := by
  cases seen_ with
  | considering played within =>
    refine .going played within ?_
    apply silent.imp id
    intro last
    rw [← played.rest]
    apply List.drop_eq_nil_of_le
    rw [played.stats] at last
    have none_left := mt Stats.of_hasRemaining.mpr (by rw [last]; simp)
    rw [played.count] at none_left
    omega

theorem Seen.ends {site : Site} (seen_ : Seen bench plan seen c (.choosing index [])) :
    Seen bench plan (seen ++ [.told (.runFinished plan.suite plan.runSpan c.stats)])
      { c with
        site := site
        told := c.told ++ [.runFinished plan.suite plan.runSpan c.stats]
        stage := .ended } .ended := by
  cases seen_ with
  | @going index _ outcomes played within goes =>
    obtain ⟨rfl, rest, told, stats⟩ := played
    have whole : bench.scripts.length ≤ outcomes.length := List.drop_eq_nil_iff.mp rest
    refine @Seen.ended _ _ _ _ outcomes .testFailure within ?_ (fun early => absurd whole (Nat.not_le.mpr early)) ?_ ?_
    · intro some_ none_
      rw [none_] at whole
      exact some_ (List.eq_nil_of_length_eq_zero (Nat.le_zero.mp whole))
    · rw [Bench.score, if_neg (Nat.not_lt.mpr whole), rest, told, stats]
      rfl
    · rw [rest]
      exact stats
  | @stopped _ _ skipped outcomes reason held some_ early rest told stats =>
    rw [List.append_nil] at rest
    refine @Seen.ended _ _ _ _ outcomes reason (Nat.le_of_lt early) (fun _ => some_) (fun _ => held) ?_ ?_
    · rw [Bench.score, if_pos early, rest, told, stats]
    · rw [rest]
      exact stats

theorem Turn.shows (turn : Turn plan bench.scripts c done next) (own : c.Own done next) (standing : Standing plan c)
    (runs : ∀ test, c.stage.Before test →
      (c.site.world.test? test).map (·.runs) = (bench.world.test? test).map (·.runs))
    (seen_ : Seen bench plan seen c c.stage) :
    Seen bench plan (seen ++ c.beats done next) next next.stage := by
  cases turn with
  | aside step outside =>
    rcases own with inside | moved
    · exact absurd outside (inside _ rfl)
    · exact absurd rfl moved
  | opens stands =>
    have going := standing.unhurried_at stands trivial
    rw [stands] at seen_
    cases seen_ with
    | opening unseen stats =>
      have played : Played bench plan 0 bench.scripts [] (seen ++ [.told (.runStarted plan.suite bench.scripts.length)])
          c.stats [] := ⟨rfl, rfl, by rw [unseen]; rfl, stats⟩
      exact .telling rfl (.same rfl) rfl (.going played (Nat.zero_le _) (.inl going))
  | skips stands stopped =>
    rw [stands] at seen_
    cases seen_ with
    | going played within goes =>
      rcases goes with going | none_left
      · cases stopped.symm.trans going
      · cases none_left
    | stopped held some_ early rest told stats =>
      cases stopped.symm.trans held
      refine .telling rfl (.same rfl) rfl ?_
      refine .stopped held some_ early (rest.trans (List.append_cons ..)) ?_ ?_
      · simp [told, Bench.skipping]
      · simp [stats, Stats.of_skip]
  | retimes stands going step =>
    rw [stands] at seen_
    obtain ⟨outcomes, played, -⟩ := seen_.unstopped going
    exact .silently rfl (step.reticent (by simp)) rfl (.introducing played)
  | introduces stands found =>
    rw [stands] at seen_
    cases seen_ with
    | introducing played => exact .telling rfl (.line rfl) rfl (.starting played.grow)
  | begins stands found idle =>
    have before := runs _ (by rw [stands]; exact Nat.le_refl _)
    rw [stands] at seen_
    cases seen_ with
    | starting played =>
      obtain ⟨at_, -, -⟩ := Bench.at_drop played.rest
      rw [found] at before
      have waits := Bench.nextBody_of at_ before
      exact .silently rfl (.same rfl) rfl (.pending List.getElem?_concat_length (by rw [waits]; rfl) played)
  | polls stands step polled =>
    rcases polled with ⟨p, rfl⟩ | rfl
    · rw [stands] at seen_
      have later := seen_.advanced step
      rwa [← stands] at later
    · cases step with
      | rest seat turned => exact .silently rfl (.same rfl) rfl seen_
  | heeds stands step =>
    refine .silently rfl (step.reticent (by simp)) rfl ?_
    rw [stands] at seen_
    have later := seen_.heeded step
    rwa [← stands] at later
  | collects stands resolved =>
    rw [stands] at seen_
    cases seen_ with
    | pending seat waits played =>
      cases seat.symm.trans resolved
      cases waits
    | invoked seat went played => exact .silently rfl (.same rfl) rfl (.closing played)
  | @closes index script left rest later deed w stands moved step closing =>
    rw [stands] at seen_
    have silent : Moment.invokes? ⟨c.site.world, deed⟩ = none := by
      rcases closing with rfl | rfl <;> rfl
    cases seen_ with
    | closing played => exact .silently silent (Closing.reticent moved) rfl (.closing played)
  | passes stands moved =>
    rw [stands] at seen_
    cases seen_ with
    | closing played => exact .silently rfl (.same rfl) rfl (.closing played)
  | concludes stands closed =>
    rw [stands] at seen_
    cases seen_ with
    | closing played =>
      obtain ⟨-, -, within⟩ := Bench.at_drop played.rest
      exact .telling rfl (.same rfl) rfl (.considering played.finish within)
  | goesOn stands silent =>
    rw [stands] at seen_
    exact .silently rfl (.same rfl) rfl (seen_.goes silent)
  | @cancels index left outcome reason stands stopped more =>
    rw [stands] at seen_
    cases seen_ with
    | @considering _ _ _ outcomes played within =>
      rw [played.stats, Stats.of_hasRemaining] at more
      have some_ : outcomes ≠ [] := List.ne_nil_of_length_eq_add_one played.count
      have rest : bench.scripts.drop outcomes.length = [] ++ left := by
        rw [played.count, played.rest, List.nil_append]
      refine .stopped rfl some_ more rest ?_ played.stats
      rw [beats_of rfl canceling_written rfl, played.seen, List.append_nil]
      rfl
  | finishes stands =>
    rw [stands] at seen_
    exact .telling rfl (.line (by simp [Suite.finishedEvent, LogEvent.isCanceling])) rfl seen_.ends

theorem Chronicle.shows {site : Site} (idle : ∀ test, site.Idle test)
    (chronicle : Chronicle plan scripts (opening site scripts) moments seen c) :
    Seen ⟨scripts, site.world⟩ plan seen c c.stage := by
  have start : Standing plan (opening site scripts) := opening_standing idle
  induction chronicle with
  | here => exact .opening rfl rfl
  | aside chronicle step outside ih => exact ih.aside step outside
  | act chronicle turn own ih =>
    exact Turn.shows turn own (chronicle.path.standing start) (fun test before => chronicle.path.runs before) ih
  | pass chronicle turn ih =>
    exact Turn.shows turn (.inl (by simp)) (chronicle.path.standing start)
      (fun test before => chronicle.path.runs before) ih

-- What is seen of a suite run that has come to its end.
theorem Chronicle.scored {site : Site} (idle : ∀ test, site.Idle test)
    (chronicle : Chronicle plan scripts (opening site scripts) moments seen c) (halted : c.stage = .ended) :
    ∃ outcomes reason, outcomes.length ≤ scripts.length ∧ (scripts ≠ [] → outcomes ≠ []) ∧
      (outcomes.length < scripts.length → c.reason = some reason) ∧
      seen = Bench.score ⟨scripts, site.world⟩ plan outcomes reason ∧
      c.stats = .of scripts.length outcomes (scripts.drop outcomes.length).length := by
  have shows := chronicle.shows idle
  rw [halted] at shows
  cases shows with
  | ended within some_ held told stats => exact ⟨_, _, within, some_, held, told, stats⟩

theorem rounds_invoked (within : outcomes.length ≤ bench.scripts.length) :
    (bench.rounds plan outcomes).filterMap Beat.invoked? =
      (List.range outcomes.length).map fun index => (index, bench.nextBody index) := by
  have round {index : Nat} (member : index ∈ List.range outcomes.length) :
      (bench.round plan outcomes index).filterMap Beat.invoked? = [(index, bench.nextBody index)] := by
    have early := List.mem_range.mp member
    unfold Bench.round
    rw [List.getElem?_eq_getElem early, List.getElem?_eq_getElem (Nat.lt_of_lt_of_le early within)]
    rfl
  rw [Bench.rounds, List.filterMap_cons_none rfl, List.filterMap_flatMap, List.flatMap_congr fun _ => round,
    ← List.map_eq_flatMap]

theorem skipping_invoked {reason : CancelReason} {skipped : List Script} :
    (Bench.skipping plan reason skipped).filterMap Beat.invoked? = [] := by
  rw [Bench.skipping, List.filterMap_cons_none rfl, List.filterMap_cons_none rfl]
  exact filterMap_other (fun _ => rfl) _

theorem score_invoked {reason : CancelReason} (within : outcomes.length ≤ bench.scripts.length) :
    (bench.score plan outcomes reason).filterMap Beat.invoked? =
      (List.range outcomes.length).map fun index => (index, bench.nextBody index) := by
  have skipping : (if outcomes.length < bench.scripts.length then
      Bench.skipping plan reason (bench.scripts.drop outcomes.length) else []).filterMap Beat.invoked? = [] := by
    split
    · exact skipping_invoked
    · rfl
  rw [Bench.score, List.filterMap_append, List.filterMap_append, rounds_invoked within, skipping]
  simp [Beat.invoked?]

def brokenScripts : List Script := [⟨"breaks", [[.mark .pass, .stop (.leaf "broken")]]⟩, ⟨"left", [[.mark .pass]]⟩]

def brokenSite : Site where
  world := .fresh ⟨"device", "1.0"⟩ [] (["breaks", "left"].map fun name => .fresh name (.ofSeconds 1))
  threads := []

def brokenPlan (failFast : Bool) : SuitePlan where
  suite := "suite"
  failFast := failFast
  timeout := .ofSeconds 1
  watched := true
  testSpan _ := ⟨⟨0, 0, 0⟩, .ofSeconds 1⟩
  runSpan := ⟨⟨0, 0, 0⟩, .ofSeconds 1⟩

theorem broken_idle (test : Nat) : brokenSite.Idle test := by
  intro watched p member
  cases member

end Scene
end TrialBench
