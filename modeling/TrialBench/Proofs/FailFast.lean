import TrialBench.Proofs.Series
import TrialBench.Proofs.Truncation
namespace TrialBench

theorem SuiteEvent.outcomes_finish {told : List SuiteEvent} :
    told.filterMap outcome? = (told.filterMap finish?).map (·.2.1) := List.map_filterMap.symm

namespace FirstFailure
variable {outcomes more : List Outcome} {outcome : Outcome} {test : Nat}

theorem earlier (first : FirstFailure (outcomes ++ more) test) (early : test < outcomes.length) :
    FirstFailure outcomes test := by
  refine ⟨?_, fun other before => ?_⟩
  · rw [← List.getElem?_append_left early]
    exact first.failed
  · rw [← List.getElem?_append_left (Nat.lt_trans before early)]
    exact first.passed other before

theorem latest (first : FirstFailure (outcomes ++ [outcome]) outcomes.length) : outcome ≠ .success := by
  obtain ⟨other, there, failed⟩ := first.failed
  rw [List.getElem?_concat_length] at there
  cases there
  exact failed

theorem head (first : FirstFailure (outcome :: more) test) (failed : outcome ≠ .success) : test = 0 := by
  refine Nat.eq_zero_of_not_pos fun later => failed ?_
  exact Option.some.inj (first.passed 0 later)

end FirstFailure

namespace Scene
variable {patient eager plan : SuitePlan} {scripts left : List Script} {start c next : Scene} {deed : Deed}
  {done : Option Deed} {moments : List Moment} {site : Site} {index test : Nat} {outcome : Outcome}
  {told : List SuiteEvent}

def outcomes (c : Scene) : List Outcome := c.told.filterMap SuiteEvent.outcome?

theorem Turn.succeeds (stands : c.stage = .considering .success index left) (going : c.reason = none) :
    Turn plan scripts c none { c with stage := .choosing (index + 1) left } := by
  have silent : plan.reasonAfter c.reason .success = none := SuitePlan.reasonAfter_success.trans going
  have goes : Turn plan scripts c none _ := .goesOn stands (.inl silent)
  rwa [SuitePlan.reasonAfter_success] at goes

-- What a run that goes on does, a run that stops at failures does as well, except where it
-- stops.
theorem Turn.hurries (differ : patient.Hurried eager) (turn : Turn patient scripts c done next)
    (going : next.reason = none)
    (passed : ∀ outcome index left, c.stage = .considering outcome index left → outcome = .success)
    (same : List.Forall₂ SuiteEvent.Same c.told told) :
    ∃ told', Turn eager scripts { c with told } done { next with told := told' } ∧
      List.Forall₂ SuiteEvent.Same next.told told' := by
  have tell {event event' : SuiteEvent} (alike : event.Same event') :
      List.Forall₂ SuiteEvent.Same (c.told ++ [event]) (told ++ [event']) :=
    List.rel_append same (.cons alike .nil)
  obtain ⟨suite, _, timeout, watched, _, _⟩ := eager
  obtain ⟨goesOn, stops, rfl, rfl, rfl⟩ := differ
  cases turn with
  | aside step outside => exact ⟨told, .aside step outside, same⟩
  | opens stands => exact ⟨_, .opens stands, tell .same⟩
  | skips stands stopped => exact ⟨_, .skips stands stopped, tell .same⟩
  | retimes stands held step => exact ⟨told, .retimes stands held step, same⟩
  | introduces stands found => exact ⟨_, .introduces stands found, tell .same⟩
  | begins stands found idle => exact ⟨told, .begins stands found idle, same⟩
  | polls stands step own => exact ⟨told, .polls stands step own, same⟩
  | heeds stands step => cases going
  | collects stands resolved => exact ⟨told, .collects stands resolved, same⟩
  | closes stands moved step own => exact ⟨told, .closes stands moved step own, same⟩
  | passes stands moved => exact ⟨told, .passes stands moved, same⟩
  | concludes stands closed => exact ⟨_, .concludes stands closed, tell .finished⟩
  | @goesOn index left outcome stands silent =>
    obtain rfl := passed outcome index left stands
    rw [SuitePlan.reasonAfter_success] at going ⊢
    exact ⟨told, .succeeds stands going, same⟩
  | cancels => cases going
  | finishes stands => exact ⟨_, .finishes stands, tell .closed⟩

-- The events of a turn. Only the end of a test says how a test came out.
theorem Turn.tells (turn : Turn plan scripts c done next) :
    next.outcomes = c.outcomes ∨
      done = none ∧ ∃ index left outcome event, next.stage = .considering outcome index left ∧
        (∀ other index left, c.stage ≠ .considering other index left) ∧
        next.told = c.told ++ [event] ∧ event.outcome? = some outcome := by
  have silent {event : SuiteEvent} (none_ : event.outcome? = none) :
      (c.told ++ [event]).filterMap SuiteEvent.outcome? = c.outcomes := by
    rw [List.filterMap_append, List.filterMap_cons_none none_]
    exact List.append_nil _
  cases turn with
  | concludes stands closed =>
    refine .inr ⟨rfl, _, _, _, _, rfl, ?_, rfl, rfl⟩
    intro other index left same
    cases stands.symm.trans same
  | opens | skips | introduces | cancels | finishes => exact .inl (silent rfl)
  | _ => exact .inl rfl

theorem outcomes_concat {event : SuiteEvent} (ends : event.outcome? = some outcome)
    (told : next.told = c.told ++ [event]) :
    next.outcomes = c.outcomes ++ [outcome] := by
  unfold outcomes
  rw [told, List.filterMap_append, List.filterMap_cons_some ends]
  rfl

theorem Turn.outcomes_grow (turn : Turn plan scripts c done next) : c.outcomes <+: next.outcomes := by
  obtain ⟨events, told⟩ := turn.grown
  unfold outcomes
  rw [told, List.filterMap_append]
  exact List.prefix_append _ _

-- The outcome that is considered was told.
theorem Turn.considered (turn : Turn plan scripts c done next)
    (before : ∀ outcome index left, c.stage = .considering outcome index left → outcome ∈ c.outcomes) :
    ∀ outcome index left, next.stage = .considering outcome index left → outcome ∈ next.outcomes := by
  intro outcome index left stands
  cases turn with
  | aside => exact before outcome index left stands
  | polls here | heeds here => cases here.symm.trans stands
  | concludes =>
    cases stands
    rw [outcomes_concat (c := c) rfl rfl]
    exact List.mem_append_right _ List.mem_cons_self
  | _ => cases stands

theorem Path.considered (path : Path plan scripts start moments c) (begins : start.stage = .opening) :
    ∀ outcome index left, c.stage = .considering outcome index left → outcome ∈ c.outcomes := by
  induction path with
  | here =>
    intro outcome index left same
    cases begins.symm.trans same
  | act path turn ih => exact turn.considered ih
  | pass path turn ih => exact turn.considered ih

theorem Path.hurries (differ : patient.Hurried eager) (path : Path patient scripts start moments c)
    (begins : start.stage = .opening) (going : c.reason = none) (passed : ∀ outcome ∈ c.outcomes, outcome = .success) :
    ∃ told, Path eager scripts start moments { c with told } ∧ List.Forall₂ SuiteEvent.Same c.told told := by
  have hurried {moments : List Moment} {c next : Scene} {done : Option Deed} {told : List SuiteEvent}
      (path : Path patient scripts start moments c) (turn : Turn patient scripts c done next)
      (going : next.reason = none) (early : ∀ outcome ∈ c.outcomes, outcome = .success)
      (same : List.Forall₂ SuiteEvent.Same c.told told) :
      ∃ told', Turn eager scripts { c with told } done { next with told := told' } ∧
        List.Forall₂ SuiteEvent.Same next.told told' := by
    apply turn.hurries differ going _ same
    intro outcome index left stands
    exact early outcome (path.considered begins outcome index left stands)
  induction path with
  | here => exact ⟨_, .here, List.forall₂_same.mpr fun event member => .same⟩
  | act path turn ih =>
    have early outcome member := passed outcome (turn.outcomes_grow.subset member)
    obtain ⟨told, before, same⟩ := ih (turn.unreasoned going).1 early
    obtain ⟨told', step, same'⟩ := hurried path turn going early same
    exact ⟨told', before.act step, same'⟩
  | pass path turn ih =>
    have early outcome member := passed outcome (turn.outcomes_grow.subset member)
    obtain ⟨told, before, same⟩ := ih (turn.unreasoned going).1 early
    obtain ⟨told', step, same'⟩ := hurried path turn going early same
    exact ⟨told', before.pass step, same'⟩

theorem Path.began (path : Path plan scripts start moments c) (going : c.reason = none) : start.reason = none := by
  induction path with
  | here => exact going
  | act path turn ih | pass path turn ih => exact ih (turn.unreasoned going).1

-- A run up to the turn that told of its first test that did not pass, and what came after.
structure StopsAt (plan : SuitePlan) (scripts : List Script) (start c : Scene) (test : Nat)
    (before rest : List Moment) (early next : Scene) (outcome : Outcome) (event : SuiteEvent) : Prop where
  path : Path plan scripts start before early
  turn : Turn plan scripts early none next
  later : Path plan scripts next rest c
  fresh : ∀ other index left, early.stage ≠ .considering other index left
  told : next.told = early.told ++ [event]
  ends : event.outcome? = some outcome
  failed : outcome ≠ .success
  count : early.outcomes.length = test
  passed : ∀ outcome ∈ early.outcomes, outcome = .success
  stands : ∃ index left, next.stage = .considering outcome index left

theorem Path.stops_at (path : Path plan scripts start moments c) (unheard : start.outcomes = [])
    (first : FirstFailure c.outcomes test) :
    ∃ before rest early next outcome event, moments = rest ++ before ∧
      StopsAt plan scripts start c test before rest early next outcome event := by
  induction path with
  | here =>
    have place := first.place
    rw [unheard] at place
    cases place
  | act path turn ih =>
    rcases turn.tells with same | ⟨none_, -⟩
    · obtain ⟨before, rest, early, next, outcome, event, rfl, stops⟩ := ih (same ▸ first)
      exact ⟨before, _ :: rest, early, next, outcome, event, rfl, { stops with later := stops.later.act turn }⟩
    · cases none_
  | @pass moments c next path turn ih =>
    have longer (earlier : FirstFailure c.outcomes test) : ∃ before rest early last outcome event,
        moments = rest ++ before ∧ StopsAt plan scripts start next test before rest early last outcome event := by
      obtain ⟨before, rest, early, last, outcome, event, same, stops⟩ := ih earlier
      exact ⟨before, rest, early, last, outcome, event, same, { stops with later := stops.later.pass turn }⟩
    rcases turn.tells with same | ⟨-, index, left, outcome, event, stands, fresh, told, ends⟩
    · exact longer (same ▸ first)
    · rw [outcomes_concat ends told] at first
      rcases Nat.lt_or_ge test c.outcomes.length with early | late
      · exact longer (first.earlier early)
      · have last := first.place
        rw [List.length_append, List.length_singleton] at last
        obtain rfl : c.outcomes.length = test := by omega
        have passed := first.all
        rw [List.take_left] at passed
        have failed := first.latest
        exact ⟨moments, [], c, next, outcome, event, rfl, path, turn, .here, fresh, told, ends, failed, rfl, passed,
          index, left, stands⟩

theorem StopsAt.through {before rest : List Moment} {early last : Scene} {event : SuiteEvent}
    (stops : StopsAt plan scripts start c test before rest early last outcome event) :
    SuiteEvent.through test c.told = last.told := by
  obtain ⟨later, grown⟩ := stops.later.told_grows
  rw [← grown, stops.told, List.append_assoc]
  exact SuiteEvent.through_split stops.count stops.ends

-- What was counted when the end of a test was told.
theorem Path.counted (path : Path plan scripts (opening site scripts) moments c) (idle : ∀ test, site.Idle test)
    (stands : c.stage = .considering outcome index left) :
    c.outcomes.length = index + 1 ∧ scripts.drop (index + 1) = left ∧ index < scripts.length ∧
      c.stats = .of scripts.length c.outcomes 0 := by
  obtain ⟨seen, chronicle⟩ := path.chronicle
  have shown := chronicle.shows idle
  rw [stands] at shown
  cases shown with
  | @considering _ _ _ outcomes played within =>
    have finished := (played.finished within rfl).2
    rw [chronicle.events rfl] at finished
    have same : c.outcomes = outcomes := by
      unfold Scene.outcomes
      rw [SuiteEvent.outcomes_finish, finished, Bench.finish_outcomes]
    rw [same]
    exact ⟨played.count, played.rest, within, played.stats⟩

theorem skips_path {reason : CancelReason} (stands : c.stage = .choosing index left) (held : c.reason = some reason) :
    ∃ last, Path plan scripts c [] last ∧ last.stage = .choosing (index + left.length) [] ∧
      last.told = c.told ++ left.map (fun script => .testSkipped script.name reason) ∧
      ∀ size outcomes skipped, c.stats = .of size outcomes skipped →
        last.stats = .of size outcomes (skipped + left.length) := by
  induction left generalizing c index with
  | nil => exact ⟨c, .here, stands, (List.append_nil _).symm, fun size outcomes skipped same => same⟩
  | cons script left ih =>
    have skips : Turn plan scripts c none _ := .skips stands held
    obtain ⟨last, path, place, told, stats⟩ := @ih
      { c with
        stats := c.stats.skip
        told := c.told ++ [.testSkipped script.name reason]
        stage := .choosing (index + 1) left } (index + 1) rfl held
    refine ⟨last, (Path.here.pass skips).trans path, ?_, ?_, ?_⟩
    · rw [place, List.length_cons, Nat.add_right_comm, Nat.add_assoc]
    · rw [told, List.append_assoc]
      rfl
    · intro size outcomes skipped same
      rw [stats size outcomes (skipped + 1) ((congrArg Stats.skip same).trans Stats.of_skip), List.length_cons,
        Nat.add_right_comm, Nat.add_assoc]

theorem ends_path {reason : CancelReason} (stands : c.stage = .choosing index left) (held : c.reason = some reason)
    {size skipped : Nat} {outcomes : List Outcome} (tally : c.stats = .of size outcomes skipped) :
    ∃ moments last, Path plan scripts c moments last ∧ last.stage = .ended ∧ (∀ m ∈ moments, m.deed = .tell) ∧
      last.stats = .of size outcomes (skipped + left.length) ∧
      last.told = c.told ++ left.map (fun script => .testSkipped script.name reason) ++
        [.runFinished plan.suite plan.runSpan last.stats] := by
  obtain ⟨last, path, place, told, stats⟩ := @skips_path plan scripts left c index reason stands held
  have finishes : Turn plan scripts last (some .tell) _ := .finishes place
  refine ⟨_, _, path.act finishes, rfl, ?_, stats size outcomes skipped tally, ?_⟩
  · intro m member
    obtain rfl := List.mem_singleton.mp member
    rfl
  · exact congrArg (· ++ _) told

-- A run that stops at failures ends without running another test.
theorem stops_path (stops : plan.failFast = true) (stands : c.stage = .considering outcome index left)
    (going : c.reason = none) (failed : outcome ≠ .success) {size : Nat} {outcomes : List Outcome}
    (tally : c.stats = .of size outcomes 0) (whole : size = outcomes.length + left.length) :
    ∃ moments last, Path plan scripts c moments last ∧ last.stage = .ended ∧ (∀ m ∈ moments, m.deed = .tell) ∧
      last.stats = .of size outcomes left.length ∧
      last.told = c.told ++ Suite.stopping left ++ [.runFinished plan.suite plan.runSpan last.stats] := by
  have after : plan.reasonAfter c.reason outcome = some .testFailure := by
    rw [going]
    exact SuitePlan.reasonAfter_stops stops failed
  have more : c.stats.hasRemaining = true ↔ 0 < left.length := by
    rw [tally, Stats.of_hasRemaining, whole]
    omega
  cases left with
  | nil =>
    have none_left : c.stats.hasRemaining = false := by simpa using more
    have goes : Turn plan scripts c none _ := .goesOn stands (.inr none_left)
    obtain ⟨moments, last, path, halted, tells, stats, told⟩ := @ends_path plan scripts []
      { c with reason := plan.reasonAfter c.reason outcome, stage := .choosing (index + 1) [] } _ _ rfl after _ _ _
      tally
    have whole := (Path.here.pass goes).trans path
    rw [List.append_nil] at whole
    exact ⟨moments, last, whole, halted, tells, stats, told⟩
  | cons script left =>
    have some_left : c.stats.hasRemaining = true := more.mpr (Nat.succ_pos _)
    have cancels : Turn plan scripts c (some .tell) _ := .cancels stands after some_left
    obtain ⟨moments, last, path, halted, tells, stats, told⟩ := @ends_path plan scripts (script :: left)
      { c with
        site := ⟨c.site.world.log (Suite.cancelingEvent plan.suite .testFailure), c.site.threads⟩
        reason := some .testFailure
        told := c.told ++ [.runCanceled .testFailure]
        stage := .choosing (index + 1) (script :: left) } _ _ rfl rfl _ _ _ tally
    refine ⟨_, last, (Path.one cancels).trans path, halted, ?_, ?_, ?_⟩
    · intro m member
      rcases List.mem_append.mp member with own | first
      · exact tells m own
      · obtain rfl := List.mem_singleton.mp first
        rfl
    · rw [stats, Nat.zero_add]
    · rw [told]
      simp [Suite.stopping]

-- The second run takes the steps of the first up to where the first test failed, whoever
-- else acts meanwhile, and then only tells what it has to tell.
theorem Path.truncates (path : Path patient scripts (opening site scripts) moments c) (idle : ∀ test, site.Idle test)
    (differ : patient.Hurried eager) (going : c.reason = none) :
    ((∀ outcome ∈ c.outcomes, outcome = .success) ∧
      ∃ told, Path eager scripts (opening site scripts) moments { c with told } ∧
        List.Forall₂ SuiteEvent.Same c.told told) ∨
      ∃ test shared rest own last, FirstFailure c.outcomes test ∧ moments = rest ++ shared ∧
        Path eager scripts (opening site scripts) (own ++ shared) last ∧ (∀ m ∈ own, m.deed = .tell) ∧
        last.stage = .ended ∧ CutAt scripts eager test c.told last.told last.stats := by
  rcases passes_or_fails c.outcomes with passed | ⟨test, first⟩
  · exact .inl ⟨passed, path.hurries differ rfl going passed⟩
  · right
    obtain ⟨shared, rest, early, next, outcome, event, rfl, stops⟩ := path.stops_at rfl first
    obtain ⟨index, left, stands⟩ := stops.stands
    have unmoved := stops.later.began going
    obtain ⟨told, hurried, same⟩ := stops.path.hurries differ rfl (stops.turn.unreasoned unmoved).1 stops.passed
    obtain ⟨told', turn, same'⟩ := stops.turn.hurries differ unmoved
      (fun outcome index left same => absurd same (stops.fresh outcome index left)) same
    obtain ⟨count, skipped, place, tally⟩ := (stops.path.pass stops.turn).counted idle stands
    have ended : index = test := by
      rw [outcomes_concat stops.ends stops.told, List.length_append, stops.count] at count
      simpa using count.symm
    subst ended
    have whole : scripts.length = next.outcomes.length + left.length := by
      rw [count, ← skipped, List.length_drop]
      omega
    obtain ⟨own, last, path', halted', tells, stats, told''⟩ :=
      @stops_path eager scripts left { next with told := told' } index outcome differ.stops stands unmoved stops.failed
        _ _ tally whole
    refine ⟨index, shared, rest, own, last, first, rfl, (hurried.pass turn).trans path', tells, halted', ?_⟩
    have ran : next.outcomes = c.outcomes.take (index + 1) := by
      have grown : next.outcomes <+: c.outcomes := stops.later.told_grows.filterMap SuiteEvent.outcome?
      rw [← count]
      exact List.prefix_iff_eq_take.mp grown
    rw [told'']
    apply CutAt.of first
    · rw [stops.through, skipped]
      exact List.rel_append same' (List.forall₂_same.mpr fun event member => .same)
    · rw [stats, ran, ← skipped, List.length_drop, Nat.sub_sub]

theorem Path.undisturbed (path : Path patient scripts (opening site scripts) moments c)
    (goesOn : patient.failFast = false) (unheeded : ∀ m ∈ moments, m.heeds? = none) : c.reason = none := by
  have start : Abides scripts (opening site scripts) (.opening (opening site scripts).site.unwatched scripts) :=
    ⟨rfl, rfl, rfl, .opening⟩
  obtain ⟨_, -, abides⟩ := path.follows goesOn unheeded start
  exact abides.going

theorem Path.outcomes_all (path : Path plan scripts (opening site scripts) moments c) (idle : ∀ test, site.Idle test)
    (going : c.reason = none) (halted : c.stage = .ended) : c.outcomes.length = scripts.length := by
  have names := congrArg List.length (path.everyone idle going halted)
  rw [List.length_map, reported, List.length_map, List.length_map] at names
  rw [outcomes, SuiteEvent.outcomes_finish, List.length_map, names]

-- To stop at failures only cuts a suite run off. Where every test passes nothing is
-- different. Otherwise nothing is up to the first test that does not pass, with which the
-- run ends: in whatever order the threads around it act, and when it is carried out with a
-- host that returns no error.
theorem fail_fast_truncates (idle : ∀ test, site.Idle test) (differ : patient.Hurried eager) :
    (∀ moments c, Path patient scripts (opening site scripts) moments c → (∀ m ∈ moments, m.heeds? = none) →
      (c.stage = .ended → c.outcomes.length = scripts.length) ∧
      (((∀ outcome ∈ c.outcomes, outcome = .success) ∧
          ∃ told, Path eager scripts (opening site scripts) moments { c with told } ∧
            List.Forall₂ SuiteEvent.Same c.told told) ∨
        ∃ test shared rest own last, FirstFailure c.outcomes test ∧ moments = rest ++ shared ∧
          Path eager scripts (opening site scripts) (own ++ shared) last ∧ (∀ m ∈ own, m.deed = .tell) ∧
          last.stage = .ended ∧ CutAt scripts eager test c.told last.told last.stats)) ∧
    ∀ (σ : Type) (host : Host σ) (calm : σ → Prop) (heard : σ), host.Unfailing calm → host.Untimed patient eager →
      calm heard → (scripts.map (·.name)).Nodup →
      (Suite.execute patient host ⟨scripts, site.world⟩ heard).1.reason = none →
      ∃ ours theirs stats stats', Suite.execute patient host ⟨scripts, site.world⟩ heard = (ours, .finished stats) ∧
        Suite.execute eager host ⟨scripts, site.world⟩ heard = (theirs, .finished stats') ∧
        ours.outcomes.length = scripts.length ∧
        (((∀ outcome ∈ ours.outcomes, outcome = .success) ∧ ours.Like theirs ∧ stats' = stats) ∨
          ∃ test, FirstFailure ours.outcomes test ∧ CutAt scripts eager test ours.told theirs.told stats') := by
  constructor
  · intro moments c path unheeded
    have going := path.undisturbed differ.goesOn unheeded
    exact ⟨path.outcomes_all idle going, path.truncates idle differ going⟩
  · intro σ host calm heard unfailing times kept distinct undisturbed
    exact SuiteState.execute_truncates differ unfailing times kept distinct undisturbed

-- The first of two tests fails. A suite that stops there is told of one end and one test
-- that is skipped.
theorem fail_fast_truncates_broken :
    (∃ moments c shared rest own last,
      Path (brokenPlan false) brokenScripts (opening brokenSite brokenScripts) moments c ∧
      c.stage = .ended ∧ c.outcomes = [.fail, .success] ∧ moments = rest ++ shared ∧
      Path (brokenPlan true) brokenScripts (opening brokenSite brokenScripts) (own ++ shared) last ∧
      last.stage = .ended ∧ CutAt brokenScripts (brokenPlan true) 0 c.told last.told last.stats) ∧
    ∃ ours theirs stats stats',
      Suite.execute (brokenPlan false) (HookHost.host []) ⟨brokenScripts, brokenSite.world⟩ ⟨0, none, .fresh⟩ =
        (ours, .finished stats) ∧
      Suite.execute (brokenPlan true) (HookHost.host []) ⟨brokenScripts, brokenSite.world⟩ ⟨0, none, .fresh⟩ =
        (theirs, .finished stats') ∧
      CutAt brokenScripts (brokenPlan true) 0 ours.told theirs.told stats' := by
  have differ : (brokenPlan false).Hurried (brokenPlan true) := ⟨rfl, rfl, rfl, rfl, rfl⟩
  have quiet : (HookHost.host []).Quiet fun state => state.reporter = none := by
    apply HookHost.host_quiet
    intro hook member
    cases member
  have outcomes : (Suite.execute (brokenPlan false) (HookHost.host []) ⟨brokenScripts, brokenSite.world⟩
      ⟨0, none, .fresh⟩).1.outcomes = [.fail, .success] := by decide +kernel
  have undisturbed : (Suite.execute (brokenPlan false) (HookHost.host []) ⟨brokenScripts, brokenSite.world⟩
      ⟨0, none, .fresh⟩).1.reason = none := by decide +kernel
  have broken : Outcome.fail ≠ .success := by decide
  obtain ⟨paths, runs⟩ := @fail_fast_truncates _ _ brokenScripts brokenSite broken_idle differ
  constructor
  · obtain ⟨moments, c, heard, path, halted, same⟩ :=
      @execute_path _ (brokenPlan false) brokenScripts _ _ quiet _ broken_idle (Nat.le_refl 2) rfl ⟨0, none, .fresh⟩ rfl
    rw [same] at outcomes undisturbed
    have ran : c.outcomes = [.fail, .success] := outcomes
    obtain ⟨-, passed | ⟨test, shared, rest, own, last, first, parts, path', -, halted', cut⟩⟩ :=
      paths moments c path (path.unheeded undisturbed)
    · exact absurd (passed.1 .fail (by simp [ran])) broken
    · rw [ran] at first
      obtain rfl := first.head broken
      exact ⟨moments, c, shared, rest, own, last, path, halted, ran, parts, path', halted', cut⟩
  · obtain ⟨ours, theirs, stats, stats', ended, ended', -, passed | ⟨test, first, cut⟩⟩ :=
      runs _ _ _ _ quiet.unfails ⟨fun _ _ _ _ => rfl, fun _ _ => rfl⟩ rfl (by decide) undisturbed
    · rw [ended] at outcomes
      exact absurd (passed.1 .fail (by simp [outcomes])) broken
    · rw [ended] at outcomes
      have ran : ours.outcomes = [.fail, .success] := outcomes
      rw [ran] at first
      obtain rfl := first.head broken
      exact ⟨ours, theirs, stats, stats', ended, ended', cut⟩

end Scene
end TrialBench
