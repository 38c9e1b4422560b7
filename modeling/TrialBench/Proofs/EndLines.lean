import TrialBench.Proofs.EventGrammar
import TrialBench.Proofs.Histories
namespace TrialBench

-- Verdicts that change nothing: all of them after a failure, passes after a pass.
theorem Outcome.markAll_same {start : Outcome} {marks : List Mark} :
    start.markAll marks = start ↔ start = .fail ∨ (start = .success ∧ .fail ∉ marks) ∨ marks = [] := by
  by_cases none_ : marks = []
  · subst none_
    simp [markAll]
  · have final := @markAll_terminal start marks none_
    cases start with
    | fail => simp [markAll_fail]
    | success => simp [markAll_success, none_]
    | notStarted | running =>
      simp only [none_, or_false, reduceCtorEq, false_and, iff_false]
      intro same
      rw [same] at final
      cases final

namespace Site
variable {s next start : Site} {deed : Deed} {test : Nat} {cell : TestCell} {moments : List Moment}

theorem outside_going {w : World} (outside : deed.Outside) : Moment.restarts test ⟨w, deed⟩ = false := by
  cases deed <;> first | rfl | exact outside.elim

theorem Step.marked (step : Step s deed next) (going : Moment.restarts test ⟨s.world, deed⟩ = false)
    (found : s.world.test? test = some cell) :
    ∃ later, next.world.test? test = some later ∧
      later.outcome = cell.outcome.markAll (Moment.markOn test ⟨s.world, deed⟩).toList := by
  refine ⟨_, by rw [step.effect.tests, found]; rfl, ?_⟩
  rw [Moment.touch_told, going]
  rfl

-- While the others are at work, the outcome of a test is what they add to it.
theorem Path.marked (path : Path (fun _ deed => deed.Outside) start moments s)
    (found : start.world.test? test = some cell) :
    ∃ later, s.world.test? test = some later ∧
      later.outcome = cell.outcome.markAll (moments.filterMap (·.markOn test)).reverse := by
  induction path with
  | here => exact ⟨cell, found, rfl⟩
  | @step moments s next deed path step outside ih =>
    obtain ⟨middle, there, earlier⟩ := ih
    obtain ⟨later, there, last⟩ := step.marked (outside_going outside) there
    refine ⟨later, there, ?_⟩
    rw [last, earlier, ← Outcome.markAll_append, List.filterMap_cons]
    cases Moment.markOn test ⟨s.world, deed⟩ <;> simp

end Site

namespace Closing
variable {suite : String} {test : Nat} {w v : World} {rest later : Closing} {outcome : Outcome}

theorem reading_from (moved : rest.advance suite test w = .moved v .reading) :
    rest = .announcing ∧ v = w.logEnd test logTag := by
  cases rest with
  | returned result => cases result <;> cases moved
  | announcing =>
    cases moved
    exact ⟨rfl, rfl⟩
  | _ => cases moved

theorem closed_reading (closed : rest.advance suite test w = .closed outcome) :
    rest = .reading ∧ outcome = w.outcomeOf test := by
  cases rest with
  | returned result => cases result <;> cases closed
  | reading =>
    cases closed
    exact ⟨rfl, rfl⟩
  | _ => cases closed

theorem logEnd_log {cell : TestCell} (found : w.test? test = some cell) :
    w.logEnd test logTag = w.log (World.endEvent cell logTag) := by
  unfold World.logEnd
  rw [found]

theorem advance_found {cell : TestCell} (moved : rest.advance suite test w = .moved v later)
    (found : w.test? test = some cell) : ∃ next, v.test? test = some next := by
  cases rest with
  | returned result => cases result <;> cases moved <;> exact ⟨cell, found⟩
  | noting =>
    cases moved
    exact ⟨_, by rw [World.mark, World.test?_onTest, if_pos rfl, found]; rfl⟩
  | announcing =>
    cases moved
    rw [logEnd_log found]
    exact ⟨cell, found⟩
  | reading => cases moved

theorem finish_reading : finish suite test w .reading = (w, w.outcomeOf test) := by
  rw [finish]
  rfl

-- When nobody comes between, the line on the end says what is counted.
theorem finish_agrees {cell : TestCell} (found : w.test? test = some cell) :
    ∃ last, (rest.finish suite test w).1.test? test = some last ∧ (rest.finish suite test w).2 = last.outcome ∧
      (rest ≠ .reading → (rest.finish suite test w).1.logs.getLast? = some (World.endEvent last logTag)) := by
  have told {w : World} {cell : TestCell} (found : w.test? test = some cell) : w.outcomeOf test = cell.outcome := by
    unfold World.outcomeOf
    rw [found]
  fun_induction finish suite test w rest generalizing cell with
  | case1 w rest outcome closed =>
    obtain ⟨rfl, rfl⟩ := closed_reading closed
    exact ⟨cell, found, told found, fun early => absurd rfl early⟩
  | case2 w rest v later moved ih =>
    by_cases reads : later = .reading
    · subst reads
      obtain ⟨rfl, rfl⟩ := reading_from moved
      rw [finish_reading, logEnd_log found]
      exact ⟨cell, found, told found, fun _ => by simp [World.log]⟩
    · obtain ⟨next, there⟩ := advance_found moved found
      obtain ⟨last, stands, agrees, line⟩ := ih there
      exact ⟨last, stands, agrees, fun _ => line reads⟩

end Closing

-- The test that a suite run is at.
def Stage.attempt? : Stage → Option Nat
  | .running _ index _ _ | .closing _ index _ _ => some index
  | _ => none

namespace Scene
variable {plan : SuitePlan} {scripts : List Script} {start c next : Scene} {done : Option Deed} {moments : List Moment}
  {index : Nat} {script : Script} {left : List Script} {name : String} {outcome : Outcome} {span : Span}
  {stats : Stats} {site : Site}

def Attempts (c : Scene) : Prop := ∀ index, c.stage.attempt? = some index → index < c.site.world.tests.length

theorem Turn.attempts (turn : Turn plan scripts c done next) (attempts : c.Attempts) : next.Attempts := by
  intro index at_
  cases turn with
  | aside step => exact step.known ▸ attempts index at_
  | polls stands step => exact step.known ▸ attempts index at_
  | heeds stands step => exact step.known ▸ attempts index at_
  | begins stands found =>
    cases at_
    exact World.known_of_test? found
  | collects stands | passes stands =>
    cases at_
    exact attempts _ (by rw [stands]; rfl)
  | closes stands moved step =>
    cases at_
    exact step.known ▸ attempts _ (by rw [stands]; rfl)
  | _ => cases at_

theorem Path.attempts (path : Path plan scripts start moments c) (attempts : start.Attempts) : c.Attempts := by
  induction path with
  | here => exact attempts
  | act path turn ih => exact turn.attempts ih
  | pass path turn ih => exact turn.attempts ih

-- The turn that writes the line on a test's end, with the test as it is then.
structure Announces (plan : SuitePlan) (scripts : List Script) (before after : Scene) (index : Nat) (script : Script)
    (cell : TestCell) : Prop where
  turn : Turn plan scripts before (some .tell) after
  stands : ∃ left, before.stage = .closing .announcing index script left ∧
    after.stage = .closing .reading index script left
  found : before.site.world.test? index = some cell
  line : after.site = ⟨before.site.world.log (World.endEvent cell Closing.logTag), before.site.threads⟩

theorem line_unmarked {line : LogEvent} {verdict : Mark}
    (step : Site.Step site (.mark index verdict) ⟨site.world.log line, site.threads⟩) : False := by
  generalize logged : (⟨site.world.log line, site.threads⟩ : Site) = next at step
  cases step
  exact World.mark_ne_log (congrArg (·.world) logged.symm)

-- Before a suite run reads an outcome it wrote the line, and since then only the others acted.
theorem Path.announced (path : Path plan scripts start moments c) (early : start.stage = .opening)
    (stands : c.stage = .closing .reading index script left) :
    ∃ earlier before after late cell, Path plan scripts start earlier before ∧
      moments = late ++ ⟨before.site.world, .tell⟩ :: earlier ∧ Announces plan scripts before after index script cell ∧
      Site.Path (fun _ deed => deed.Outside) after.site late c.site := by
  have attempts : start.Attempts := by
    intro index at_
    rw [early] at at_
    cases at_
  induction path with
  | here =>
    rw [early] at stands
    cases stands
  | @act moments c next deed path turn ih =>
    cases id turn with
    | aside step outside =>
      obtain ⟨earlier, before, after, late, cell, first, rfl, announces, calm⟩ := ih stands
      exact ⟨earlier, before, after, _, cell, first, rfl, announces, calm.step step outside⟩
    | polls at_ | heeds at_ => cases at_.symm.trans stands
    | @closes _ _ _ rest later _ w at_ moved step own =>
      cases stands
      obtain ⟨rfl, rfl⟩ := Closing.reading_from moved
      obtain ⟨cell, found⟩ := World.test?_of_known (path.attempts attempts index (by rw [at_]; rfl))
      have logged := @Closing.logEnd_log index c.site.world cell found
      rcases own with rfl | rfl
      · exact ⟨moments, c, _, [], cell, path, rfl, ⟨turn, ⟨left, at_, rfl⟩, found, by rw [logged]⟩, .here⟩
      · rw [logged] at step
        exact (line_unmarked step).elim
    | _ => cases stands
  | @pass moments c next path turn ih =>
    cases turn with
    | passes at_ moved =>
      cases stands
      obtain ⟨rfl, same⟩ := Closing.reading_from moved
      obtain ⟨cell, found⟩ := World.test?_of_known (path.attempts attempts index (by rw [at_]; rfl))
      rw [Closing.logEnd_log found] at same
      have logs := congrArg (fun w : World => w.logs.length) same
      simp [World.log] at logs
    | _ => cases stands

theorem Turn.finish (turn : Turn plan scripts c done next)
    (told : next.told = c.told ++ [.testFinished name outcome span stats]) :
    ∃ index script left, c.stage = .closing .reading index script left ∧ name = script.name ∧
      outcome = c.site.world.outcomeOf index ∧ stats = c.stats.finish outcome ∧ next.stats = stats := by
  cases turn with
  | concludes stands closed =>
    obtain ⟨rfl, rfl⟩ := Closing.closed_reading closed
    cases List.append_cancel_left told
    exact ⟨_, _, _, stands, rfl, rfl, rfl, rfl⟩
  | opens | skips | introduces | cancels | finishes => cases List.append_cancel_left told
  | _ => simp at told

-- The two reports on the end of a test: the line says what was stored when it was written, and
-- the event what was stored when it was read again. The others may have come between.
structure EndTold (plan : SuitePlan) (scripts : List Script) (start : Scene) (moments : List Moment) (c : Scene)
    (index : Nat) (script : Script) (cell : TestCell) (late : List Moment) (outcome : Outcome) : Prop where
  line : ∃ earlier before after, moments = late ++ ⟨before.site.world, .tell⟩ :: earlier ∧
    Path plan scripts start earlier before ∧ Announces plan scripts before after index script cell ∧
    Site.Path (fun _ deed => deed.Outside) after.site late c.site
  merged : outcome = cell.outcome.markAll (late.filterMap (·.markOn index)).reverse
  agrees : outcome = cell.outcome ↔ cell.outcome = .fail ∨
    (cell.outcome = .success ∧ ∀ m ∈ late, m.markOn index ≠ some .fail) ∨ ∀ m ∈ late, m.markOn index = none

theorem Path.endTold (path : Path plan scripts start moments c) (early : start.stage = .opening)
    (stands : c.stage = .closing .reading index script left) :
    ∃ cell late, EndTold plan scripts start moments c index script cell late (c.site.world.outcomeOf index) := by
  obtain ⟨earlier, before, after, late, cell, first, split, announces, calm⟩ := path.announced early stands
  have found : after.site.world.test? index = some cell := by
    rw [announces.line]
    exact announces.found
  obtain ⟨last, there, merged⟩ := calm.marked found
  have read : c.site.world.outcomeOf index = cell.outcome.markAll (late.filterMap (·.markOn index)).reverse := by
    unfold World.outcomeOf
    rw [there, ← merged]
  refine ⟨cell, late, ⟨earlier, before, after, split, first, announces, calm⟩, read, ?_⟩
  rw [read, Outcome.markAll_same]
  simp [List.filterMap_eq_nil_iff]

-- The event on a test's end and the count of it always say the same, and so does the line when
-- nothing that counts was noted between them.
theorem end_reports :
    (∀ moments c done next name outcome span stats, Path plan scripts (opening site scripts) moments c →
      Turn plan scripts c done next → next.told = c.told ++ [.testFinished name outcome span stats] →
      (stats = c.stats.finish outcome ∧ next.stats = stats) ∧ ∃ index script cell late, name = script.name ∧
        EndTold plan scripts (opening site scripts) moments c index script cell late outcome) ∧
    ∀ test w result cell, w.test? test = some cell → ∃ last,
      ((Closing.returned result).finish plan.suite test w).1.test? test = some last ∧
      ((Closing.returned result).finish plan.suite test w).2 = last.outcome ∧
      ((Closing.returned result).finish plan.suite test w).1.logs.getLast? =
        some (World.endEvent last Closing.logTag) := by
  constructor
  · intro moments c done next name outcome span stats path turn told
    obtain ⟨index, script, left, stands, rfl, rfl, rfl, same⟩ := turn.finish told
    obtain ⟨cell, late, ends⟩ := path.endTold rfl stands
    exact ⟨⟨rfl, same⟩, index, script, cell, late, rfl, ends⟩
  · intro test w result cell found
    obtain ⟨last, there, agrees, line⟩ := @Closing.finish_agrees plan.suite test w (.returned result) cell found
    exact ⟨last, there, agrees, line nofun⟩

def passingScripts : List Script := [⟨"passes", [[.mark .pass]]⟩]

def passingSite : Site where
  world := .fresh ⟨"device", "1.0"⟩ [] [.fresh "passes" (.ofSeconds 1)]
  threads := []

-- A failure that is noted after the line was written and before the outcome is read.
theorem interrupted_path : ∃ earlier before after c next cell span,
    Path (brokenPlan true) passingScripts (opening passingSite passingScripts) earlier before ∧
      Announces (brokenPlan true) passingScripts before after 0 ⟨"passes", [[.mark .pass]]⟩ cell ∧
      Site.Path (fun _ deed => deed.Outside) after.site [⟨after.site.world, .mark 0 .fail⟩] c.site ∧
      Path (brokenPlan true) passingScripts (opening passingSite passingScripts)
        (⟨after.site.world, .mark 0 .fail⟩ :: ⟨before.site.world, .tell⟩ :: earlier) c ∧
      Turn (brokenPlan true) passingScripts c none next ∧
      next.told = c.told ++ [.testFinished "passes" .fail span ⟨1, 1, 0, 1, 0, 0⟩] ∧ cell.outcome = .success := by
  have idle (test : Nat) : passingSite.Idle test := nofun
  have standing : Standing (brokenPlan true) (opening passingSite passingScripts) := opening_standing idle
  have start := @Path.here (brokenPlan true) passingScripts (opening passingSite passingScripts)
  have opened := start.pass (.opens rfl)
  have timed := opened.act (.retimes rfl rfl (.retime ((opened.standing standing).idle_at rfl id 0)))
  have told := timed.act (.introduces rfl rfl)
  have begun := told.act (.begins rfl rfl ((told.standing standing).idle_at rfl id 0))
  have ran := begun.trans (polls_path rfl (Site.progress_path 6 rfl))
  have collected := ran.pass (.collects rfl rfl)
  have returned := collected.pass (.passes rfl rfl)
  have announced := returned.act (.closes rfl rfl .tell (.inl rfl))
  have marked := announced.act (.aside (@Site.Step.mark _ 0 .fail) trivial)
  exact ⟨_, _, _, _, _, _, _, returned,
    ⟨.closes rfl rfl .tell (.inl rfl), ⟨_, rfl, rfl⟩, rfl, rfl⟩, .one .mark trivial, marked,
    .concludes rfl rfl, rfl, rfl⟩

theorem end_reports_interrupted : ∃ moments c next span, Path (brokenPlan true) passingScripts
      (opening passingSite passingScripts) moments c ∧ Turn (brokenPlan true) passingScripts c none next ∧
    next.told = c.told ++ [.testFinished "passes" .fail span ⟨1, 1, 0, 1, 0, 0⟩] ∧
    next.stats = ⟨1, 1, 0, 1, 0, 0⟩ ∧ ∃ index script cell late,
      EndTold (brokenPlan true) passingScripts (opening passingSite passingScripts) moments c index script cell late
        .fail := by
  obtain ⟨earlier, before, after, c, next, cell, span, -, -, -, path, turn, told, -⟩ := interrupted_path
  obtain ⟨⟨-, same⟩, index, script, cell, late, -, ends⟩ :=
    (@end_reports (brokenPlan true) passingScripts passingSite).1 _ _ _ _ _ _ _ _ path turn told
  exact ⟨_, c, next, span, path, turn, told, same, index, script, cell, late, ends⟩

-- So the line and the event do not always say the same.
theorem end_line_outdated : ¬ ∀ (plan : SuitePlan) (scripts : List Script) (site : Site) (earlier late : List Moment)
    (before after c next : Scene) (index : Nat) (script : Script) (cell : TestCell) (name : String) (outcome : Outcome)
    (span : Span) (stats : Stats), Path plan scripts (opening site scripts) earlier before →
      Announces plan scripts before after index script cell →
      Site.Path (fun _ deed => deed.Outside) after.site late c.site →
      Path plan scripts (opening site scripts) (late ++ ⟨before.site.world, .tell⟩ :: earlier) c →
      Turn plan scripts c none next → next.told = c.told ++ [.testFinished name outcome span stats] →
      cell.outcome = outcome := by
  intro agree
  obtain ⟨earlier, before, after, c, next, cell, span, path, announces, calm, whole, turn, told, passed⟩ :=
    interrupted_path
  have same := agree _ _ _ _ _ _ _ _ _ _ _ _ _ _ _ _ path announces calm whole turn told
  rw [passed] at same
  cases same

end Scene
end TrialBench
