import TrialBench.Proofs.Runs
import TrialBench.Suite.Runner
namespace TrialBench

-- Where a suite run stands. Others may act between any two of its turns.
inductive Stage where
  | opening
  | choosing (index : Nat) (left : List Script)
  -- The test has got its deadline and is about to be announced.
  | introducing (index : Nat) (script : Script) (left : List Script)
  | starting (index : Nat) (script : Script) (left : List Script)
  | running (thread index : Nat) (script : Script) (left : List Script)
  | closing (rest : Closing) (index : Nat) (script : Script) (left : List Script)
  -- The end of the test was told, and it may be a reason to stop.
  | considering (outcome : Outcome) (index : Nat) (left : List Script)
  | ended

-- A suite run on a site, with what it has counted and told.
structure Scene where
  site : Site
  stats : Stats
  reason : Option CancelReason
  told : List SuiteEvent
  stage : Stage

-- What the others do around a suite run. They run no tests and set none up.
def Deed.Outside : Deed → Prop
  | .work _ _ | .hire | .mark _ _ | .elapse _ | .tell => True
  | _ => False

def Deed.Calm : Deed → Prop
  | .begin _ | .advance _ _ _ | .heed _ _ _ => False
  | _ => True

def SuitePlan.reasonAfter (plan : SuitePlan) (reason : Option CancelReason) (outcome : Outcome) :
    Option CancelReason :=
  if plan.failFast ∧ reason.isNone ∧ ¬ outcome.isSuccess then some .testFailure else reason

def Stage.Running : Stage → Prop
  | .running _ _ _ _ => True
  | _ => False

def Stage.Unhurried : Stage → Prop
  | .opening | .introducing _ _ _ | .starting _ _ _ => True
  | _ => False

namespace Scene

def opening (site : Site) (scripts : List Script) : Scene :=
  ⟨⟨{ site.world with signals := [] }, site.threads⟩, .start scripts.length, none, [], .opening⟩

-- What can happen next, with the deed that the site remembers of it, if any.
inductive Turn (plan : SuitePlan) (scripts : List Script) : Scene → Option Deed → Scene → Prop where
  | aside {c : Scene} {deed : Deed} {next : Site} (step : Site.Step c.site deed next) (outside : deed.Outside) :
      Turn plan scripts c (some deed) { c with site := next }
  | opens {c : Scene} (stands : c.stage = .opening) :
      Turn plan scripts c none
        { c with told := c.told ++ [.runStarted plan.suite scripts.length], stage := .choosing 0 scripts }
  | skips {c : Scene} {index : Nat} {script : Script} {left : List Script} {reason : CancelReason}
      (stands : c.stage = .choosing index (script :: left)) (stopped : c.reason = some reason) :
      Turn plan scripts c none
        { c with
          stats := c.stats.skip
          told := c.told ++ [.testSkipped script.name reason]
          stage := .choosing (index + 1) left }
  | retimes {c : Scene} {index : Nat} {script : Script} {left : List Script} {next : Site}
      (stands : c.stage = .choosing index (script :: left)) (going : c.reason = none)
      (step : Site.Step c.site (.retime index plan.timeout) next) :
      Turn plan scripts c (some (.retime index plan.timeout))
        { c with site := next, stage := .introducing index script left }
  | introduces {c : Scene} {index : Nat} {script : Script} {left : List Script} {cell : TestCell}
      (stands : c.stage = .introducing index script left) (found : c.site.world.test? index = some cell) :
      Turn plan scripts c (some .tell)
        { c with
          site := ⟨c.site.world.log (World.startEvent cell c.site.world.device Closing.logTag plan.suite),
            c.site.threads⟩
          told := c.told ++ [.testStarted script.name index]
          stage := .starting index script left }
  | begins {c : Scene} {index : Nat} {script : Script} {left : List Script} {cell : TestCell}
      (stands : c.stage = .starting index script left) (found : c.site.world.test? index = some cell)
      (idle : c.site.Idle index) :
      Turn plan scripts c (some (.begin index))
        { c with
          site := ⟨c.site.world,
            c.site.threads ++ [.run index plan.watched (.start (script.bodyOf cell.runs))]⟩
          stage := .running c.site.threads.length index script left }
  | polls {c : Scene} {thread index : Nat} {script : Script} {left : List Script} {deed : Deed} {next : Site}
      (stands : c.stage = .running thread index script left) (step : Site.Step c.site deed next)
      (own : (∃ p, deed = .advance thread index p) ∨ deed = .rest thread index) :
      Turn plan scripts c (some deed) { c with site := next }
  | heeds {c : Scene} {thread index : Nat} {script : Script} {left : List Script} {event : ShutdownEvent}
      {next : Site} (stands : c.stage = .running thread index script left)
      (step : Site.Step c.site (.heed thread index event) next) :
      Turn plan scripts c (some (.heed thread index event))
        { c with site := next, reason := some (.signal event) }
  | collects {c : Scene} {thread index : Nat} {script : Script} {left : List Script} {watched : Bool}
      {result : RunResult} (stands : c.stage = .running thread index script left)
      (resolved : c.site.threads[thread]? = some (.run index watched (.done result))) :
      Turn plan scripts c none { c with stage := .closing (.returned result) index script left }
  | closes {c : Scene} {index : Nat} {script : Script} {left : List Script} {rest later : Closing} {deed : Deed}
      {w : World} (stands : c.stage = .closing rest index script left)
      (moved : rest.advance plan.suite index c.site.world = .moved w later)
      (step : Site.Step c.site deed ⟨w, c.site.threads⟩) (own : deed = .tell ∨ deed = .mark index .fail) :
      Turn plan scripts c (some deed)
        { c with site := ⟨w, c.site.threads⟩, stage := .closing later index script left }
  | passes {c : Scene} {index : Nat} {script : Script} {left : List Script} {rest later : Closing}
      (stands : c.stage = .closing rest index script left)
      (moved : rest.advance plan.suite index c.site.world = .moved c.site.world later) :
      Turn plan scripts c none { c with stage := .closing later index script left }
  | concludes {c : Scene} {index : Nat} {script : Script} {left : List Script} {rest : Closing} {outcome : Outcome}
      (stands : c.stage = .closing rest index script left)
      (closed : rest.advance plan.suite index c.site.world = .closed outcome) :
      Turn plan scripts c none
        { c with
          stats := c.stats.finish outcome
          told := c.told ++ [.testFinished script.name outcome
            (plan.testSpan (c.stats.finish outcome).finishedCount) (c.stats.finish outcome)]
          stage := .considering outcome index left }
  | goesOn {c : Scene} {index : Nat} {left : List Script} {outcome : Outcome}
      (stands : c.stage = .considering outcome index left)
      (silent : plan.reasonAfter c.reason outcome = none ∨ c.stats.hasRemaining = false) :
      Turn plan scripts c none
        { c with reason := plan.reasonAfter c.reason outcome, stage := .choosing (index + 1) left }
  | cancels {c : Scene} {index : Nat} {left : List Script} {outcome : Outcome} {reason : CancelReason}
      (stands : c.stage = .considering outcome index left)
      (stopped : plan.reasonAfter c.reason outcome = some reason) (more : c.stats.hasRemaining = true) :
      Turn plan scripts c (some .tell)
        { c with
          site := ⟨c.site.world.log (Suite.cancelingEvent plan.suite reason), c.site.threads⟩
          reason := some reason
          told := c.told ++ [.runCanceled reason]
          stage := .choosing (index + 1) left }
  | finishes {c : Scene} {index : Nat} (stands : c.stage = .choosing index []) :
      Turn plan scripts c (some .tell)
        { c with
          site := ⟨c.site.world.log (Suite.finishedEvent plan.suite c.stats), c.site.threads⟩
          told := c.told ++ [.runFinished plan.suite plan.runSpan c.stats]
          stage := .ended }

inductive Path (plan : SuitePlan) (scripts : List Script) (start : Scene) : List Moment → Scene → Prop where
  | here : Path plan scripts start [] start
  | act {moments : List Moment} {c next : Scene} {deed : Deed} (path : Path plan scripts start moments c)
      (turn : Turn plan scripts c (some deed) next) :
      Path plan scripts start (⟨c.site.world, deed⟩ :: moments) next
  | pass {moments : List Moment} {c next : Scene} (path : Path plan scripts start moments c)
      (turn : Turn plan scripts c none next) : Path plan scripts start moments next

-- A suite run that was stopped when it told of an event. The others go on, but it takes no
-- more turns.
inductive Halted (plan : SuitePlan) (scripts : List Script) (start : Scene) :
    List Moment → SuiteEvent → Scene → Prop where
  | act {moments : List Moment} {c next : Scene} {deed : Deed} {event : SuiteEvent}
      (path : Path plan scripts start moments c) (turn : Turn plan scripts c (some deed) next)
      (told : next.told = c.told ++ [event]) : Halted plan scripts start (⟨c.site.world, deed⟩ :: moments) event next
  | pass {moments : List Moment} {c next : Scene} {event : SuiteEvent} (path : Path plan scripts start moments c)
      (turn : Turn plan scripts c none next) (told : next.told = c.told ++ [event]) :
      Halted plan scripts start moments event next
  | aside {moments : List Moment} {c : Scene} {deed : Deed} {event : SuiteEvent} {next : Site}
      (halted : Halted plan scripts start moments event c) (step : Site.Step c.site deed next)
      (outside : deed.Outside) :
      Halted plan scripts start (⟨c.site.world, deed⟩ :: moments) event { c with site := next }

variable {plan : SuitePlan} {scripts : List Script} {start c next : Scene} {deed : Deed}
  {history first second moments : List Moment} {site : Site} {event : SuiteEvent}

theorem Turn.step (turn : Turn plan scripts c (some deed) next) : Site.Step c.site deed next.site := by
  cases turn with
  | aside step | retimes _ _ step | polls _ step | heeds _ step | closes _ _ step => exact step
  | introduces | cancels | finishes => exact .tell
  | begins stands found idle => exact .begin (World.known_of_test? found) idle

theorem Turn.still (turn : Turn plan scripts c none next) : next.site = c.site := by
  cases turn <;> rfl

theorem Path.reached (path : Path plan scripts start moments c) (reached : Site.Reached history start.site) :
    Site.Reached (moments ++ history) c.site := by
  induction path with
  | here => exact reached
  | act path turn ih => exact ih.step turn.step
  | pass path turn ih => rwa [turn.still]

theorem Path.trans (one : Path plan scripts start first c) (two : Path plan scripts c second next) :
    Path plan scripts start (second ++ first) next := by
  induction two with
  | here => exact one
  | act path turn ih => exact ih.act turn
  | pass path turn ih => exact ih.pass turn

theorem Path.one (turn : Turn plan scripts c (some deed) next) :
    Path plan scripts c [⟨c.site.world, deed⟩] next := Path.here.act turn

theorem Halted.path (halted : Halted plan scripts start moments event c) : Path plan scripts start moments c := by
  induction halted with
  | act path turn => exact path.act turn
  | pass path turn => exact path.pass turn
  | aside halted step outside ih => exact ih.act (.aside step outside)

theorem Halted.after (path : Path plan scripts start first c) (halted : Halted plan scripts c second event next) :
    Halted plan scripts start (second ++ first) event next := by
  induction halted with
  | act later turn told => exact .act (path.trans later) turn told
  | pass later turn told => exact .pass (path.trans later) turn told
  | aside halted step outside ih => exact ih.aside step outside

theorem opening_reached (reached : Site.Reached history site) :
    Site.Reached (⟨site.world, .listen⟩ :: history) (opening site scripts).site := reached.step .listen

end Scene

namespace Site
variable {s next : Site} {deed : Deed} {i test : Nat} {watched : Bool} {p : Phase}

theorem Step.calm (step : Step s deed next) (calm : deed.Calm) :
    next.threads[i]? = some (.run test watched p) ↔ s.threads[i]? = some (.run test watched p) := by
  constructor
  · intro seat
    cases step.became seat with
    | kept place => exact place
    | rested place => exact place
    | begun _ did | advanced _ did | heeded _ did =>
      subst did
      exact calm.elim
  · intro seat
    obtain ⟨watched', p', seat', same, stood⟩ := step.run_stays seat
    rcases same with rfl | ⟨event, rfl⟩
    · rcases stood with rfl | ⟨rfl, -⟩
      · exact seat'
      · exact calm.elim
    · exact calm.elim

theorem Step.calm_idle (step : Step s deed next) (calm : deed.Calm) (idle : s.Idle test) : next.Idle test := by
  intro watched p member
  obtain ⟨i, seat⟩ := List.getElem?_of_mem member
  exact idle watched p (List.mem_of_getElem? ((step.calm calm).mp seat))

end Site

namespace Scene
variable {plan : SuitePlan} {scripts : List Script} {start c next : Scene} {deed : Deed} {done : Option Deed}
  {moments : List Moment} {site : Site} {thread index : Nat} {script : Script} {left : List Script}

theorem outside_calm (outside : deed.Outside) : deed.Calm := by
  cases deed <;> trivial

-- What is known of a suite run by the place where it stands. Only the run of the test
-- that it waits for is live, and that one looks at the signals until there is a reason
-- to stop.
structure Standing (plan : SuitePlan) (c : Scene) : Prop where
  unhurried : c.stage.Unhurried → c.reason = none
  idle : ¬ c.stage.Running → ∀ test, c.site.Idle test
  seated : ∀ thread index script left, c.stage = .running thread index script left →
    ∃ p, c.site.threads[thread]? = some (.run index (plan.watched && c.reason.isNone) p)
  alone : ∀ thread index script left, c.stage = .running thread index script left →
    ∀ j own watched p, c.site.threads[j]? = some (.run own watched p) → p.Live → j = thread

theorem Standing.between (stands : ¬ c.stage.Running) (unhurried : c.stage.Unhurried → c.reason = none)
    (idle : ∀ test, c.site.Idle test) : Standing plan c := by
  refine ⟨unhurried, fun _ => idle, ?_, ?_⟩
  · intro thread index script left same
    rw [same] at stands
    exact absurd trivial stands
  · intro thread index script left same
    rw [same] at stands
    exact absurd trivial stands

theorem opening_standing (idle : ∀ test, site.Idle test) : Standing plan (opening site scripts) :=
  .between id (fun _ => rfl) idle

theorem Standing.calm {next : Site} (standing : Standing plan c) (step : Site.Step c.site deed next)
    (calm : deed.Calm) : Standing plan { c with site := next } := by
  refine ⟨standing.unhurried, ?_, ?_, ?_⟩
  · intro between test
    exact step.calm_idle calm (standing.idle between test)
  · intro thread index script left same
    obtain ⟨p, seat⟩ := standing.seated thread index script left same
    exact ⟨p, (step.calm calm).mpr seat⟩
  · intro thread index script left same j own watched p seat live
    exact standing.alone thread index script left same j own watched p ((step.calm calm).mp seat) live

theorem Standing.idle_at {stage : Stage} (standing : Standing plan c) (stands : c.stage = stage)
    (between : ¬ stage.Running) : ∀ test, c.site.Idle test := by
  rw [← stands] at between
  exact standing.idle between

theorem Standing.unhurried_at {stage : Stage} (standing : Standing plan c) (stands : c.stage = stage)
    (early : stage.Unhurried) : c.reason = none := by
  rw [← stands] at early
  exact standing.unhurried early

theorem Standing.resolved (standing : Standing plan c) (stands : c.stage = .running thread index script left)
    {watched : Bool} {result : RunResult}
    (resolved : c.site.threads[thread]? = some (.run index watched (.done result))) : ∀ test, c.site.Idle test := by
  intro test watched p member live
  obtain ⟨j, seat⟩ := List.getElem?_of_mem member
  obtain rfl := standing.alone thread index script left stands j test watched p seat live
  cases resolved.symm.trans seat
  exact live

theorem Standing.still_alone {next : Site} (standing : Standing plan c)
    (stands : c.stage = .running thread index script left) (step : Site.Step c.site deed next)
    (unbegun : ∀ test, deed ≠ .begin test) {j own : Nat} {watched : Bool} {p : Phase}
    (seat : next.threads[j]? = some (.run own watched p)) (live : p.Live) : j = thread := by
  have alone := standing.alone thread index script left stands
  cases step.became seat with
  | kept before => exact alone j own watched p before live
  | begun vacant did => exact absurd did (unbegun own)
  | advanced before did moved => exact alone j own watched _ before (Site.live_of_moved moved)
  | heeded before did => exact alone j own true p before live
  | rested before did => exact alone j own watched p before live

theorem Standing.run (stands : c.stage = .running thread index script left)
    {next : Site} {reason : Option CancelReason} {watched : Bool} {p : Phase} (standing : Standing plan c)
    (step : Site.Step c.site deed next) (unbegun : ∀ test, deed ≠ .begin test)
    (seat : next.threads[thread]? = some (.run index watched p))
    (watching : watched = (plan.watched && reason.isNone)) :
    Standing plan { c with site := next, reason } := by
  refine ⟨?_, ?_, ?_, ?_⟩
  · intro early
    rw [stands] at early
    exact early.elim
  · intro between
    rw [stands] at between
    exact absurd trivial between
  · intro thread' index' script' left' same
    cases stands.symm.trans same
    exact ⟨p, by rw [← watching, seat]⟩
  · intro thread' index' script' left' same j own watched' q place live
    cases stands.symm.trans same
    exact standing.still_alone stands step unbegun place live

theorem Turn.standing (turn : Turn plan scripts c done next) (standing : Standing plan c) :
    Standing plan next := by
  cases turn with
  | aside step outside => exact standing.calm step (outside_calm outside)
  | opens stands | skips stands | passes stands | concludes stands | goesOn stands =>
    exact .between id False.elim (standing.idle_at stands id)
  | cancels stands | finishes stands => exact .between id False.elim (standing.idle_at stands id)
  | retimes stands going step =>
    exact .between id (fun _ => going) fun test => step.calm_idle trivial (standing.idle_at stands id test)
  | introduces stands found =>
    exact .between id (fun _ => standing.unhurried_at stands trivial) (standing.idle_at stands id)
  | @begins index script left cell stands found idle =>
    have going := standing.unhurried_at stands trivial
    refine ⟨False.elim, fun absent => absurd trivial absent, ?_, ?_⟩
    · intro thread index' script' left' same
      cases same
      refine ⟨.start (script.bodyOf cell.runs), ?_⟩
      rw [List.getElem?_concat_length, going, Option.isNone_none, Bool.and_true]
    · intro thread index' script' left' same j own watched p seat live
      cases same
      rcases Site.seat_concat seat with old | ⟨vacant, -⟩
      · exact absurd live (standing.idle_at stands id own watched p (List.mem_of_getElem? old))
      · exact vacant
  | @polls thread index script left deed site stands step own =>
    have unbegun : ∀ test, deed ≠ .begin test := by
      intro test same
      subst same
      rcases own with ⟨q, same⟩ | same <;> cases same
    obtain ⟨p, seat⟩ := standing.seated _ _ _ _ stands
    obtain ⟨watched', p', seat', rfl | ⟨event, rfl⟩, -⟩ := step.run_stays seat
    · exact standing.run stands step unbegun seat' rfl
    · rcases own with ⟨q, same⟩ | same <;> cases same
  | @heeds thread index script left event site stands step =>
    obtain ⟨p, seat⟩ : ∃ p, site.threads[thread]? = some (.run index false p) := by
      cases step with
      | heed there turned => exact ⟨_, List.getElem?_set_self (List.getElem?_eq_some_iff.mp there).1⟩
    exact standing.run stands step (fun test same => by cases same) seat (by simp)
  | collects stands resolved => exact .between id False.elim (standing.resolved stands resolved)
  | @closes index script left rest later deed w stands moved step own =>
    have calm : deed.Calm := by
      rcases own with rfl | rfl <;> trivial
    exact .between id False.elim fun test => step.calm_idle calm (standing.idle_at stands id test)

theorem Path.standing (path : Path plan scripts start moments c) (standing : Standing plan start) :
    Standing plan c := by
  induction path with
  | here => exact standing
  | act path turn ih => exact turn.standing ih
  | pass path turn ih => exact turn.standing ih

end Scene
end TrialBench
