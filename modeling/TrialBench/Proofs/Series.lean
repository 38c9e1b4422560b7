import TrialBench.Proofs.Counters
import TrialBench.Proofs.Shutdown
namespace TrialBench

-- A run that is not watched takes no shutdown event.
def Thread.unwatched : Thread → Thread
  | .run test _ p => .run test false p
  | .worker left => .worker left

def Site.unwatched (s : Site) : Site := ⟨s.world, s.threads.map Thread.unwatched⟩

-- The test that a deed is about.
def Deed.test? : Deed → Option Nat
  | .advance _ test _ | .heed _ test _ | .rest _ test | .begin test | .mark test _ | .retime test _ => some test
  | _ => none

namespace Site
variable {s next : Site} {deed : Deed} {i test other : Nat} {watched : Bool} {p : Phase}

theorem unwatched_run (seat : s.threads[i]? = some (.run test watched p)) :
    s.unwatched.threads[i]? = some (.run test false p) := by
  rw [unwatched, List.getElem?_map, seat]
  rfl

theorem unwatched_idle (idle : s.Idle test) : s.unwatched.Idle test := by
  intro watched p member
  obtain ⟨thread, there, same⟩ := List.mem_map.mp member
  cases thread with
  | worker left => cases same
  | run own watched p =>
    cases same
    exact idle watched p there

-- All that happens on a site would happen as well if nobody watched the signals, except
-- that one is taken.
theorem Step.unwatch (step : Step s deed next) (unheeded : Moment.heeds? ⟨s.world, deed⟩ = none) :
    Step s.unwatched deed next.unwatched := by
  have hired (action : Action) (owner : Nat) (w : World) :
      unwatched ⟨w, s.threads ++ [.worker [.act owner action]]⟩ =
        ⟨w, s.unwatched.threads ++ [.worker [.act owner action]]⟩ := by
    simp [unwatched, Thread.unwatched]
  cases step with
  | spawn =>
    rw [hired]
    exact .spawn
  | fire popped =>
    rw [hired]
    exact .fire popped
  | @begin test watched body known idle =>
    have began : unwatched ⟨s.world, s.threads ++ [.run test watched (.start body)]⟩ =
        ⟨s.world, s.unwatched.threads ++ [.run test false (.start body)]⟩ := by
      simp [unwatched, Thread.unwatched]
    rw [began]
    exact .begin known (unwatched_idle idle)
  | retime idle => exact .retime (unwatched_idle idle)
  | mark => exact .mark
  | tell => exact .tell
  | listen => exact .listen
  | elapse => exact .elapse
  | @work i op left seat =>
    have there : s.unwatched.threads[i]? = some (.worker (op :: left)) := by
      rw [unwatched, List.getElem?_map, seat]
      rfl
    have worked : unwatched ⟨(Op.step s.world op).1, s.threads.set i (.worker ((Op.step s.world op).2 ++ left))⟩ =
        ⟨(Op.step s.world op).1, s.unwatched.threads.set i (.worker ((Op.step s.world op).2 ++ left))⟩ := by
      simp [unwatched, Thread.unwatched, List.map_set]
    rw [worked]
    exact .work there
  | @advance i test watched p p' w seat turned =>
    have moved : unwatched ⟨w, s.threads.set i (.run test watched p')⟩ =
        ⟨w, s.unwatched.threads.set i (.run test false p')⟩ := by
      simp [unwatched, Thread.unwatched, List.map_set]
    rw [moved]
    exact .advance (unwatched_run seat) (Run.turn_moved.mpr (Run.turn_moved.mp turned))
  | heed => cases unheeded
  | rest seat turned =>
    obtain ⟨blocked, -⟩ := Run.turn_resting.mp turned
    exact .rest (unwatched_run seat) (Run.turn_resting.mpr ⟨blocked, fun watched => by cases watched⟩)

-- Whatever is done about a test, other than a step that its body asks for, leaves the
-- other tests as they are.
theorem Step.apart (step : Step s deed next) (about : deed.test? = some test)
    (own : Moment.op? ⟨s.world, deed⟩ = none) (differ : test ≠ other) :
    next.world.test? other = s.world.test? other := by
  have still (cell : TestCell) : Moment.touch other ⟨s.world, deed⟩ cell = cell := by
    cases deed with
    | advance thread named p =>
      cases about
      cases p with
      | body underway rest =>
        cases underway with
        | nil =>
          cases rest with
          | nil => rfl
          | cons first rest => cases first <;> simp [Moment.touch, Phase.touch, differ]
        | cons op ops => cases own
      | ended how => cases how <;> simp [Moment.touch, Phase.touch, differ]
      | _ => simp [Moment.touch, Phase.touch, differ]
    | heed thread named event | mark named verdict | retime named timeout =>
      cases about
      simp [Moment.touch, differ]
    | begin named | rest thread named => rfl
    | work | hire | elapse | listen | tell => cases about
  rw [step.effect.tests, funext still]
  exact Option.map_id'

end Site

-- Where running tests one after another stands.
inductive Series.Place where
  | next (index : Nat) (left : List Script)
  -- The test has got its deadline.
  | timed (index : Nat) (script : Script) (left : List Script)
  | running (thread index : Nat) (script : Script) (left : List Script)
  | returned (result : RunResult) (index : Nat) (script : Script) (left : List Script)
  -- An error was noted as a failure, and the outcome is about to be read.
  | settled (result : RunResult) (index : Nat) (script : Script) (left : List Script)

-- A test that was run, with what its run returned and the outcome that was read then.
structure Tried where
  name : String
  result : RunResult
  outcome : Outcome

structure Series where
  site : Site
  tried : List Tried
  place : Series.Place

namespace Series

-- Tests are run one by one: each gets its deadline, is run with nobody watching the
-- signals, and counts as failed when its body ended with an error.
inductive Turn (timeout : Duration) : Series → Option Deed → Series → Prop where
  | aside {s : Series} {deed : Deed} {next : Site} (step : Site.Step s.site deed next) (outside : deed.Outside) :
      Turn timeout s (some deed) { s with site := next }
  | retimes {s : Series} {index : Nat} {script : Script} {left : List Script} {next : Site}
      (stands : s.place = .next index (script :: left)) (step : Site.Step s.site (.retime index timeout) next) :
      Turn timeout s (some (.retime index timeout)) { s with site := next, place := .timed index script left }
  | begins {s : Series} {index : Nat} {script : Script} {left : List Script} {cell : TestCell}
      (stands : s.place = .timed index script left) (found : s.site.world.test? index = some cell)
      (idle : s.site.Idle index) :
      Turn timeout s (some (.begin index))
        { s with
          site := ⟨s.site.world, s.site.threads ++ [.run index false (.start (script.bodyOf cell.runs))]⟩
          place := .running s.site.threads.length index script left }
  | polls {s : Series} {thread index : Nat} {script : Script} {left : List Script} {deed : Deed} {next : Site}
      (stands : s.place = .running thread index script left) (step : Site.Step s.site deed next)
      (own : (∃ p, deed = .advance thread index p) ∨ deed = .rest thread index) :
      Turn timeout s (some deed) { s with site := next }
  | returns {s : Series} {thread index : Nat} {script : Script} {left : List Script} {result : RunResult}
      (stands : s.place = .running thread index script left)
      (resolved : s.site.threads[thread]? = some (.run index false (.done result))) :
      Turn timeout s none { s with place := .returned result index script left }
  | passes {s : Series} {index : Nat} {script : Script} {left : List Script} {outcome : Outcome}
      (stands : s.place = .returned (.finished outcome) index script left) :
      Turn timeout s none { s with place := .settled (.finished outcome) index script left }
  | fails {s : Series} {index : Nat} {script : Script} {left : List Script} {name : String} {cause : ErrorChain}
      (stands : s.place = .returned (.failed name cause) index script left) :
      Turn timeout s (some (.mark index .fail))
        { s with
          site := ⟨s.site.world.mark index .fail, s.site.threads⟩
          place := .settled (.failed name cause) index script left }
  -- To note a failure again changes nothing.
  | failed {s : Series} {index : Nat} {script : Script} {left : List Script} {name : String} {cause : ErrorChain}
      (stands : s.place = .returned (.failed name cause) index script left)
      (noted : s.site.world.mark index .fail = s.site.world) :
      Turn timeout s none { s with place := .settled (.failed name cause) index script left }
  | reads {s : Series} {index : Nat} {script : Script} {left : List Script} {result : RunResult}
      (stands : s.place = .settled result index script left) :
      Turn timeout s none
        { s with
          tried := s.tried ++ [⟨script.name, result, s.site.world.outcomeOf index⟩]
          place := .next (index + 1) left }

inductive Path (timeout : Duration) (start : Series) : List Moment → Series → Prop where
  | here : Path timeout start [] start
  | act {moments : List Moment} {s next : Series} {deed : Deed} (path : Path timeout start moments s)
      (turn : Turn timeout s (some deed) next) : Path timeout start (⟨s.site.world, deed⟩ :: moments) next
  | pass {moments : List Moment} {s next : Series} (path : Path timeout start moments s)
      (turn : Turn timeout s none next) : Path timeout start moments next

variable {timeout : Duration} {start s next : Series} {deed : Deed} {done : Option Deed}
  {first second moments : List Moment} {scripts : List Script}

theorem Path.trans (one : Path timeout start first s) (two : Path timeout s second next) :
    Path timeout start (second ++ first) next := by
  induction two with
  | here => exact one
  | act path turn ih => exact ih.act turn
  | pass path turn ih => exact ih.pass turn

def opening (site : Site) (scripts : List Script) : Series := ⟨site, [], .next 0 scripts⟩

end Series

namespace Scene
variable {plan : SuitePlan} {scripts : List Script} {start c next : Scene} {deed : Deed} {done : Option Deed}
  {moments : List Moment} {s : Series}

-- The place of a suite run, as running its tests one by one has it.
inductive Agrees (scripts : List Script) : Stage → Series.Place → Prop where
  | opening : Agrees scripts .opening (.next 0 scripts)
  | choosing {index : Nat} {left : List Script} : Agrees scripts (.choosing index left) (.next index left)
  | introducing {index : Nat} {script : Script} {left : List Script} :
      Agrees scripts (.introducing index script left) (.timed index script left)
  | starting {index : Nat} {script : Script} {left : List Script} :
      Agrees scripts (.starting index script left) (.timed index script left)
  | running {thread index : Nat} {script : Script} {left : List Script} :
      Agrees scripts (.running thread index script left) (.running thread index script left)
  | returned {result : RunResult} {index : Nat} {script : Script} {left : List Script} :
      Agrees scripts (.closing (.returned result) index script left) (.returned result index script left)
  | noting {name : String} {cause : ErrorChain} {index : Nat} {script : Script} {left : List Script} :
      Agrees scripts (.closing .noting index script left) (.returned (.failed name cause) index script left)
  | announcing {result : RunResult} {index : Nat} {script : Script} {left : List Script} :
      Agrees scripts (.closing .announcing index script left) (.settled result index script left)
  | reading {result : RunResult} {index : Nat} {script : Script} {left : List Script} :
      Agrees scripts (.closing .reading index script left) (.settled result index script left)
  | considering {outcome : Outcome} {index : Nat} {left : List Script} :
      Agrees scripts (.considering outcome index left) (.next (index + 1) left)
  | ended {index : Nat} : Agrees scripts .ended (.next index [])

def reported (told : List SuiteEvent) : List (String × Outcome) :=
  (told.filterMap SuiteEvent.finish?).map fun finish => (finish.1, finish.2.1)

structure Abides (scripts : List Script) (c : Scene) (s : Series) : Prop where
  site : s.site = c.site.unwatched
  going : c.reason = none
  told : reported c.told = s.tried.map fun tried => (tried.name, tried.outcome)
  place : Agrees scripts c.stage s.place

-- The same steps are taken from one place to another.
def Follows (plan : SuitePlan) (scripts : List Script) (c : Scene) (done : Option Deed) (next : Scene) (s : Series) :
    Prop :=
  ∃ later, Series.Path plan.timeout s (done.toList.map fun deed => ⟨c.site.world, deed⟩) later ∧
    Abides scripts next later

theorem Follows.act {later : Series} (same : s.site = c.site.unwatched)
    (turn : Series.Turn plan.timeout s (some deed) later) (abides : Abides scripts next later) :
    Follows plan scripts c (some deed) next s := by
  have path := Series.Path.here.act turn
  rw [same] at path
  exact ⟨later, path, abides⟩

theorem Follows.pass {later : Series} (turn : Series.Turn plan.timeout s none later)
    (abides : Abides scripts next later) : Follows plan scripts c none next s :=
  ⟨later, Series.Path.here.pass turn, abides⟩

theorem Follows.stay (abides : Abides scripts next s) : Follows plan scripts c none next s :=
  ⟨s, .here, abides⟩

theorem Follows.aside (abides : Abides scripts c s) (step : Site.Step c.site deed next.site)
    (outside : deed.Outside) (going : next.reason = none) (told : reported next.told = reported c.told)
    (place : Agrees scripts next.stage s.place) : Follows plan scripts c (some deed) next s := by
  have unheeded : Moment.heeds? ⟨c.site.world, deed⟩ = none := calm_unheeded (outside_calm outside)
  have unwatched := step.unwatch unheeded
  rw [← abides.site] at unwatched
  exact .act abides.site (.aside unwatched outside) ⟨rfl, going, told.trans abides.told, place⟩

theorem told_silent {event : SuiteEvent} (silent : event.finish? = none) {told : List SuiteEvent} :
    reported (told ++ [event]) = reported told := by
  unfold reported
  rw [List.filterMap_append, List.filterMap_cons_none silent]
  simp

theorem reasonAfter_patient {outcome : Outcome} (patient : plan.failFast = false) :
    plan.reasonAfter none outcome = none := by
  simp [SuitePlan.reasonAfter, patient]

theorem mark_untold {site : Site} {index : Nat}
    (step : Site.Step site .tell ⟨site.world.mark index .fail, site.threads⟩) : False := by
  generalize marked : (⟨site.world.mark index .fail, site.threads⟩ : Site) = next at step
  cases step
  exact World.mark_ne_log (congrArg (·.world) marked)

-- A run that returned an outcome leaves nothing to note.
theorem Follows.settles {index : Nat} {script : Script} {left : List Script} {outcome : Outcome}
    (follows : Follows plan scripts c done
      { next with stage := .closing (.returned (.finished outcome)) index script left } s) :
    Follows plan scripts c done { next with stage := .closing .announcing index script left } s := by
  obtain ⟨later, path, same, going, told, place⟩ := follows
  generalize stood : later.place = at_ at place
  cases place
  exact ⟨_, path.pass (.passes stood), same, going, told, .announcing⟩

theorem reported_finish {name : String} {outcome : Outcome} {span : Span} {stats : Stats} {told : List SuiteEvent} :
    reported (told ++ [.testFinished name outcome span stats]) = reported told ++ [(name, outcome)] := by
  unfold reported
  rw [List.filterMap_append, List.map_append]
  rfl

-- Of what comes after a run only the noted failure is a step of running tests one by one.
theorem Follows.closes {index : Nat} {script : Script} {left : List Script} {rest later : Closing} {w : World}
    (abides : Abides scripts c s) (stands : c.stage = .closing rest index script left)
    (moved : rest.advance plan.suite index c.site.world = .moved w later)
    (step : Site.Step c.site deed ⟨w, c.site.threads⟩) (own : deed = .tell ∨ deed = .mark index .fail) :
    Follows plan scripts c (some deed)
      { c with site := ⟨w, c.site.threads⟩, stage := .closing later index script left } s := by
  obtain ⟨same, going, told, place⟩ := id abides
  generalize stood : s.place = at_ at place
  rw [stands] at place
  have outside : deed.Outside := by
    rcases own with rfl | rfl <;> trivial
  cases place with
  | @returned result =>
    cases result with
    | finished outcome =>
      cases moved
      have arrived : Follows plan scripts c (some deed) { c with
          site := ⟨c.site.world, c.site.threads⟩
          stage := .closing (.returned (.finished outcome)) index script left } s :=
        .aside abides step outside going rfl (stood ▸ .returned)
      exact arrived.settles
    | failed name cause =>
      cases moved
      exact .aside abides step outside going rfl (stood ▸ .noting)
  | noting =>
    cases moved
    rcases own with rfl | rfl
    · exact (mark_untold step).elim
    · have turn : Series.Turn plan.timeout s _ _ := .fails stood
      exact .act same turn ⟨by rw [same]; rfl, going, told, .announcing⟩
  | announcing =>
    cases moved
    exact .aside abides step outside going rfl (stood ▸ .reading)
  | reading => cases moved

theorem Follows.passes {index : Nat} {script : Script} {left : List Script} {rest later : Closing}
    (abides : Abides scripts c s) (stands : c.stage = .closing rest index script left)
    (moved : rest.advance plan.suite index c.site.world = .moved c.site.world later) :
    Follows plan scripts c none { c with stage := .closing later index script left } s := by
  obtain ⟨same, going, told, place⟩ := abides
  generalize stood : s.place = at_ at place
  rw [stands] at place
  cases place with
  | @returned result =>
    cases result with
    | finished outcome =>
      obtain ⟨-, rfl⟩ := Closing.Progress.moved.inj moved
      exact .pass (.passes stood) ⟨same, going, told, .announcing⟩
    | failed name cause =>
      obtain ⟨-, rfl⟩ := Closing.Progress.moved.inj moved
      exact .stay ⟨same, going, told, stood ▸ .noting⟩
  | noting =>
    obtain ⟨noted, rfl⟩ := Closing.Progress.moved.inj moved
    exact .pass (.failed stood (by rw [same]; exact noted)) ⟨same, going, told, .announcing⟩
  | announcing =>
    obtain ⟨-, rfl⟩ := Closing.Progress.moved.inj moved
    exact .stay ⟨same, going, told, stood ▸ .reading⟩
  | reading => cases moved

theorem Turn.follows (turn : Turn plan scripts c done next) (patient : plan.failFast = false)
    (unheeded : ∀ deed, done = some deed → Moment.heeds? ⟨c.site.world, deed⟩ = none) (abides : Abides scripts c s) :
    Follows plan scripts c done next s := by
  obtain ⟨same, going, told, place⟩ := id abides
  generalize stood : s.place = at_ at place
  cases turn with
  | aside step outside => exact .aside abides step outside going rfl abides.place
  | opens stands =>
    rw [stands] at place
    cases place
    exact .stay ⟨same, going, (told_silent rfl).trans told, stood ▸ .choosing⟩
  | skips stands stopped => cases going.symm.trans stopped
  | retimes stands _ step =>
    rw [stands] at place
    cases place
    have unwatched := step.unwatch rfl
    rw [← same] at unwatched
    exact .act same (.retimes stood unwatched) ⟨rfl, going, told, .introducing⟩
  | introduces stands found =>
    rw [stands] at place
    cases place
    exact .aside abides .tell trivial going (told_silent rfl) (stood ▸ .starting)
  | @begins index script left cell stands found idle =>
    rw [stands] at place
    cases place
    have unwatched := Site.unwatched_idle idle
    rw [← same] at unwatched
    have turn : Series.Turn plan.timeout s _ _ := .begins stood (by rw [same]; exact found) unwatched
    refine .act same turn ⟨?_, going, told, ?_⟩
    · simp [same, Site.unwatched, Thread.unwatched]
    · simp only [same, Site.unwatched, List.length_map]
      exact .running
  | polls stands step own =>
    rw [stands] at place
    cases place
    have unwatched := step.unwatch (unheeded _ rfl)
    rw [← same] at unwatched
    refine .act same (.polls stood unwatched own) ⟨rfl, going, told, ?_⟩
    rw [stands, stood]
    exact .running
  | heeds => cases unheeded _ rfl
  | collects stands resolved =>
    rw [stands] at place
    cases place
    have unwatched := Site.unwatched_run resolved
    rw [← same] at unwatched
    exact .pass (.returns stood unwatched) ⟨same, going, told, .returned⟩
  | closes stands moved step own => exact .closes abides stands moved step own
  | passes stands moved => exact .passes abides stands moved
  | concludes stands closed =>
    rw [stands] at place
    cases place with
    | reading =>
      cases closed
      have read : Series.Turn plan.timeout s none _ := .reads stood
      refine .pass read ⟨same, going, ?_, .considering⟩
      rw [reported_finish, told, List.map_append, same]
      rfl
    | @returned result => cases result <;> cases closed
    | noting => cases closed
    | announcing => cases closed
  | goesOn stands silent =>
    rw [stands] at place
    cases place
    refine .stay ⟨same, ?_, told, stood ▸ .choosing⟩
    simp only [going]
    exact reasonAfter_patient patient
  | cancels stands stopped more =>
    rw [going, reasonAfter_patient patient] at stopped
    cases stopped
  | finishes stands =>
    rw [stands] at place
    cases place
    exact .aside abides .tell trivial going (told_silent rfl) (stood ▸ .ended)

theorem Path.follows (path : Path plan scripts start moments c) (patient : plan.failFast = false)
    (unheeded : ∀ m ∈ moments, m.heeds? = none) (abides : Abides scripts start s) :
    ∃ later, Series.Path plan.timeout s moments later ∧ Abides scripts c later := by
  induction path with
  | here => exact ⟨s, .here, abides⟩
  | act path turn ih =>
    obtain ⟨middle, before, abides⟩ := ih fun m member => unheeded m (List.mem_cons_of_mem _ member)
    have last := unheeded _ List.mem_cons_self
    obtain ⟨later, after, abides⟩ := turn.follows patient (fun deed same => by cases same; exact last) abides
    exact ⟨later, before.trans after, abides⟩
  | pass path turn ih =>
    obtain ⟨middle, before, abides⟩ := ih unheeded
    obtain ⟨later, after, abides⟩ := turn.follows patient (fun deed same => by cases same) abides
    exact ⟨later, before.trans after, abides⟩

end Scene

namespace Series
variable {timeout : Duration} {start s next : Series} {deed : Deed} {done : Option Deed} {moments : List Moment}

-- A test that is being run is there, and a noted failure stays.
def Place.Firm (w : World) : Place → Prop
  | .running _ index _ _ | .returned _ index _ _ => ∃ cell, w.test? index = some cell
  | .settled (.failed _ _) index _ _ => ∃ cell, w.test? index = some cell ∧ cell.outcome = .fail
  | _ => True

structure Firm (s : Series) : Prop where
  errors : ∀ tried ∈ s.tried, ∀ name cause, tried.result = .failed name cause → tried.outcome = .fail
  place : s.place.Firm s.site.world

theorem still_there {site next : Site} {index : Nat} (step : Site.Step site deed next)
    (there : ∃ cell, site.world.test? index = some cell) : ∃ cell, next.world.test? index = some cell := by
  obtain ⟨cell, found⟩ := there
  exact ⟨_, by rw [step.effect.tests, found]; rfl⟩

theorem Place.Firm.aside {place : Place} {site next : Site} (firm : place.Firm site.world)
    (step : Site.Step site deed next) (outside : deed.Outside) : place.Firm next.world := by
  cases place with
  | next index left | timed index script left => trivial
  | running thread index script left => exact still_there step firm
  | returned result index script left => exact still_there step firm
  | settled result index script left =>
    cases result with
    | finished outcome => trivial
    | failed name cause =>
      obtain ⟨cell, found, failure⟩ := firm
      have going : Moment.restarts index ⟨site.world, deed⟩ = false := by
        cases deed <;> first | rfl | exact outside.elim
      refine ⟨_, by rw [step.effect.tests, found]; rfl, ?_⟩
      rw [Moment.touch_told, going]
      exact Outcome.markAll_fail.mpr (.inl failure)

theorem Turn.firm (turn : Turn timeout s done next) (firm : s.Firm) : next.Firm := by
  obtain ⟨errors, place⟩ := firm
  cases turn with
  | aside step outside => exact ⟨errors, place.aside step outside⟩
  | retimes => exact ⟨errors, trivial⟩
  | begins stands found => exact ⟨errors, _, found⟩
  | polls stands step own =>
    rw [stands] at place
    refine ⟨errors, ?_⟩
    rw [stands]
    exact still_there step place
  | returns stands resolved =>
    rw [stands] at place
    exact ⟨errors, place⟩
  | passes stands => exact ⟨errors, trivial⟩
  | fails stands =>
    rw [stands] at place
    obtain ⟨cell, found⟩ := place
    refine ⟨errors, { cell with outcome := cell.outcome.mark .fail }, ?_, Outcome.mark_fail cell.outcome⟩
    simp [World.mark, World.test?_onTest, found]
  | @failed index script left name cause stands noted =>
    rw [stands] at place
    obtain ⟨cell, found⟩ := place
    refine ⟨errors, { cell with outcome := cell.outcome.mark .fail }, ?_, Outcome.mark_fail cell.outcome⟩
    have again :
        (s.site.world.mark index .fail).test? index = some { cell with outcome := cell.outcome.mark .fail } := by
      simp [World.mark, World.test?_onTest, found]
    rwa [noted] at again
  | @reads index script left result stands =>
    rw [stands] at place
    refine ⟨?_, trivial⟩
    intro tried member name cause failed
    rcases List.mem_append.mp member with old | new
    · exact errors tried old name cause failed
    · obtain rfl := List.mem_singleton.mp new
      cases failed
      obtain ⟨cell, found, failure⟩ := place
      simp only [World.outcomeOf, found]
      exact failure

theorem Path.firm (path : Path timeout start moments s) (firm : start.Firm) : s.Firm := by
  induction path with
  | here => exact firm
  | act path turn ih => exact turn.firm ih
  | pass path turn ih => exact turn.firm ih

end Series

namespace Scene
variable {plan : SuitePlan} {scripts : List Script} {start c next : Scene} {deed : Deed} {done : Option Deed}
  {moments : List Moment} {s : Series}

-- A suite that has no reason to stop has taken no shutdown event.
theorem Turn.unreasoned (turn : Turn plan scripts c done next) (going : next.reason = none) :
    c.reason = none ∧ ∀ deed, done = some deed → Moment.heeds? ⟨c.site.world, deed⟩ = none := by
  cases turn with
  | aside step outside =>
    exact ⟨going, fun deed same => by cases same; exact calm_unheeded (outside_calm outside)⟩
  | polls stands step own =>
    refine ⟨going, fun deed same => ?_⟩
    cases same
    rcases own with ⟨p, rfl⟩ | rfl <;> rfl
  | closes stands moved step own =>
    refine ⟨going, fun deed same => ?_⟩
    cases same
    rcases own with rfl | rfl <;> rfl
  | goesOn stands silent =>
    refine ⟨?_, fun deed same => by cases same⟩
    cases held : c.reason with
    | none => rfl
    | some reason => simp [held, SuitePlan.reasonAfter_kept] at going
  | retimes | introduces | begins | finishes => exact ⟨going, fun deed same => by cases same; rfl⟩
  | opens | skips | collects | passes | concludes => exact ⟨going, fun deed same => by cases same⟩
  | heeds | cancels => cases going

theorem Path.unheeded (path : Path plan scripts start moments c) (going : c.reason = none) :
    ∀ m ∈ moments, m.heeds? = none := by
  induction path with
  | here => exact fun m member => by cases member
  | act path turn ih =>
    obtain ⟨before, last⟩ := turn.unreasoned going
    intro m member
    rcases List.mem_cons.mp member with rfl | old
    · exact last _ rfl
    · exact ih before m old
  | pass path turn ih => exact ih (turn.unreasoned going).1

-- A suite that nobody stops goes on past its failures.
theorem Path.patient (path : Path plan scripts start moments c) (standing : Standing plan start)
    (patient : plan.failFast = false) (unwatched : plan.watched = false) (going : start.reason = none) :
    c.reason = none := by
  have kept {c next : Scene} {done : Option Deed} (turn : Turn plan scripts c done next)
      (standing : Standing plan c) (still : c.reason = none) : next.reason = none := by
    cases turn with
    | heeds stands step =>
      have watched := (standing.heed_parts stands step).1
      cases unwatched.symm.trans watched
    | cancels stands stopped =>
      rw [still, reasonAfter_patient patient] at stopped
      cases stopped
    | goesOn =>
      simp only [still]
      exact reasonAfter_patient patient
    | _ => exact still
  induction path with
  | here => exact going
  | act path turn ih => exact kept turn (path.standing standing) ih
  | pass path turn ih => exact kept turn (path.standing standing) ih

theorem finish_names {bench : Bench} {outcomes : List Outcome} (whole : outcomes.length = bench.scripts.length) :
    ((List.range outcomes.length).map (bench.finish outcomes)).map (·.1) = bench.scripts.map (·.name) := by
  apply List.ext_getElem?
  intro index
  rw [List.getElem?_map, List.getElem?_map, List.getElem?_map, whole]
  by_cases early : index < bench.scripts.length
  · rw [List.getElem?_range early, List.getElem?_eq_getElem early]
    simp [Bench.finish, early]
  · have late := Nat.le_of_not_lt early
    rw [List.getElem?_eq_none late, List.getElem?_eq_none (by simpa using late)]
    rfl

-- Every test of a suite that never stopped was run, in its order.
theorem Path.everyone {site : Site} (path : Path plan scripts (opening site scripts) moments c)
    (idle : ∀ test, site.Idle test) (going : c.reason = none) (halted : c.stage = .ended) :
    (reported c.told).map (·.1) = scripts.map (·.name) := by
  obtain ⟨outcomes, ⟨within, finished⟩, skipped, -⟩ := path.closed idle halted
  have none_left : c.told.filterMap SuiteEvent.skip? = [] := by
    apply skip_member.mp
    intro name reason member
    have held := path.reasons (opening_standing idle) rfl _ member reason rfl
    cases going.symm.trans held
  have whole : outcomes.length = scripts.length := by
    rw [none_left] at skipped
    have late := List.drop_eq_nil_iff.mp (List.map_eq_nil_iff.mp skipped.symm)
    exact Nat.le_antisymm within late
  rw [reported, finished, List.map_map]
  exact finish_names whole

-- A suite run set beside running its tests one by one: the tests are in the same state,
-- and the events tell what was read after each of them.
structure Refined (scripts : List Script) (c : Scene) (s : Series) : Prop where
  site : s.site = c.site.unwatched
  told : reported c.told = s.tried.map fun tried => (tried.name, tried.outcome)
  errors : ∀ tried ∈ s.tried, ∀ name cause, tried.result = .failed name cause → tried.outcome = .fail
  going : ∀ event ∈ c.told, event.reason? = none
  whole : c.stage = .ended → (∃ index, s.place = .next index []) ∧ s.tried.map (·.name) = scripts.map (·.name)

theorem Path.refined {site : Site} (path : Path plan scripts (opening site scripts) moments c)
    (idle : ∀ test, site.Idle test) (patient : plan.failFast = false) (unheeded : ∀ m ∈ moments, m.heeds? = none) :
    ∃ s, Series.Path plan.timeout (.opening (opening site scripts).site.unwatched scripts) moments s ∧
      Refined scripts c s := by
  have start : Abides scripts (opening site scripts) (.opening (opening site scripts).site.unwatched scripts) :=
    ⟨rfl, rfl, rfl, .opening⟩
  obtain ⟨s, series, same, going, told, place⟩ := path.follows patient unheeded start
  have firm : Series.Firm (.opening (opening site scripts).site.unwatched scripts) :=
    ⟨fun tried member => absurd member List.not_mem_nil, trivial⟩
  refine ⟨s, series, same, told, (series.firm firm).errors, ?_, ?_⟩
  · intro event member
    cases reason : event.reason? with
    | none => rfl
    | some reason' =>
      have held := path.reasons (opening_standing idle) rfl event member reason' reason
      cases going.symm.trans held
  · intro halted
    have names := path.everyone idle going halted
    rw [told, List.map_map] at names
    generalize s.place = place_ at place
    rw [halted] at place
    cases place
    exact ⟨⟨_, rfl⟩, names⟩

-- A suite that does not stop at failures, and that takes no shutdown event, comes to the
-- same as running its tests one by one, in whatever order the threads around it act. What
-- is done about one test leaves the others as they are, except where a body asks for it.
theorem suite_refines_series {site : Site} (idle : ∀ test, site.Idle test) (patient : plan.failFast = false) :
    (∀ moments c, Path plan scripts (opening site scripts) moments c → (∀ m ∈ moments, m.heeds? = none) →
      ∃ s, Series.Path plan.timeout (.opening (opening site scripts).site.unwatched scripts) moments s ∧
        Refined scripts c s) ∧
    (∀ c deed next test other, Turn plan scripts c (some deed) next → deed.test? = some test →
      Moment.op? ⟨c.site.world, deed⟩ = none → test ≠ other →
      next.site.world.test? other = c.site.world.test? other) ∧
    ∀ (σ : Type) (host : Host σ) (calm : σ → Prop) (heard : σ), host.Quiet calm → calm heard →
      scripts.length ≤ site.world.tests.length → Names.check (scripts.map (·.name)) = .ok () →
      ∃ moments last heard', Path plan scripts (opening site scripts) moments last ∧ last.stage = .ended ∧
        Suite.execute plan host ⟨scripts, site.world⟩ heard = (last.state heard', .finished last.stats) ∧
        (plan.watched = false → last.reason = none) ∧ (last.reason = none → ∀ m ∈ moments, m.heeds? = none) := by
  refine ⟨?_, ?_, ?_⟩
  · intro moments c path unheeded
    exact path.refined idle patient unheeded
  · intro c deed next test other turn about own differ
    exact turn.step.apart about own differ
  · intro σ host calm heard quiet kept known distinct
    obtain ⟨moments, last, heard', path, halted, done⟩ := execute_path quiet idle known distinct kept
    refine ⟨moments, last, heard', path, halted, done, ?_, path.unheeded⟩
    intro unwatched
    exact path.patient (opening_standing idle) patient unwatched rfl

-- An error in the first body fails its test, though it noted a pass. The second test is
-- run as if nothing had happened.
theorem suite_refines_series_broken :
    (∃ moments c s, Path (brokenPlan false) brokenScripts (opening brokenSite brokenScripts) moments c ∧
      c.stage = .ended ∧ reported c.told = [("breaks", .fail), ("left", .success)] ∧
      Series.Path (.ofSeconds 1) (.opening (opening brokenSite brokenScripts).site.unwatched brokenScripts) moments s ∧
      Refined brokenScripts c s) ∧
    ∃ moments last heard', Path (brokenPlan false) brokenScripts (opening brokenSite brokenScripts) moments last ∧
      last.stage = .ended ∧
      Suite.execute (brokenPlan false) (HookHost.host []) ⟨brokenScripts, brokenSite.world⟩ ⟨0, none, .fresh⟩ =
        (last.state heard', .finished last.stats) ∧
      ((brokenPlan false).watched = false → last.reason = none) ∧
      (last.reason = none → ∀ m ∈ moments, m.heeds? = none) := by
  have standing : Standing (brokenPlan false) (opening brokenSite brokenScripts) := opening_standing broken_idle
  have start := @Path.here (brokenPlan false) brokenScripts (opening brokenSite brokenScripts)
  have opened := start.pass (.opens rfl)
  have timed := opened.act (.retimes rfl rfl (.retime ((opened.standing standing).idle_at rfl id 0)))
  have told := timed.act (.introduces rfl rfl)
  have begun := told.act (.begins rfl rfl ((told.standing standing).idle_at rfl id 0))
  have ran := begun.trans (polls_path rfl (Site.progress_path 5 rfl))
  have collected := ran.pass (.collects rfl rfl)
  have returned := collected.act (.closes rfl rfl .tell (.inl rfl))
  have noted := returned.act (.closes rfl rfl .mark (.inr rfl))
  have announced := noted.act (.closes rfl rfl .tell (.inl rfl))
  have concluded := announced.pass (.concludes rfl rfl)
  have going := concluded.pass (.goesOn rfl (.inl rfl))
  have timed := going.act (.retimes rfl rfl (.retime ((going.standing standing).idle_at rfl id 1)))
  have told := timed.act (.introduces rfl rfl)
  have begun := told.act (.begins rfl rfl ((told.standing standing).idle_at rfl id 1))
  have ran := begun.trans (polls_path rfl (Site.progress_path 6 rfl))
  have collected := ran.pass (.collects rfl rfl)
  have returned := collected.pass (.passes rfl rfl)
  have announced := returned.act (.closes rfl rfl .tell (.inl rfl))
  have concluded := announced.pass (.concludes rfl rfl)
  have going := concluded.pass (.goesOn rfl (.inl rfl))
  have ended := going.act (.finishes rfl)
  obtain ⟨paths, -, runs⟩ := @suite_refines_series (brokenPlan false) brokenScripts brokenSite broken_idle rfl
  obtain ⟨s, series, refined⟩ := paths _ _ ended (ended.unheeded rfl)
  refine ⟨⟨_, _, s, ended, rfl, rfl, series, refined⟩, ?_⟩
  apply runs _ _ (fun state => state.reporter = none)
  · apply HookHost.host_quiet
    intro hook member
    cases member
  · rfl
  · exact Nat.le_refl 2
  · rfl

end Scene
end TrialBench
