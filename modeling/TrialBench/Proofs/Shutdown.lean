import TrialBench.Proofs.Stopping
import TrialBench.Proofs.SuiteRun
namespace TrialBench

-- A moment of a suite run after its shutdown event was taken at a test: no other event is
-- taken, no run begins, and only the run of that test takes steps.
structure Moment.After (test : Nat) (m : Moment) : Prop where
  unheeded : m.heeds? = none
  unbegun : ∀ other, m.deed ≠ .begin other
  own : ∀ thread other p, m.deed = .advance thread other p → other = test

-- The only shutdown event that was taken, and the test at which it was.
def Took (test : Nat) (event : ShutdownEvent) (moments : List Moment) : Prop :=
  ∃ newer w thread older, moments = newer ++ ⟨w, .heed thread test event⟩ :: older ∧
    (∀ m ∈ older, m.heeds? = none) ∧ ∀ m ∈ newer, m.After test

theorem calm_unheeded {w : World} {deed : Deed} (calm : deed.Calm) : Moment.heeds? ⟨w, deed⟩ = none := by
  cases deed <;> first | rfl | exact calm.elim

theorem after_calm {w : World} {deed : Deed} {test : Nat} (calm : deed.Calm) : Moment.After test ⟨w, deed⟩ := by
  refine ⟨calm_unheeded calm, ?_, ?_⟩
  · intro other same
    cases same
    exact calm
  · intro thread other p same
    cases same
    exact calm.elim

theorem Took.cons {test : Nat} {event : ShutdownEvent} {moments : List Moment} {m : Moment}
    (took : Took test event moments) (after : m.After test) : Took test event (m :: moments) := by
  obtain ⟨newer, w, thread, older, rfl, unheeded, held⟩ := took
  refine ⟨m :: newer, w, thread, older, rfl, unheeded, ?_⟩
  intro k member
  rcases List.mem_cons.mp member with rfl | old
  · exact after
  · exact held k old

theorem Took.heeded {test : Nat} {event : ShutdownEvent} {moments : List Moment}
    (took : Took test event moments) : moments.filterMap Moment.heeds? = [event] := by
  obtain ⟨newer, w, thread, older, rfl, unheeded, held⟩ := took
  rw [List.filterMap_append, List.filterMap_cons, List.filterMap_eq_nil_iff.mpr unheeded,
    List.filterMap_eq_nil_iff.mpr fun m member => (held m member).unheeded]
  rfl

theorem SuitePlan.reasonAfter_kept {plan : SuitePlan} {reason : CancelReason} {outcome : Outcome} :
    plan.reasonAfter (some reason) outcome = some reason := by
  simp [reasonAfter]

theorem SuitePlan.reasonAfter_signal {plan : SuitePlan} {reason : Option CancelReason} {outcome : Outcome}
    {event : ShutdownEvent} (signal : plan.reasonAfter reason outcome = some (.signal event)) :
    reason = some (.signal event) := by
  unfold reasonAfter at signal
  split at signal
  · cases signal
  · exact signal

def SuiteEvent.reason? : SuiteEvent → Option CancelReason
  | .testSkipped _ reason | .runCanceled reason => some reason
  | _ => none

namespace Scene
variable {plan : SuitePlan} {scripts : List Script} {start c next : Scene} {deed : Deed} {done : Option Deed}
  {history moments : List Moment} {test : Nat} {event : ShutdownEvent}

-- What a suite run is about once it has taken a shutdown event: the test where it was
-- taken comes to its end, and no other test is run.
structure Stopped (test : Nat) (event : ShutdownEvent) (history moments : List Moment) (c : Scene) : Prop where
  took : Took test event moments
  running : ∀ thread index script left, c.stage = .running thread index script left →
    index = test ∧ ∃ p, c.site.threads[thread]? = some (.run test false p) ∧
      p.Stopping test (moments ++ history) c.site.world
  closing : ∀ rest index script left, c.stage = .closing rest index script left →
    index = test ∧ ∃ how, Site.Over test how (moments ++ history)

structure Watching (history moments : List Moment) (c : Scene) : Prop where
  quiet : c.reason.bind CancelReason.event? = none → ∀ m ∈ moments, m.heeds? = none
  stopped : ∀ event, c.reason = some (.signal event) → ∃ test, Stopped test event history moments c

theorem Watching.quiet_cons {m : Moment} (watching : Watching history moments c)
    (unheeded : m.heeds? = none) (still : c.reason.bind CancelReason.event? = none) :
    ∀ k ∈ m :: moments, k.heeds? = none := by
  intro k member
  rcases List.mem_cons.mp member with rfl | old
  · exact unheeded
  · exact watching.quiet still k old

theorem Watching.unstopped (same : c.reason = none) (quiet : ∀ m ∈ moments, m.heeds? = none) :
    Watching history moments c := by
  refine ⟨fun _ => quiet, ?_⟩
  intro event signal
  rw [same] at signal
  cases signal

theorem foreign_calm {s site : Site} (reached : Site.Reached history s) (step : Site.Step s deed site)
    (calm : deed.Calm) : Site.Foreign test ⟨s.world, deed⟩ := by
  apply step.foreign reached
  intro i p same
  subst same
  exact calm

theorem Stopped.calm {site : Site} (stopped : Stopped test event history moments c)
    (reached : Site.Reached (moments ++ history) c.site) (step : Site.Step c.site deed site)
    (calm : deed.Calm) : Stopped test event history (⟨c.site.world, deed⟩ :: moments) { c with site } := by
  have foreign : Site.Foreign test ⟨c.site.world, deed⟩ := foreign_calm reached step calm
  refine ⟨stopped.took.cons (after_calm calm), ?_, ?_⟩
  · intro thread index script left stands
    obtain ⟨same, p, seat, stopping⟩ := stopped.running thread index script left stands
    exact ⟨same, p, (step.calm calm).mpr seat, foreign.stopping step stopping⟩
  · intro rest index script left stands
    obtain ⟨same, how, resolved⟩ := stopped.closing rest index script left stands
    exact ⟨same, how, resolved.cons foreign.restarts foreign.silent⟩

theorem Stopped.polled {thread index : Nat} {script : Script} {left : List Script} {site : Site}
    (stopped : Stopped test event history moments c) (reached : Site.Reached (moments ++ history) c.site)
    (stands : c.stage = .running thread index script left) (step : Site.Step c.site deed site)
    (own : (∃ p, deed = .advance thread index p) ∨ deed = .rest thread index) :
    Stopped test event history (⟨c.site.world, deed⟩ :: moments) { c with site } := by
  obtain ⟨rfl, p, seat, stopping⟩ := stopped.running thread index script left stands
  rcases own with ⟨q, rfl⟩ | rfl
  · obtain ⟨watched, p', there, moves, threads⟩ := step.advanced
    cases seat.symm.trans there
    have place : thread < c.site.threads.length := (List.getElem?_eq_some_iff.mp seat).1
    refine ⟨stopped.took.cons ⟨rfl, by simp, ?_⟩, ?_, ?_⟩
    · intro other named p same
      cases same
      rfl
    · intro thread' index' script' left' same
      cases stands.symm.trans same
      refine ⟨rfl, p', ?_, Site.Moves.stopping reached seat moves stopping⟩
      rw [threads, List.getElem?_set_self place]
    · intro rest index' script' left' same
      cases stands.symm.trans same
  · exact stopped.calm reached step trivial

-- An event is taken only while the test that the suite runs is blocked in its wait, and
-- only by a suite that has no reason to stop yet.
theorem Standing.heed_parts {thread index : Nat} {script : Script} {left : List Script} {site : Site}
    (standing : Standing plan c) (stands : c.stage = .running thread index script left)
    (step : Site.Step c.site (.heed thread index event) site) :
    plan.watched = true ∧ c.reason = none ∧ ∃ gate deadline waited,
      c.site.threads[thread]? = some (.run index true (.waiting gate deadline waited)) ∧
      Run.advance c.site.world index (.waiting gate deadline waited) = .blocked deadline ∧
      c.site.world.takeSignal index = some (event, site.world) ∧
      site.threads = c.site.threads.set thread (.run index false (.waiting gate deadline waited)) := by
  obtain ⟨p, seat⟩ := standing.seated thread index script left stands
  cases step with
  | heed there turned =>
    obtain ⟨rfl, ⟨deadline, blocked⟩, taken⟩ := Run.turn_heeded.1 turned
    obtain ⟨early, gate, waited, rfl⟩ := Run.blocked_waiting blocked
    have watches := seat.symm.trans there
    simp only [Option.some.injEq, Thread.run.injEq, Bool.and_eq_true, Option.isNone_iff_eq_none,
      true_and] at watches
    exact ⟨watches.1.1, watches.1.2, gate, deadline, waited, there, blocked, taken, rfl⟩

theorem Watching.heeded {thread index : Nat} {script : Script} {left : List Script} {site : Site}
    (watching : Watching history moments c) (standing : Standing plan c)
    (reached : Site.Reached (moments ++ history) c.site) (stands : c.stage = .running thread index script left)
    (step : Site.Step c.site (.heed thread index event) site) :
    Stopped index event history (⟨c.site.world, .heed thread index event⟩ :: moments)
      { c with site, reason := some (.signal event) } := by
  obtain ⟨-, still, gate, deadline, waited, seat, -, -, threads⟩ := standing.heed_parts stands step
  have foreign : Site.Foreign index ⟨c.site.world, .heed thread index event⟩ :=
    step.foreign reached fun i p same => by cases same
  have asked : site.world.pendingFor index = true := by
    obtain ⟨cell, found⟩ := World.test?_of_known (Site.reached_known reached seat)
    rw [World.pendingFor, step.effect.tests, found]
    simp [Moment.touch]
  have quiet := watching.quiet (by rw [still]; rfl)
  have place : thread < c.site.threads.length := (List.getElem?_eq_some_iff.mp seat).1
  refine ⟨⟨[], _, thread, moments, rfl, quiet, by simp⟩, ?_, ?_⟩
  · intro thread' index' script' left' same
    cases stands.symm.trans same
    refine ⟨rfl, .waiting gate deadline waited, ?_, asked, ?_⟩
    · rw [threads, List.getElem?_set_self place]
    · intro how
      rw [List.cons_append, foreign.waitEnded]
      exact Site.waiting_open_ended reached seat
  · intro rest index' script' left' same
    cases stands.symm.trans same

theorem Stopped.closes {rest : Closing} {script : Script} {left : List Script} {how : WaitEnd}
    (took : Took test event moments) (stands : c.stage = .closing rest test script left)
    (resolved : Site.Over test how (moments ++ history)) : Stopped test event history moments c := by
  refine ⟨took, ?_, ?_⟩
  · intro thread index' script' left' same
    cases stands.symm.trans same
  · intro rest' index' script' left' same
    cases stands.symm.trans same
    exact ⟨rfl, how, resolved⟩

theorem Stopped.between (took : Took test event moments) (idle : ¬ c.stage.Running)
    (open_ : ∀ rest index script left, c.stage ≠ .closing rest index script left) :
    Stopped test event history moments c := by
  refine ⟨took, ?_, ?_⟩
  · intro thread index script left stands
    rw [stands] at idle
    exact absurd trivial idle
  · intro rest index script left stands
    exact absurd stands (open_ rest index script left)

theorem Turn.watching (turn : Turn plan scripts c (some deed) next) (standing : Standing plan c)
    (reached : Site.Reached (moments ++ history) c.site) (watching : Watching history moments c) :
    Watching history (⟨c.site.world, deed⟩ :: moments) next := by
  cases turn with
  | aside step outside =>
    have calm := outside_calm outside
    refine ⟨watching.quiet_cons (calm_unheeded calm), ?_⟩
    intro event signal
    obtain ⟨test, stopped⟩ := watching.stopped event signal
    exact ⟨test, stopped.calm reached step calm⟩
  | retimes stands going step =>
    exact .unstopped going (watching.quiet_cons rfl (by rw [going]; rfl))
  | introduces stands found =>
    have going := standing.unhurried_at stands trivial
    exact .unstopped going (watching.quiet_cons rfl (by rw [going]; rfl))
  | begins stands found idle =>
    have going := standing.unhurried_at stands trivial
    exact .unstopped going (watching.quiet_cons rfl (by rw [going]; rfl))
  | polls stands step own =>
    refine ⟨watching.quiet_cons ?_, ?_⟩
    · rcases own with ⟨p, rfl⟩ | rfl <;> rfl
    · intro event signal
      obtain ⟨test, stopped⟩ := watching.stopped event signal
      exact ⟨test, stopped.polled reached stands step own⟩
  | heeds stands step =>
    have stopped := watching.heeded standing reached stands step
    refine ⟨?_, ?_⟩
    · intro still
      cases still
    · intro event signal
      cases signal
      exact ⟨_, stopped⟩
  | @closes index script left rest later deed w stands moved step own =>
    have calm : deed.Calm := by
      rcases own with rfl | rfl <;> trivial
    refine ⟨watching.quiet_cons (calm_unheeded calm), ?_⟩
    intro event signal
    obtain ⟨test, stopped⟩ := watching.stopped event signal
    have foreign : Site.Foreign test ⟨c.site.world, deed⟩ := foreign_calm reached step calm
    obtain ⟨rfl, how, resolved⟩ := stopped.closing _ _ _ _ stands
    exact ⟨_, .closes (stopped.took.cons (after_calm calm)) rfl (resolved.cons foreign.restarts foreign.silent)⟩
  | cancels stands stopping more =>
    refine ⟨?_, ?_⟩
    · intro still
      have earlier : c.reason.bind CancelReason.event? = none := by
        cases held : c.reason with
        | none => rfl
        | some reason =>
          rw [held, SuitePlan.reasonAfter_kept] at stopping
          cases stopping
          exact still
      exact watching.quiet_cons rfl earlier
    · intro event signal
      cases signal
      obtain ⟨test, stopped⟩ := watching.stopped event (SuitePlan.reasonAfter_signal stopping)
      exact ⟨test, .between (stopped.took.cons (after_calm trivial)) id (by simp)⟩
  | finishes stands =>
    refine ⟨watching.quiet_cons rfl, ?_⟩
    intro event signal
    obtain ⟨test, stopped⟩ := watching.stopped event signal
    exact ⟨test, .between (stopped.took.cons (after_calm trivial)) id (by simp)⟩

theorem Turn.watching_still (turn : Turn plan scripts c none next) (standing : Standing plan c)
    (watching : Watching history moments c) : Watching history moments next := by
  cases turn with
  | opens stands =>
    have going := standing.unhurried_at stands trivial
    exact .unstopped going (watching.quiet (by rw [going]; rfl))
  | skips stands stopping =>
    refine ⟨watching.quiet, ?_⟩
    intro event signal
    obtain ⟨test, stopped⟩ := watching.stopped event signal
    exact ⟨test, .between stopped.took id (by simp)⟩
  | collects stands resolved =>
    refine ⟨watching.quiet, ?_⟩
    intro event signal
    obtain ⟨test, stopped⟩ := watching.stopped event signal
    obtain ⟨rfl, p, seat, stopping⟩ := stopped.running _ _ _ _ stands
    cases seat.symm.trans resolved
    obtain ⟨how, settled⟩ := stopping
    exact ⟨_, .closes stopped.took rfl settled⟩
  | passes stands moved =>
    refine ⟨watching.quiet, ?_⟩
    intro event signal
    obtain ⟨test, stopped⟩ := watching.stopped event signal
    obtain ⟨rfl, how, settled⟩ := stopped.closing _ _ _ _ stands
    exact ⟨_, .closes stopped.took rfl settled⟩
  | concludes stands closed =>
    refine ⟨watching.quiet, ?_⟩
    intro event signal
    obtain ⟨test, stopped⟩ := watching.stopped event signal
    exact ⟨test, .between stopped.took id (by simp)⟩
  | goesOn stands silent =>
    refine ⟨?_, ?_⟩
    · intro still
      apply watching.quiet
      cases held : c.reason with
      | none => rfl
      | some reason => simpa [held, SuitePlan.reasonAfter_kept] using still
    · intro event signal
      obtain ⟨test, stopped⟩ := watching.stopped event (SuitePlan.reasonAfter_signal signal)
      exact ⟨test, .between stopped.took id (by simp)⟩

theorem Path.watching (path : Path plan scripts start moments c) (standing : Standing plan start)
    (reached : Site.Reached history start.site) (going : start.reason = none) : Watching history moments c := by
  induction path with
  | here => exact .unstopped going fun m member => by cases member
  | act path turn ih => exact turn.watching (path.standing standing) (path.reached reached) ih
  | pass path turn ih => exact turn.watching_still (path.standing standing) ih

theorem Turn.reasons (turn : Turn plan scripts c done next) (standing : Standing plan c)
    (reasons : ∀ told ∈ c.told, ∀ reason, told.reason? = some reason → c.reason = some reason) :
    ∀ told ∈ next.told, ∀ reason, told.reason? = some reason → next.reason = some reason := by
  have added {latest : SuiteEvent} (latest_too : ∀ reason, latest.reason? = some reason → c.reason = some reason) :
      ∀ told ∈ c.told ++ [latest], ∀ reason, told.reason? = some reason → c.reason = some reason := by
    intro told member reason tells
    rcases List.mem_append.mp member with old | new
    · exact reasons told old reason tells
    · obtain rfl := List.mem_singleton.mp new
      exact latest_too reason tells
  cases turn with
  | aside | retimes | begins | polls | collects | closes | passes => exact reasons
  | opens | introduces | concludes | finishes => exact added fun reason tells => by cases tells
  | skips stands stopped => exact added fun reason tells => by cases tells; exact stopped
  | heeds stands step =>
    obtain ⟨-, still, -⟩ := standing.heed_parts stands step
    intro told member reason tells
    cases still.symm.trans (reasons told member reason tells)
  | goesOn stands silent =>
    intro told member reason tells
    have held := reasons told member reason tells
    simp only [held, SuitePlan.reasonAfter_kept]
  | @cancels index left outcome reason stands stopping more =>
    intro told member reason' tells
    rcases List.mem_append.mp member with old | new
    · have held := reasons told old reason' tells
      rw [held, SuitePlan.reasonAfter_kept] at stopping
      exact stopping.symm
    · obtain rfl := List.mem_singleton.mp new
      exact tells

theorem Path.reasons (path : Path plan scripts start moments c) (standing : Standing plan start)
    (untold : start.told = []) :
    ∀ told ∈ c.told, ∀ reason, told.reason? = some reason → c.reason = some reason := by
  induction path with
  | here =>
    rw [untold]
    intro told member
    cases member
  | act path turn ih => exact turn.reasons (path.standing standing) ih
  | pass path turn ih => exact turn.reasons (path.standing standing) ih

theorem Turn.signals (turn : Turn plan scripts c (some deed) next)
    (unheeded : Moment.heeds? ⟨c.site.world, deed⟩ = none) : c.site.world.signals <+: next.site.world.signals := by
  have heard := turn.step.effect.signals
  cases deed with
  | heed => cases unheeded
  | listen =>
    cases turn with
    | aside step outside => exact outside.elim
    | polls stands step own => rcases own with ⟨p, same⟩ | same <;> cases same
    | closes stands moved step own => rcases own with same | same <;> cases same
  | _ => exact heard

theorem Path.signals (path : Path plan scripts start moments c) {newer older : List Moment} {m : Moment}
    (split : moments = newer ++ m :: older) (unheeded : ∀ k ∈ newer, k.heeds? = none) (first : m.heeds? = none) :
    m.world.signals <+: c.site.world.signals := by
  induction path generalizing newer with
  | here => simp at split
  | act path turn ih =>
    cases newer with
    | nil =>
      cases split
      exact turn.signals first
    | cons latest newer =>
      cases split
      have before := ih rfl fun k member => unheeded k (List.mem_cons_of_mem _ member)
      exact before.trans (turn.signals (unheeded _ List.mem_cons_self))
  | pass path turn ih =>
    rw [turn.still]
    exact ih split unheeded

-- The turn in which a suite run takes a shutdown event. The first of the pending signals
-- is taken off, and the test that is blocked in its wait is asked to stop.
structure Takes (plan : SuitePlan) (thread test : Nat) (event : ShutdownEvent) (c next : Scene) : Prop where
  watched : plan.watched = true
  first : c.reason = none
  waiting : ∃ script left gate deadline waited, c.stage = .running thread test script left ∧
    c.site.threads[thread]? = some (.run test true (.waiting gate deadline waited)) ∧
    Run.advance c.site.world test (.waiting gate deadline waited) = .blocked deadline
  signals : c.site.world.signals = event :: next.site.world.signals
  cells : ∀ other, next.site.world.test? other =
    (c.site.world.test? other).map fun cell => if test = other then { cell with cancelPending := true } else cell
  reason : next.reason = some (.signal event)
  stage : next.stage = c.stage

-- What becomes of a suite run that took an event at a test. That test needs nobody to
-- come to its end, no other one is begun, and the event is the reason that is told.
structure Stops (plan : SuitePlan) (scripts : List Script) (test : Nat) (event : ShutdownEvent)
    (history moments : List Moment) (c : Scene) : Prop where
  took : Took test event moments
  prompt : ∀ thread index script left, c.stage = .running thread index script left →
    index = test ∧ ∃ p, c.site.threads[thread]? = some (.run test false p) ∧ p.stepsLeft ≤ 4 ∧
      ((∃ result, p = .done result) ∨
        ∃ w p', Run.advance c.site.world test p = .moved w p' ∧ p'.stepsLeft < p.stepsLeft)
  outcome : ∀ next name outcome span stats, Turn plan scripts c none next →
    next.told = c.told ++ [.testFinished name outcome span stats] →
    ∃ script left later poll earlier thread gate deadline waited,
      c.stage = .closing .reading test script left ∧ name = script.name ∧
      moments ++ history = later ++ poll :: earlier ∧
      poll.deed = .advance thread test (.waiting gate deadline waited) ∧
      (∀ k ∈ later, k.restarts test = false) ∧
      ((∃ m ∈ earlier, m.Releases gate) → outcome =
        Outcome.running.markAll ((Site.since test (moments ++ history)).filterMap (·.notedOn test)).reverse) ∧
      ((¬ ∃ m ∈ earlier, m.Releases gate) → outcome = .fail)
  told : ∀ told ∈ c.told, ∀ reason, told.reason? = some reason → reason = .signal event

-- All that shutdown signals do to a suite run, seen from any of its moments. What is
-- pending stays so until it is taken, and it is taken by the first run that is blocked.
structure ShutDown (plan : SuitePlan) (scripts : List Script) (history moments : List Moment) (c : Scene) :
    Prop where
  once : moments.filterMap Moment.heeds? = (c.reason.bind CancelReason.event?).toList
  kept : ∀ newer m older, moments = newer ++ m :: older → (∀ k ∈ newer, k.heeds? = none) → m.heeds? = none →
    m.world.signals <+: c.site.world.signals
  takes : ∀ thread test event next, Turn plan scripts c (some (.heed thread test event)) next →
    Takes plan thread test event c next
  taken : ∀ thread index script left watched gate deadline waited event rest,
    plan.watched = true → c.stage = .running thread index script left → c.reason = none →
    c.site.threads[thread]? = some (.run index watched (.waiting gate deadline waited)) →
    Run.advance c.site.world index (.waiting gate deadline waited) = .blocked deadline →
    c.site.world.signals = event :: rest →
    (∃ next, Turn plan scripts c (some (.heed thread index event)) next) ∧
      ∀ done next, Turn plan scripts c done next →
        done = some (.heed thread index event) ∨ ∃ deed, done = some deed ∧ deed.Outside
  stops : ∀ event, c.reason = some (.signal event) → ∃ test, Stops plan scripts test event history moments c

theorem Watching.once (watching : Watching history moments c) :
    moments.filterMap Moment.heeds? = (c.reason.bind CancelReason.event?).toList := by
  cases held : c.reason with
  | none => exact List.filterMap_eq_nil_iff.mpr (watching.quiet (by rw [held]; rfl))
  | some reason =>
    cases reason with
    | testFailure => exact List.filterMap_eq_nil_iff.mpr (watching.quiet (by rw [held]; rfl))
    | signal event =>
      obtain ⟨test, stopped⟩ := watching.stopped event held
      exact stopped.took.heeded

theorem Turn.heed_takes {thread : Nat} (turn : Turn plan scripts c (some (.heed thread test event)) next)
    (standing : Standing plan c) : Takes plan thread test event c next := by
  have step := turn.step
  have cells := step.effect.tests
  have signals : c.site.world.signals = event :: next.site.world.signals := step.effect.signals
  cases turn with
  | aside step outside => exact outside.elim
  | polls stands step own => rcases own with ⟨p, same⟩ | same <;> cases same
  | closes stands moved step own => rcases own with same | same <;> cases same
  | heeds stands step =>
    obtain ⟨watched, first, gate, deadline, waited, seat, blocked, -, -⟩ := standing.heed_parts stands step
    exact ⟨watched, first, ⟨_, _, gate, deadline, waited, stands, seat, blocked⟩, signals, cells, rfl, rfl⟩

theorem heed_next {thread index gate deadline : Nat} {script : Script} {left : List Script} {watched : Bool}
    {waited : Duration} {rest : List ShutdownEvent} (standing : Standing plan c) (listens : plan.watched = true)
    (stands : c.stage = .running thread index script left) (going : c.reason = none)
    (seat : c.site.threads[thread]? = some (.run index watched (.waiting gate deadline waited)))
    (blocked : Run.advance c.site.world index (.waiting gate deadline waited) = .blocked deadline)
    (pending : c.site.world.signals = event :: rest) :
    (∃ next, Turn plan scripts c (some (.heed thread index event)) next) ∧
      ∀ done next, Turn plan scripts c done next →
        done = some (.heed thread index event) ∨ ∃ deed, done = some deed ∧ deed.Outside := by
  obtain ⟨p, there⟩ := standing.seated thread index script left stands
  rw [listens, going] at there
  cases seat.symm.trans there
  obtain ⟨w, taken⟩ : ∃ w, c.site.world.takeSignal index = some (event, w) := by
    unfold World.takeSignal
    rw [pending]
    exact ⟨_, rfl⟩
  constructor
  · have turned : Run.turn c.site.world index true (.waiting gate deadline waited) = .heeded event w :=
      Run.turn_heeded.mpr ⟨rfl, ⟨deadline, blocked⟩, taken⟩
    exact ⟨_, .heeds stands (.heed seat turned)⟩
  · intro done next turn
    cases turn with
    | @aside deed site step outside => exact .inr ⟨deed, rfl, outside⟩
    | @polls _ _ _ _ deed site stood step own =>
      cases stands.symm.trans stood
      rcases own with ⟨q, rfl⟩ | rfl
      · obtain ⟨watched, p', placed, moves, -⟩ := step.advanced
        cases seat.symm.trans placed
        cases blocked.symm.trans (Run.moves_complete moves)
      · cases step with
        | rest placed turned =>
          cases seat.symm.trans placed
          cases taken.symm.trans ((Run.turn_resting.1 turned).2 rfl)
    | @heeds _ _ _ _ other site stood step =>
      cases stands.symm.trans stood
      obtain ⟨-, -, -, -, -, -, -, again, -⟩ := standing.heed_parts stood step
      cases taken.symm.trans again
      exact .inl rfl
    | collects stood resolved =>
      cases stands.symm.trans stood
      cases seat.symm.trans resolved
    | opens stood | skips stood | retimes stood | introduces stood => cases stands.symm.trans stood
    | begins stood | closes stood | passes stood | concludes stood => cases stands.symm.trans stood
    | goesOn stood | cancels stood | finishes stood => cases stands.symm.trans stood

theorem stopping_short {p : Phase} {w : World} (stopping : p.Stopping test history w) : p.stepsLeft ≤ 4 := by
  cases p with
  | start | clear | body | returned => exact stopping.elim
  | waiting | ended | noted | reading | done => simp [Phase.stepsLeft]

theorem Turn.finished {name : String} {outcome : Outcome} {span : Span} {stats : Stats}
    (turn : Turn plan scripts c none next)
    (tells : next.told = c.told ++ [.testFinished name outcome span stats]) :
    ∃ index script left, c.stage = .closing .reading index script left ∧ name = script.name ∧
      outcome = c.site.world.outcomeOf index := by
  cases turn with
  | @concludes index script left rest outcome stands closed =>
    simp only [List.append_cancel_left_eq, List.cons.injEq, SuiteEvent.testFinished.injEq] at tells
    obtain ⟨⟨rfl, rfl, -⟩, -⟩ := tells
    cases rest with
    | reading =>
      cases closed
      exact ⟨index, script, left, stands, rfl, rfl⟩
    | returned result => cases result <;> cases closed
    | noting => cases closed
    | announcing => cases closed
  | opens | skips => simp at tells
  | collects | passes | goesOn => simp at tells

theorem Stopped.stops (stopped : Stopped test event history moments c) (held : c.reason = some (.signal event))
    (reached : Site.Reached (moments ++ history) c.site)
    (reasons : ∀ told ∈ c.told, ∀ reason, told.reason? = some reason → c.reason = some reason) :
    Stops plan scripts test event history moments c := by
  refine ⟨stopped.took, ?_, ?_, ?_⟩
  · intro thread index script left stands
    obtain ⟨same, p, seat, stopping⟩ := stopped.running thread index script left stands
    exact ⟨same, p, seat, stopping_short stopping, Site.stopping_moves stopping⟩
  · intro next name outcome span stats turn tells
    obtain ⟨index, script, left, stands, same, rfl⟩ := turn.finished tells
    obtain ⟨rfl, how, resolved⟩ := stopped.closing _ _ _ _ stands
    obtain ⟨failed, merged⟩ := Site.Over.outcome reached resolved
    obtain ⟨⟨later, poll, earlier, thread, gate, deadline, waited, split, polls, going, decided⟩, -⟩ := resolved
    refine ⟨script, left, later, poll, earlier, thread, gate, deadline, waited, stands, same, split, polls,
      going, ?_, ?_⟩
    · intro release
      rcases decided with ⟨-, released⟩ | ⟨shut, -⟩
      · exact merged released
      · exact absurd release shut
    · intro shut
      rcases decided with ⟨release, -⟩ | ⟨-, canceled⟩
      · exact absurd release shut
      · exact failed canceled
  · intro told member reason tells
    have same := reasons told member reason tells
    rw [held] at same
    exact (Option.some.inj same).symm

theorem Path.shutDown {site : Site} (path : Path plan scripts (opening site scripts) moments c)
    (reached : Site.Reached history site) (idle : ∀ test, site.Idle test) :
    ShutDown plan scripts (⟨site.world, .listen⟩ :: history) moments c := by
  have started : Standing plan (opening site scripts) := opening_standing idle
  have standing := path.standing started
  have watching := path.watching started (opening_reached reached) rfl
  refine ⟨watching.once, ?_, ?_, ?_, ?_⟩
  · intro newer m older split unheeded first
    exact path.signals split unheeded first
  · intro thread test event next turn
    exact turn.heed_takes standing
  · intro thread index script left watched gate deadline waited event rest listens stands going seat blocked pending
    exact heed_next standing listens stands going seat blocked pending
  · intro event held
    obtain ⟨test, stopped⟩ := watching.stopped event held
    exact ⟨test, stopped.stops held (path.reached (opening_reached reached)) (path.reasons started rfl)⟩

-- Shutdown signals in a suite run, in whatever order its threads act. A run of the
-- program with a host that returns no error goes one of these ways, to its end.
theorem shutdown_once {site : Site} (reached : Site.Reached history site) (idle : ∀ test, site.Idle test) :
    (∀ moments c, Path plan scripts (opening site scripts) moments c →
      ShutDown plan scripts (⟨site.world, .listen⟩ :: history) moments c) ∧
    ∀ (σ : Type) (host : Host σ) (calm : σ → Prop) (heard : σ), host.Quiet calm → calm heard →
      scripts.length ≤ site.world.tests.length → Names.check (scripts.map (·.name)) = .ok () →
      ∃ moments last heard', Path plan scripts (opening site scripts) moments last ∧ last.stage = .ended ∧
        Suite.execute plan host ⟨scripts, site.world⟩ heard = (last.state heard', .finished last.stats) := by
  constructor
  · intro moments c path
    exact path.shutDown reached idle
  · intro σ host calm heard quiet kept known distinct
    exact execute_path quiet idle known distinct kept

def waitingScripts : List Script := [⟨"waits", [[.prepare true false]]⟩, ⟨"left", [[.mark .pass]]⟩]

def waitingSite : Site where
  world := .fresh ⟨"device", "1.0"⟩ [] (["waits", "left"].map fun name => .fresh name (.ofSeconds 1))
  threads := []

def waitingPlan : SuitePlan where
  suite := "suite"
  failFast := true
  timeout := .ofSeconds 1
  watched := true
  testSpan _ := ⟨⟨0, 0, 0⟩, .ofSeconds 1⟩
  runSpan := ⟨⟨0, 0, 0⟩, .ofSeconds 1⟩

-- A signal comes before the first test. It is taken when that test waits, and what is
-- told of stopping names it, though the test failed and the suite stops at failures.
theorem shutdown_once_waiting :
    (∃ moments c, Path waitingPlan waitingScripts (opening waitingSite waitingScripts) moments c ∧
      c.stage = .ended ∧ c.told.filterMap SuiteEvent.reason? = [.signal .interrupt, .signal .interrupt] ∧
      ShutDown waitingPlan waitingScripts [⟨waitingSite.world, .listen⟩] moments c) ∧
    ∃ moments last heard', Path waitingPlan waitingScripts (opening waitingSite waitingScripts) moments last ∧
      last.stage = .ended ∧
      Suite.execute waitingPlan (HookHost.host [⟨1, .act (.signal .interrupt)⟩]) ⟨waitingScripts, waitingSite.world⟩
        ⟨0, none, .fresh⟩ = (last.state heard', .finished last.stats) := by
  have fresh : Site.Reached [] waitingSite :=
    @Site.Reached.fresh ⟨"device", "1.0"⟩ [] [("waits", .ofSeconds 1), ("left", .ofSeconds 1)]
  have idle : ∀ test, waitingSite.Idle test := fun test watched p member => by cases member
  have standing : Standing waitingPlan (opening waitingSite waitingScripts) := opening_standing idle
  have start := @Path.here waitingPlan waitingScripts (opening waitingSite waitingScripts)
  have hired := start.act (.aside (@Site.Step.spawn _ 0 (.signal .interrupt)) trivial)
  have raised := hired.act (.aside (.work (i := 0) rfl) trivial)
  have opened := raised.pass (.opens rfl)
  have timed := opened.act (.retimes rfl rfl (.retime ((opened.standing standing).idle_at rfl id 0)))
  have told := timed.act (.introduces rfl rfl)
  have begun := told.act (.begins rfl rfl ((told.standing standing).idle_at rfl id 0))
  have waits := begun.trans (polls_path rfl (Site.progress_path 8 rfl))
  have heeded := waits.act (.heeds rfl (.heed (i := 1) rfl
    (Run.turn_heeded.mpr ⟨rfl, ⟨_, Run.poll_blocked.mpr ⟨rfl, rfl, rfl, by decide⟩⟩, rfl⟩)))
  have read := heeded.trans (polls_path rfl (Site.progress_path 4 rfl))
  have collected := read.pass (.collects rfl rfl)
  have returned := collected.pass (.passes rfl rfl)
  have announced := returned.act (.closes rfl rfl .tell (.inl rfl))
  have concluded := announced.pass (.concludes rfl rfl)
  have stopped := concluded.act (.cancels rfl rfl rfl)
  have skipped := stopped.pass (.skips rfl rfl)
  have ended := skipped.act (.finishes rfl)
  obtain ⟨paths, runs⟩ := @shutdown_once waitingPlan waitingScripts [] waitingSite fresh idle
  refine ⟨⟨_, _, ended, rfl, rfl, paths _ _ ended⟩, ?_⟩
  apply runs _ _ (fun state => state.reporter = none)
  · apply HookHost.host_quiet
    intro hook member
    obtain rfl := List.mem_singleton.mp member
    exact ⟨_, rfl⟩
  · rfl
  · exact Nat.le_refl 2
  · rfl

end Scene
end TrialBench
