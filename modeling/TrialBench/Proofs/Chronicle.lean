import TrialBench.Proofs.SuiteRun
namespace TrialBench

-- What a suite run shows of itself: the events that it tells, the bodies that it invokes,
-- and the lines by which it says that it turns to skipping.
inductive Beat where
  | told (event : SuiteEvent)
  | invoked (test : Nat) (body : List BodyStep)
  | wrote (line : LogEvent)

def Beat.told? : Beat → Option SuiteEvent
  | .told event => some event
  | _ => none

def Beat.invoked? : Beat → Option (Nat × List BodyStep)
  | .invoked test body => some (test, body)
  | _ => none

def Beat.wrote? : Beat → Option LogEvent
  | .wrote line => some line
  | _ => none

-- One turn of a suite run has at most one of each kind.
def Beat.listed (calls : List (Nat × List BodyStep)) (lines : List LogEvent) (events : List SuiteEvent) : List Beat :=
  calls.map (fun call => .invoked call.1 call.2) ++ lines.map .wrote ++ events.map .told

section
variable {calls : List (Nat × List BodyStep)} {lines : List LogEvent} {events : List SuiteEvent}

theorem filterMap_other {α β : Type} {beat : α → Beat} {part : Beat → Option β} (other : ∀ a, part (beat a) = none)
    (items : List α) : (items.map beat).filterMap part = [] := by
  rw [List.filterMap_map, List.filterMap_eq_nil_iff]
  intro item member
  exact other item

theorem filterMap_same {α : Type} (beat : α → Beat) (part : Beat → Option α) (same : ∀ a, part (beat a) = some a)
    (items : List α) : (items.map beat).filterMap part = items := by
  have whole : part ∘ beat = some := funext same
  rw [List.filterMap_map, whole, List.filterMap_some]

theorem Beat.told_listed : (listed calls lines events).filterMap told? = events := by
  unfold listed
  rw [List.filterMap_append, List.filterMap_append, filterMap_other fun _ => rfl, filterMap_other fun _ => rfl,
    filterMap_same told told? fun _ => rfl]
  rfl

theorem Beat.invoked_listed : (listed calls lines events).filterMap invoked? = calls := by
  unfold listed
  rw [List.filterMap_append, List.filterMap_append,
    filterMap_same (fun call => invoked call.1 call.2) invoked? fun _ => rfl, filterMap_other fun _ => rfl,
    filterMap_other fun _ => rfl, List.append_nil, List.append_nil]

theorem Beat.wrote_listed : (listed calls lines events).filterMap wrote? = lines := by
  unfold listed
  rw [List.filterMap_append, List.filterMap_append, filterMap_other fun _ => rfl,
    filterMap_same wrote wrote? fun _ => rfl,
    filterMap_other fun _ => rfl, List.append_nil]
  rfl

end

def LogEvent.isCanceling (line : LogEvent) : Bool :=
  line.source = .suite ∧ line.message = "canceling remaining tests"

-- A body is invoked when old cancel requests of its test are discarded.
def Moment.invokes? (m : Moment) : Option (Nat × List BodyStep) :=
  match m.deed with
  | .advance _ test (.clear body) => some (test, body)
  | _ => none

def SuiteEvent.cancels? : SuiteEvent → Option CancelReason
  | .runCanceled reason => some reason
  | _ => none

theorem Closing.bodyError_plain {suite test : String} {cause : ErrorChain} :
    (bodyErrorEvent suite test cause).isCanceling = false := by
  have differs : (runError test cause).render ≠ "canceling remaining tests" := by
    intro same
    have first := congrArg (fun text => text.toList.head?) same
    simp [runError, runErrorText, ErrorChain.wrap, ErrorChain.render] at first
  simp [LogEvent.isCanceling, bodyErrorEvent, differs]

namespace World
variable {w v u : World}

-- From one world to another only lines were written that say nothing of skipping.
def Reticent (w v : World) : Prop :=
  ∃ lines, v.logs = w.logs ++ lines ∧ ∀ line ∈ lines, line.isCanceling = false

theorem Reticent.same (same : v.logs = w.logs) : Reticent w v :=
  ⟨[], by rw [same, List.append_nil], fun line member => by cases member⟩

theorem Reticent.line {line : LogEvent} (plain : line.isCanceling = false) : Reticent w (w.log line) := by
  refine ⟨[line], rfl, ?_⟩
  intro other member
  obtain rfl := List.mem_singleton.mp member
  exact plain

theorem Reticent.lines (reticent : Reticent w v) :
    (v.logs.drop w.logs.length).filter LogEvent.isCanceling = [] := by
  obtain ⟨lines, grown, plain⟩ := reticent
  rw [grown, List.drop_left, List.filter_eq_nil_iff]
  intro line member
  simp [plain line member]

theorem newChannel_logs : w.newChannel.1.logs = w.logs := by
  unfold newChannel
  split <;> rfl

theorem made_logs {result : Except ErrorChain Nat} (made : w.newChannel = (v, result)) : v.logs = w.logs := by
  have same := newChannel_logs (w := w)
  rwa [made] at same

theorem observe_logs {test : Nat} : (w.observe test).logs = w.logs := by
  unfold observe
  split <;> rfl

end World

namespace Op
variable {w : World}

theorem ask_reticent {owner : Nat} {action : Action} : w.Reticent (ask w owner action).1 := by
  cases action with
  | createSession =>
    simp only [ask]
    split
    · rename_i v channel made
      have same : v.logs = w.logs := World.made_logs made
      exact .same same
    · rename_i v fault failed
      have same : v.logs = w.logs := World.made_logs failed
      exact .same same
  | post session message =>
    simp only [ask, deliver]
    split
    · split
      · exact .same rfl
      · exact .line rfl
    · exact .same rfl
  | signal event =>
    simp only [ask, World.raise]
    split <;> exact .same rfl
  | cloneSession session | handle session tag followUp | describe session =>
    simp only [ask]
    split <;> exact .same rfl
  | _ => exact .same rfl

theorem step_reticent (w : World) (op : Op) : w.Reticent (step w op).1 := by
  cases op with
  | act owner action => exact ask_reticent
  | call handler message =>
    cases handler with
    | verdict test gate =>
      simp only [step, serve]
      split
      · exact .same rfl
      · exact .line rfl
    | recorder followUp tag owner => exact .same rfl
  | _ => exact .same rfl

end Op

theorem Run.Moves.reticent {test : Nat} {w v : World} {p p' : Phase} (moves : Moves test w p v p') :
    w.Reticent v := by
  cases moves with
  | op => exact Op.step_reticent w _
  | silent made | refused made | gated made | ignored made =>
    have same := World.made_logs made
    exact .same same
  | observe => exact .same World.observe_logs
  | fails | toldTimeout | toldCancel => exact .line rfl
  | read =>
    split
    · exact .same rfl
    · exact .line rfl
  | _ => exact .same rfl

theorem World.takeSignal_reticent {w v : World} {test : Nat} {event : ShutdownEvent}
    (taken : w.takeSignal test = some (event, v)) : w.Reticent v := by
  unfold takeSignal at taken
  split at taken
  · cases taken
  · cases taken
    exact .line rfl

theorem Closing.reticent {suite : String} {test : Nat} {w v : World} {rest later : Closing}
    (moved : rest.advance suite test w = .moved v later) : w.Reticent v := by
  cases rest with
  | returned result =>
    cases result with
    | finished outcome =>
      cases moved
      exact .same rfl
    | failed name cause =>
      cases moved
      exact .line Closing.bodyError_plain
  | noting =>
    cases moved
    exact .same rfl
  | announcing =>
    cases moved
    unfold World.logEnd
    split
    · exact .line rfl
    · exact .same rfl
  | reading => cases moved

theorem Site.Step.reticent {s next : Site} {deed : Deed} (step : Step s deed next) (silent : deed ≠ .tell) :
    s.world.Reticent next.world := by
  cases step with
  | tell => exact absurd rfl silent
  | fire popped =>
    obtain ⟨others, -, -, rfl⟩ := popTimer_some popped
    exact .same rfl
  | work => exact Op.step_reticent s.world _
  | advance seat turned => exact (Run.moves_sound (Run.turn_moved.1 turned)).reticent
  | heed seat turned =>
    exact World.takeSignal_reticent (Run.turn_heeded.1 turned).2.2
  | _ => exact .same rfl

-- What notes a verdict writes no line.
theorem World.mark_ne_log {w : World} {test : Nat} {verdict : Mark} {line : LogEvent} :
    w.mark test verdict ≠ w.log line := by
  intro same
  have logs := congrArg (fun w : World => w.logs.length) same
  simp [World.mark, World.onTest, World.log] at logs

theorem Site.Step.logs {s next : Site} {deed : Deed} (step : Step s deed next) :
    ∃ lines, next.world.logs = s.world.logs ++ lines := by
  by_cases silent : deed = .tell
  · subst silent
    cases step with
    | tell => exact ⟨_, rfl⟩
  · obtain ⟨lines, grown, -⟩ := step.reticent silent
    exact ⟨lines, grown⟩

namespace Scene
variable {plan : SuitePlan} {scripts : List Script} {start c next : Scene} {deed : Deed} {done : Option Deed}
  {moments : List Moment}

-- What a turn adds to what is seen of a suite run.
def beats (c : Scene) (done : Option Deed) (next : Scene) : List Beat :=
  Beat.listed (done.bind fun deed => Moment.invokes? ⟨c.site.world, deed⟩).toList
    ((next.site.world.logs.drop c.site.world.logs.length).filter LogEvent.isCanceling)
    (next.told.drop c.told.length)

-- The others write lines too, but they do not move a suite run from its place.
def Own (c : Scene) (done : Option Deed) (next : Scene) : Prop :=
  (∀ deed, done = some deed → ¬ deed.Outside) ∨ next.stage ≠ c.stage

-- A suite run together with all that is seen of it, in the order in which it happens.
inductive Chronicle (plan : SuitePlan) (scripts : List Script) (start : Scene) :
    List Moment → List Beat → Scene → Prop where
  | here : Chronicle plan scripts start [] [] start
  | aside {moments : List Moment} {seen : List Beat} {c : Scene} {deed : Deed} {next : Site}
      (chronicle : Chronicle plan scripts start moments seen c) (step : Site.Step c.site deed next)
      (outside : deed.Outside) :
      Chronicle plan scripts start (⟨c.site.world, deed⟩ :: moments) seen { c with site := next }
  | act {moments : List Moment} {seen : List Beat} {c next : Scene} {deed : Deed}
      (chronicle : Chronicle plan scripts start moments seen c) (turn : Turn plan scripts c (some deed) next)
      (own : c.Own (some deed) next) :
      Chronicle plan scripts start (⟨c.site.world, deed⟩ :: moments) (seen ++ c.beats (some deed) next) next
  | pass {moments : List Moment} {seen : List Beat} {c next : Scene}
      (chronicle : Chronicle plan scripts start moments seen c) (turn : Turn plan scripts c none next) :
      Chronicle plan scripts start moments (seen ++ c.beats none next) next

theorem Turn.own (turn : Turn plan scripts c (some deed) next) :
    (Site.Step c.site deed next.site ∧ deed.Outside ∧ next = { c with site := next.site }) ∨
      c.Own (some deed) next := by
  have inside (apart : ¬ deed.Outside) : c.Own (some deed) next :=
    .inl fun other same => by cases same; exact apart
  cases turn with
  | aside step outside => exact .inl ⟨step, outside, rfl⟩
  | retimes | begins | heeds => exact .inr (inside id)
  | polls stands step own =>
    rcases own with ⟨p, rfl⟩ | rfl
    · exact .inr (inside id)
    · exact .inr (inside id)
  | introduces stands | cancels stands | finishes stands => exact .inr (.inr (by simp [stands]))
  | closes stands moved =>
    refine .inr (.inr ?_)
    intro same
    rw [stands] at same
    cases same
    exact Nat.lt_irrefl _ (Closing.advance_nearer moved)

variable {seen : List Beat} {rest : List Moment}

theorem Chronicle.follow (chronicle : Chronicle plan scripts start moments seen c)
    (path : Path plan scripts c rest next) :
    ∃ later, Chronicle plan scripts start (rest ++ moments) (seen ++ later) next := by
  induction path with
  | here => exact ⟨[], by rwa [List.append_nil]⟩
  | act path turn ih =>
    obtain ⟨later, followed⟩ := ih
    rcases turn.own with ⟨step, outside, same⟩ | own
    · rw [same]
      exact ⟨later, followed.aside step outside⟩
    · have further := followed.act turn own
      rw [List.append_assoc] at further
      exact ⟨_, further⟩
  | pass path turn ih =>
    obtain ⟨later, followed⟩ := ih
    have further := followed.pass turn
    rw [List.append_assoc] at further
    exact ⟨_, further⟩

theorem Path.chronicle (path : Path plan scripts start moments c) :
    ∃ seen, Chronicle plan scripts start moments seen c := by
  obtain ⟨seen, chronicle⟩ := Chronicle.here.follow path
  rw [List.append_nil] at chronicle
  exact ⟨_, chronicle⟩

theorem Chronicle.path (chronicle : Chronicle plan scripts start moments seen c) :
    Path plan scripts start moments c := by
  induction chronicle with
  | here => exact .here
  | aside chronicle step outside ih => exact ih.act (.aside step outside)
  | act chronicle turn own ih => exact ih.act turn
  | pass chronicle turn ih => exact ih.pass turn

theorem beats_of {calls : List (Nat × List BodyStep)} {lines : List LogEvent} {events : List SuiteEvent}
    (called : (done.bind fun deed => Moment.invokes? ⟨c.site.world, deed⟩).toList = calls)
    (written : (next.site.world.logs.drop c.site.world.logs.length).filter LogEvent.isCanceling = lines)
    (grown : next.told = c.told ++ events) : c.beats done next = Beat.listed calls lines events := by
  unfold beats
  rw [called, written, grown, List.drop_left]

theorem beats_told {events : List SuiteEvent}
    (silent : done.bind (fun deed => Moment.invokes? ⟨c.site.world, deed⟩) = none)
    (reticent : c.site.world.Reticent next.site.world) (grown : next.told = c.told ++ events) :
    c.beats done next = events.map Beat.told :=
  beats_of (by rw [silent]) reticent.lines grown

theorem beats_none (silent : done.bind (fun deed => Moment.invokes? ⟨c.site.world, deed⟩) = none)
    (reticent : c.site.world.Reticent next.site.world) (same : next.told = c.told) : c.beats done next = [] := by
  have grown : next.told = c.told ++ [] := by rw [same, List.append_nil]
  exact beats_told silent reticent grown

theorem beats_invoked {test : Nat} {body : List BodyStep}
    (called : done.bind (fun deed => Moment.invokes? ⟨c.site.world, deed⟩) = some (test, body))
    (reticent : c.site.world.Reticent next.site.world) (same : next.told = c.told) :
    c.beats done next = [.invoked test body] := by
  have grown : next.told = c.told ++ [] := by rw [same, List.append_nil]
  exact beats_of (by rw [called]) reticent.lines grown

theorem Turn.grown (turn : Turn plan scripts c done next) : ∃ events, next.told = c.told ++ events := by
  cases turn with
  | opens | skips | introduces | concludes | cancels | finishes => exact ⟨_, rfl⟩
  | _ => exact ⟨[], (List.append_nil _).symm⟩

theorem Path.told_grows (path : Path plan scripts start moments c) : start.told <+: c.told := by
  induction path with
  | here => exact List.prefix_rfl
  | act path turn ih | pass path turn ih =>
    obtain ⟨events, told⟩ := turn.grown
    rw [told]
    exact ih.trans (List.prefix_append _ _)

-- The events among the beats are all that was told.
theorem Chronicle.events (chronicle : Chronicle plan scripts start moments seen c) (untold : start.told = []) :
    seen.filterMap Beat.told? = c.told := by
  have added {c next : Scene} {done : Option Deed} (turn : Turn plan scripts c done next) :
      c.told ++ (c.beats done next).filterMap Beat.told? = next.told := by
    obtain ⟨events, grown⟩ := turn.grown
    rw [beats_of rfl rfl grown, Beat.told_listed, grown]
  induction chronicle with
  | here => exact untold.symm
  | aside chronicle step outside ih => exact ih
  | act chronicle turn own ih => rw [List.filterMap_append, ih, added turn]
  | pass chronicle turn ih => rw [List.filterMap_append, ih, added turn]

-- The bodies among the beats are all that were invoked, whoever did it.
theorem Chronicle.calls (chronicle : Chronicle plan scripts start moments seen c) :
    seen.filterMap Beat.invoked? = moments.reverse.filterMap Moment.invokes? := by
  have called {c next : Scene} {done : Option Deed} (turn : Turn plan scripts c done next) :
      (c.beats done next).filterMap Beat.invoked? =
        (done.bind fun deed => Moment.invokes? ⟨c.site.world, deed⟩).toList := by
    obtain ⟨events, grown⟩ := turn.grown
    rw [beats_of rfl rfl grown, Beat.invoked_listed]
  have latest (m : Moment) : [m].filterMap Moment.invokes? = m.invokes?.toList := by
    cases called : m.invokes? <;> simp [called]
  induction chronicle with
  | here => rfl
  | @aside moments seen c deed next chronicle step outside ih =>
    have silent : Moment.invokes? ⟨c.site.world, deed⟩ = none := by
      cases deed <;> first | rfl | exact outside.elim
    rw [List.reverse_cons, List.filterMap_append, latest, silent, ih]
    exact (List.append_nil _).symm
  | act chronicle turn own ih =>
    rw [List.reverse_cons, List.filterMap_append, List.filterMap_append, latest, ih, called turn]
    rfl
  | pass chronicle turn ih =>
    rw [List.filterMap_append, ih, called turn]
    exact List.append_nil _

-- The lines among the beats can be read in the log, in their order.
theorem Chronicle.lines (chronicle : Chronicle plan scripts start moments seen c) :
    (seen.filterMap Beat.wrote?).Sublist
      ((c.site.world.logs.drop start.site.world.logs.length).filter LogEvent.isCanceling) ∧
    ∃ lines, c.site.world.logs = start.site.world.logs ++ lines := by
  have written {c next : Scene} {done : Option Deed} (turn : Turn plan scripts c done next) :
      (c.beats done next).filterMap Beat.wrote? =
        (next.site.world.logs.drop c.site.world.logs.length).filter LogEvent.isCanceling := by
    obtain ⟨events, grown⟩ := turn.grown
    rw [beats_of rfl rfl grown, Beat.wrote_listed]
  induction chronicle with
  | here => exact ⟨by simp, [], (List.append_nil _).symm⟩
  | aside chronicle step outside ih =>
    obtain ⟨part, lines, grown⟩ := ih
    obtain ⟨more, later⟩ := step.logs
    refine ⟨part.trans ?_, lines ++ more, by rw [later, grown, List.append_assoc]⟩
    rw [later, grown, List.append_assoc, List.drop_left, List.drop_left, List.filter_append]
    exact List.sublist_append_left _ _
  | act chronicle turn own ih =>
    obtain ⟨part, lines, grown⟩ := ih
    obtain ⟨more, later⟩ := turn.step.logs
    refine ⟨?_, lines ++ more, by rw [later, grown, List.append_assoc]⟩
    rw [List.filterMap_append, written turn, later, List.drop_left]
    rw [grown, List.drop_left] at part
    rw [grown, List.append_assoc, List.drop_left, List.filter_append]
    exact part.append (List.Sublist.refl _)
  | pass chronicle turn ih =>
    obtain ⟨part, lines, grown⟩ := ih
    have still := turn.still
    refine ⟨?_, lines, by rw [still, grown]⟩
    rw [List.filterMap_append, written turn, still, List.drop_length, List.filter_nil, List.append_nil]
    exact part

end Scene

namespace World
variable {w v u : World} {test : Nat}

theorem Reticent.trans (first : Reticent w v) (second : Reticent v u) : Reticent w u := by
  obtain ⟨lines, grown, plain⟩ := first
  obtain ⟨more, later, quiet⟩ := second
  refine ⟨lines ++ more, by rw [later, grown, List.append_assoc], ?_⟩
  intro line member
  rcases List.mem_append.mp member with old | new
  · exact plain line old
  · exact quiet line new

theorem Reticent.canceling (reticent : Reticent w v) :
    v.logs.filter LogEvent.isCanceling = w.logs.filter LogEvent.isCanceling := by
  obtain ⟨lines, grown, plain⟩ := reticent
  have none_ : lines.filter LogEvent.isCanceling = [] :=
    List.filter_eq_nil_iff.mpr fun line member => by simp [plain line member]
  rw [grown, List.filter_append, none_, List.append_nil]

end World

-- As many lines say that tests are skipped as events do, in the same order.
def SuiteState.Lined {σ : Type} (plan : SuitePlan) (lines : List LogEvent) (s : SuiteState σ) : Prop :=
  s.world.logs.filter LogEvent.isCanceling =
    lines ++ (s.told.filterMap SuiteEvent.cancels?).map (Suite.cancelingEvent plan.suite)

theorem SuiteState.Lined.onWorld {σ : Type} {plan : SuitePlan} {lines : List LogEvent} {s : SuiteState σ}
    {heard : σ} {w : World} {stats : Stats} {reason : Option CancelReason} (lined : s.Lined plan lines)
    (reticent : s.world.Reticent w) : SuiteState.Lined plan lines ⟨w, heard, stats, reason, s.told⟩ := by
  unfold SuiteState.Lined
  rw [reticent.canceling]
  exact lined

namespace Scene
variable {σ α β : Type} {plan : SuitePlan} {host : Host σ} {calm : σ → Prop} {lines : List LogEvent}
  {s : SuiteState σ} {script : Script} {index : Nat}

-- A part of the program that returns, and leaves the log in keeping with the events.
def Lines (calm : σ → Prop) (plan : SuitePlan) (lines : List LogEvent)
    (result : EStateM.Result ErrorChain (SuiteState σ) α) : Prop :=
  ∃ value s, result = .ok value s ∧ calm s.host ∧ s.Lined plan lines

theorem Lines.bind {x : SuiteM σ α} {f : α → SuiteM σ β} (first : Lines calm plan lines (x s))
    (second : ∀ value s, calm s.host → s.Lined plan lines → Lines calm plan lines (f value s)) :
    Lines calm plan lines ((x >>= f) s) := by
  obtain ⟨value, later, done, kept, lined⟩ := first
  rw [SuiteM.bind_apply, done]
  exact second value later kept lined

end Scene
end TrialBench
