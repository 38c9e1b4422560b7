import Mathlib.Data.List.TakeWhile
import TrialBench.Proofs.Delivery
namespace TrialBench

namespace Outcome
variable {start : Outcome} {marks more : List Mark}

-- From a fresh start the verdicts count as a set: neither their order nor their number matters.
theorem markAll_members (same : ∀ verdict, verdict ∈ marks ↔ verdict ∈ more) :
    Outcome.running.markAll marks = Outcome.running.markAll more := by
  obtain ⟨fail, success, running, started⟩ := running_markAll marks
  obtain ⟨fail', success', running', -⟩ := running_markAll more
  rw [same] at fail
  rw [same, same] at success running
  cases made : Outcome.running.markAll marks with
  | notStarted => exact absurd made started
  | running => exact (running'.mpr (running.mp made)).symm
  | success => exact (success'.mpr (success.mp made)).symm
  | fail => exact (fail'.mpr (fail.mp made)).symm

theorem markAll_kept :
    start.markAll marks = start ↔
      (.fail ∈ marks → start = .fail) ∧ (.pass ∈ marks → start.isTerminal = true) := by
  have undecided (open_ : start.isTerminal = false) : start.markAll marks = start ↔ marks = [] := by
    constructor
    · intro same
      apply Classical.byContradiction
      intro some_
      have ends : (start.markAll marks).isTerminal = true := markAll_terminal some_
      rw [same, open_] at ends
      cases ends
    · rintro rfl
      rfl
  have empty : marks = [] ↔ .fail ∉ marks ∧ .pass ∉ marks := by
    rw [List.eq_nil_iff_forall_not_mem]
    exact ⟨fun none_ => ⟨none_ _, none_ _⟩, fun ⟨noFail, noPass⟩ verdict => by cases verdict <;> assumption⟩
  cases start with
  | fail => simp [markAll_fail, isTerminal]
  | success => simp [markAll_success, isTerminal]
  | running => simp [undecided rfl, empty, isTerminal]
  | notStarted => simp [undecided rfl, empty, isTerminal]

end Outcome

-- The gate of the handler that a message came through, at the call of the handler and at
-- the two steps of its answer.
def Op.answers? : Op → Option (Nat × Nat)
  | .call (.verdict test gate) _ | .note test gate _ | .release test gate => some (test, gate)
  | _ => none

theorem Op.answers_ref {op : Op} {ref : Nat × Nat} (answers : op.answers? = some ref) : op.ref? = some ref := by
  cases op with
  | call handler message =>
    cases handler with
    | verdict test gate => exact answers
    | recorder followUp tag owner => cases answers
  | note | release => exact answers
  | _ => cases answers

namespace Moment
variable {m : Moment} {test gate : Nat} {verdict : Mark}

def answers? (m : Moment) : Option (Nat × Nat) := m.op?.bind fun done => done.2.answers?

theorem answers_op {ref : Nat × Nat} (answers : m.answers? = some ref) :
    ∃ thread op, m.op? = some (thread, op) ∧ op.answers? = some ref := by
  obtain ⟨⟨thread, op⟩, did, there⟩ := Option.bind_eq_some_iff.mp answers
  exact ⟨thread, op, did, there⟩

theorem answers_of_op {thread : Nat} {op : Op} (did : m.op? = some (thread, op)) : m.answers? = op.answers? := by
  rw [answers?, did]
  rfl

theorem answers_ref {ref : Nat × Nat} (answers : m.answers? = some ref) : m.ref? = some ref := by
  obtain ⟨thread, op, did, there⟩ := answers_op answers
  rw [ref_of_op did]
  exact Op.answers_ref there

-- A step for a message does what its handler does, and nothing else to the run.
structure Answers (test : Nat) (m : Moment) : Prop where
  restarts : m.restarts test = false
  clears : m.clears test = false
  quiet : m.asksCancel test = false
  still : ∀ millis, m.deed ≠ .elapse millis
  idle : ∀ thread p, m.deed = .advance thread test p → ∃ op ops rest, p = .body (op :: ops) rest

theorem answers_plain {ref : Nat × Nat} (answers : m.answers? = some ref) : m.Answers test := by
  obtain ⟨thread, op, did, there⟩ := answers_op answers
  have quiet : op.asksCancel test = false := by
    cases op with
    | act => cases there
    | _ => rfl
  obtain ⟨w, deed⟩ := m
  cases deed with
  | work doer op' =>
    cases did
    refine ⟨rfl, rfl, quiet, ?_, ?_⟩
    · intro millis same; cases same
    · intro thread p same; cases same
  | advance doer own p =>
    rcases p with _ | _ | ⟨_ | ⟨op', ops⟩, rest⟩ | _ <;> cases did
    refine ⟨rfl, rfl, quiet, ?_, ?_⟩
    · intro millis same; cases same
    · intro thread p same; cases same; exact ⟨_, _, _, rfl⟩
  | _ => cases did

end Moment

section
variable {α : Type} {keep hold : α → Bool} {items : List α}

theorem takeWhile_filter (held : ∀ item, keep item = false → hold item = true) :
    (items.filter keep).takeWhile hold = (items.takeWhile hold).filter keep := by
  induction items with
  | nil => rfl
  | cons first rest ih =>
    rw [List.filter_cons, List.takeWhile_cons]
    cases kept : keep first with
    | true =>
      rw [if_pos rfl, List.takeWhile_cons]
      split
      · rw [List.filter_cons, if_pos kept, ih]
      · rfl
    | false =>
      rw [if_pos (held first kept), List.filter_cons, kept]
      exact ih

end

namespace Site
variable {history older newer : List Moment} {start s next : Site} {deed : Deed} {m : Moment}
  {test other gate deadline i : Nat} {watched : Bool} {waited : Duration} {p : Phase} {verdict : Mark}

-- The part of a history up to the moment that the latest run of a test began.
def before (test : Nat) (history : List Moment) : List Moment :=
  history.dropWhile fun m => !m.restarts test

-- The step is for a message that came through the handler of an earlier run of the test.
def outdated (test : Nat) (history : List Moment) (m : Moment) : Bool :=
  m.answers?.any fun ref => ref.1 = test && (made (before test history)).contains ref

-- The latest run of a test without the messages for earlier runs, and those messages.
def owned (test : Nat) (history : List Moment) : List Moment :=
  (since test history).filter fun m => !outdated test history m

def belated (test : Nat) (history : List Moment) : List Moment :=
  (since test history).filter (outdated test history)

-- What a run comes to by itself, and the verdicts of messages for earlier runs.
def ownOutcome (test : Nat) (history : List Moment) : Outcome :=
  Outcome.running.markAll ((owned test history).filterMap (·.markOn test)).reverse

def lateMarks (test : Nat) (history : List Moment) : List Mark :=
  ((belated test history).filterMap (·.markOn test)).reverse

theorem outdated_exact :
    outdated test history m = true ↔
      ∃ gate, m.answers? = some (test, gate) ∧ (test, gate) ∈ made (before test history) := by
  cases answers : m.answers? with
  | none => simp [outdated, answers]
  | some ref =>
    obtain ⟨named, gate⟩ := ref
    simp only [outdated, answers, Option.any_some, Bool.and_eq_true, decide_eq_true_eq, List.contains_iff_mem,
      Option.some.injEq, Prod.mk.injEq]
    constructor
    · rintro ⟨rfl, there⟩
      exact ⟨gate, ⟨rfl, rfl⟩, there⟩
    · rintro ⟨_, ⟨rfl, rfl⟩, there⟩
      exact ⟨rfl, there⟩

theorem made_split : made history = made (since test history) ++ made (before test history) := by
  rw [made, made, made, ← List.filterMap_append]
  congr 1
  exact List.takeWhile_append_dropWhile.symm

-- A gate belongs to one run: what an earlier run made, this one did not make.
theorem before_apart (grounded : Grounded history s) {ref : Nat × Nat} (now : ref ∈ made (since test history)) :
    ref ∉ made (before test history) := by
  intro early
  have apart := grounded.apart
  rw [made_split] at apart
  exact Nat.lt_irrefl _ ((List.pairwise_append.mp apart).2.2 _ now _ early)

theorem lastGate_since (last : lastGate test history = some gate) : (test, gate) ∈ made (since test history) := by
  obtain ⟨m, member, makes⟩ := lastGate_moment last
  exact List.mem_filterMap.mpr ⟨m, member, makes⟩

theorem outdated_owned (grounded : Grounded history s) (now : (test, gate) ∈ made (since test history))
    (answers : m.answers? = some (other, gate)) : outdated test history m = false := by
  apply Bool.eq_false_iff.mpr
  intro late
  obtain ⟨gate', answers', early⟩ := outdated_exact.mp late
  cases answers.symm.trans answers'
  exact before_apart grounded now early

theorem mem_owned : m ∈ owned test history ↔ m ∈ since test history ∧ outdated test history m = false := by
  simp [owned]

theorem mem_belated : m ∈ belated test history ↔ m ∈ since test history ∧ outdated test history m = true := by
  simp [belated]

theorem outdated_plain (late : outdated test history m = true) : m.Answers test := by
  obtain ⟨gate, answers, -⟩ := outdated_exact.mp late
  exact Moment.answers_plain answers

theorem outdated_cons (going : m.restarts test = false) : outdated test (m :: history) = outdated test history := by
  have same : before test (m :: history) = before test history := by simp [before, going]
  funext k
  unfold outdated
  rw [same]

theorem owned_late (late : outdated test history m = true) : owned test (m :: history) = owned test history := by
  have going := (outdated_plain late).restarts
  unfold owned
  rw [since_cons going, outdated_cons going, List.filter_cons, late]
  rfl

theorem release_owned (reached : Reached history s)
    (seat : s.threads[i]? = some (.run test watched (.waiting gate deadline waited)))
    (member : m ∈ history) (release : m.Releases gate) : m ∈ owned test history := by
  obtain ⟨inside, -⟩ := waiting_released reached seat member release
  obtain ⟨thread, other, did⟩ := release
  have now := lastGate_since (waiting_last reached seat)
  exact mem_owned.mpr ⟨inside, outdated_owned (reached_grounded reached) now (Moment.answers_of_op did)⟩

theorem sinceClear_owned (cleared : ∃ m ∈ since test history, (!m.clears test) = false) :
    sinceClear test (owned test history) = (sinceClear test history).filter fun m => !outdated test history m := by
  have held (m : Moment) (late : (!outdated test history m) = false) : (!m.clears test) = true := by
    rw [(outdated_plain (by simpa using late)).clears]
    rfl
  have inside : (since test history).takeWhile (fun m => !m.clears test) = sinceClear test history := by
    rw [since, List.takeWhile_takeWhile]
    apply takeWhile_same
    · intro m both
      simp only [decide_eq_true_eq] at both
      exact both.1
    · intro m member
      have going := List.mem_takeWhile_imp (takeWhile_within cleared member)
      have kept := List.mem_takeWhile_imp member
      simp [going, kept]
  rw [sinceClear, owned, takeWhile_filter held, inside]

theorem request_owned (cleared : ∃ m ∈ since test history, (!m.clears test) = false)
    (asks : m.asksCancel test = true) : m ∈ sinceClear test (owned test history) ↔ m ∈ sinceClear test history := by
  have timely : outdated test history m = false := by
    apply Bool.eq_false_iff.mpr
    intro late
    rw [(outdated_plain late).quiet] at asks
    cases asks
  rw [sinceClear_owned cleared, List.mem_filter, timely]
  simp

-- What decides a wait belongs to its run.
theorem owned_decides (reached : Reached history s)
    (seat : s.threads[i]? = some (.run test watched (.waiting gate deadline waited))) :
    Decides test gate (owned test history) m ↔ Decides test gate history m := by
  constructor
  · rintro (⟨member, release⟩ | ⟨member, asks⟩)
    · exact .inl ⟨since_member (mem_owned.mp member).1, release⟩
    · exact .inr ⟨(request_owned (waiting_cleared reached seat) asks).mp member, asks⟩
  · rintro (⟨member, release⟩ | ⟨member, asks⟩)
    · exact .inl ⟨release_owned reached seat member release, release⟩
    · exact .inr ⟨(request_owned (waiting_cleared reached seat) asks).mpr member, asks⟩

theorem owned_blocked (reached : Reached history s)
    (seat : s.threads[i]? = some (.run test watched (.waiting gate deadline waited))) :
    Run.advance s.world test (.waiting gate deadline waited) = .blocked deadline ↔
      (¬ ∃ m, Decides test gate (owned test history) m) ∧ s.world.clock < deadline := by
  rw [waiting_blocked reached seat]
  simp only [owned_decides reached seat]

theorem owned_polled (reached : Reached history s)
    (seat : s.threads[i]? = some (.run test watched (.waiting gate deadline waited)))
    (step : Step s (.advance i test (.waiting gate deadline waited)) next) :
    ∃ how, next.threads[i]? = some (.run test watched (.ended how)) ∧
      Polled test gate deadline waited (owned test history) s next how := by
  obtain ⟨how, taken, polled⟩ := waiting_polled reached seat step
  have released : (∃ m ∈ owned test history, m.Releases gate) ↔ ∃ m ∈ history, m.Releases gate := by
    constructor
    · rintro ⟨m, member, release⟩
      exact ⟨m, since_member (mem_owned.mp member).1, release⟩
    · rintro ⟨m, member, release⟩
      exact ⟨m, release_owned reached seat member release, release⟩
  have requested : (∃ m ∈ sinceClear test (owned test history), m.asksCancel test = true) ↔
      ∃ m ∈ sinceClear test history, m.asksCancel test = true :=
    exists_congr fun m => and_congr_left fun asks => request_owned (waiting_cleared reached seat) asks
  refine ⟨how, taken, ?_, ?_, ?_, polled.late, polled.flag⟩
  · rw [released, polled.released]
  · rw [released, requested, polled.canceled]
  · simp only [owned_decides reached seat, polled.timedOut]

theorem late_stays (step : Step s deed next)
    (seat : s.threads[i]? = some (.run test watched (.waiting gate deadline waited)))
    (late : outdated test history ⟨s.world, deed⟩ = true) :
    next.threads[i]? = some (.run test watched (.waiting gate deadline waited)) ∧
      next.world.clock = s.world.clock := by
  have plain := outdated_plain late
  refine ⟨?_, step.clock_kept plain.still⟩
  obtain ⟨watched', p', seat', same, rfl | ⟨did, -⟩⟩ := step.run_stays seat
  · rcases same with rfl | ⟨event, rfl⟩
    · exact seat'
    · cases (outdated_exact.mp late).choose_spec.1
  · obtain ⟨op, ops, rest, same⟩ := plain.idle i _ did
    cases same

-- However many messages for earlier runs come, a run that waits stays where it is.
theorem Path.unmoved {moments : List Moment}
    (path : Path (fun s deed => outdated test history ⟨s.world, deed⟩ = true) start moments s)
    (seat : start.threads[i]? = some (.run test watched (.waiting gate deadline waited))) :
    s.threads[i]? = some (.run test watched (.waiting gate deadline waited)) ∧
      s.world.clock = start.world.clock ∧ owned test (moments ++ history) = owned test history ∧
      outdated test (moments ++ history) = outdated test history := by
  induction path with
  | here => exact ⟨seat, rfl, rfl, rfl⟩
  | step path step late ih =>
    obtain ⟨there, clock, owned_, same⟩ := ih
    obtain ⟨stays, still⟩ := late_stays step there late
    rw [← same] at late
    refine ⟨stays, still.trans clock, (owned_late late).trans owned_, ?_⟩
    exact (outdated_cons (outdated_plain late).restarts).trans same

theorem late_unmoved {moments : List Moment} (reached : Reached history start)
    (seat : start.threads[i]? = some (.run test watched (.waiting gate deadline waited)))
    (path : Path (fun s deed => outdated test history ⟨s.world, deed⟩ = true) start moments s) :
    s.threads[i]? = some (.run test watched (.waiting gate deadline waited)) ∧
      owned test (moments ++ history) = owned test history ∧
      (Run.advance s.world test (.waiting gate deadline waited) = .blocked deadline ↔
        Run.advance start.world test (.waiting gate deadline waited) = .blocked deadline) := by
  obtain ⟨stays, clock, owned_, -⟩ := path.unmoved seat
  refine ⟨stays, owned_, ?_⟩
  rw [owned_blocked (path.reached reached) stays, owned_blocked reached seat, owned_, clock]

theorem merged_parted :
    Outcome.running.markAll (marks test history) = (ownOutcome test history).markAll (lateMarks test history) := by
  rw [ownOutcome, ← Outcome.markAll_append]
  apply Outcome.markAll_members
  intro verdict
  simp only [marks_member, List.mem_append, lateMarks, List.mem_reverse, List.mem_filterMap, mem_owned, mem_belated]
  constructor
  · rintro ⟨m, inside, marked⟩
    cases late : outdated test history m with
    | false => exact .inl ⟨m, ⟨inside, late⟩, marked⟩
    | true => exact .inr ⟨m, ⟨inside, late⟩, marked⟩
  · rintro (⟨m, ⟨inside, -⟩, marked⟩ | ⟨m, ⟨inside, -⟩, marked⟩)
    · exact ⟨m, inside, marked⟩
    · exact ⟨m, inside, marked⟩

-- Where the verdict that a moment notes comes from, when no earlier run has a part in it.
inductive Source (test : Nat) (history : List Moment) (m : Moment) (verdict : Mark) : Prop where
  | body (w : World) (rest : List BodyStep) (did : m.own? test = some (w, .body [] (.mark verdict :: rest)))
  | assertion (thread : Nat) (did : m.op? = some (thread, .mark test verdict))
  | handle (thread owner : Nat) (named : Option Nat) (did : m.op? = some (thread, .act owner (.mark named verdict)))
      (same : named.getD owner = test)
  | owner (did : m.deed = .mark test verdict)
  | message (thread gate : Nat) (did : m.op? = some (thread, .note test gate verdict))
      (made : (test, gate) ∈ made (since test history))
  | wait (how : WaitEnd) (did : m.waitEnd? test = some how) (missed : how ≠ .released) (failed : verdict = .fail)

theorem marked_op {thread : Nat} {op : Op} (did : m.op? = some (thread, op)) (marked : op.markOn test = some verdict)
    (own : ∀ gate, op = .note test gate verdict → (test, gate) ∈ made (since test history)) :
    Source test history m verdict := by
  unfold Op.markOn at marked
  split at marked
  · rename_i owner named noted
    split at marked <;> cases marked
    exact .handle thread owner named did ‹_›
  · split at marked <;> cases marked
    subst_vars
    exact .assertion thread did
  · rename_i named gate noted
    split at marked <;> cases marked
    subst_vars
    exact .message thread gate did (own gate rfl)
  · cases marked

theorem noted_source (own : ∀ thread gate, m.op? = some (thread, .note test gate verdict) →
      (test, gate) ∈ made (since test history)) (noted : m.notedOn test = some verdict) :
    Source test history m verdict := by
  obtain ⟨w, deed⟩ := m
  cases deed with
  | work thread op =>
    apply marked_op rfl noted
    intro gate same
    exact own thread gate (by rw [← same]; rfl)
  | mark named given =>
    obtain ⟨rfl, same⟩ := Option.ite_none_right_eq_some.mp noted
    cases same
    exact .owner rfl
  | advance thread named p =>
    cases p with
    | body underway rest =>
      cases underway with
      | cons op ops =>
        apply marked_op rfl noted
        intro gate same
        exact own thread gate (by rw [← same]; rfl)
      | nil =>
        cases rest with
        | nil => cases noted
        | cons step rest =>
          cases step with
          | mark given =>
            obtain ⟨rfl, same⟩ := Option.ite_none_right_eq_some.mp noted
            cases same
            exact .body w rest (if_pos rfl)
          | _ => cases noted
    | _ => cases noted
  | _ => cases noted

theorem marked_source (own : ∀ thread gate, m.op? = some (thread, .note test gate verdict) →
      (test, gate) ∈ made (since test history)) (marked : m.markOn test = some verdict) :
    Source test history m verdict := by
  cases verdict with
  | pass => exact noted_source own (Moment.markOn_pass.mp marked)
  | fail =>
    rcases Moment.markOn_fail.mp marked with noted | ⟨how, ended, missed⟩
    · exact noted_source own noted
    · exact .wait how ended missed rfl

theorem answers_made (reached : Reached history s) (member : m ∈ since test history)
    (answers : m.answers? = some (test, gate)) :
    (test, gate) ∈ made (since test history) ∨ (test, gate) ∈ made (before test history) := by
  obtain ⟨newer, older, whole⟩ := List.append_of_mem (since_member member)
  have early := (reached_grounded reached).past whole _ (Moment.answers_ref answers)
  have there : (test, gate) ∈ made history := by
    rw [whole, made, List.filterMap_append]
    exact List.mem_append_right _ (made_older early)
  rw [made_split] at there
  exact List.mem_append.mp there

theorem outdated_unmade (reached : Reached history s) (member : m ∈ since test history)
    (answers : m.answers? = some (test, gate)) :
    outdated test history m = true ↔ (test, gate) ∉ made (since test history) := by
  constructor
  · intro late now
    rw [outdated_owned (reached_grounded reached) now answers] at late
    cases late
  · intro absent
    have early := (answers_made reached member answers).resolve_left absent
    exact outdated_exact.mpr ⟨gate, answers, early⟩

theorem owned_source (reached : Reached history s) (member : m ∈ owned test history)
    (marked : m.markOn test = some verdict) : Source test history m verdict := by
  obtain ⟨inside, timely⟩ := mem_owned.mp member
  apply marked_source _ marked
  intro thread gate noted
  apply Classical.byContradiction
  intro absent
  rw [(outdated_unmade reached inside (Moment.answers_of_op noted)).mpr absent] at timely
  cases timely

theorem stored_parted {cell : TestCell} (reached : Reached history s)
    (seat : s.threads[i]? = some (.run test watched p)) (live : p.Live) (going : ∀ body, p ≠ .start body)
    (found : s.world.test? test = some cell) :
    cell.outcome = (ownOutcome test history).markAll (lateMarks test history) := by
  obtain ⟨-, ran⟩ := reached_course reached seat live going
  rw [reached_outcome reached found ran, merged_parted]

theorem returned_parted {outcome : Outcome} (reached : Reached history s) (step : Step s (.advance i test p) next)
    (resolved : next.threads[i]? = some (.run test watched (.done (.finished outcome)))) :
    outcome = (ownOutcome test history).markAll (lateMarks test history) := by
  obtain ⟨seat, moves, -, -⟩ := step.finishing resolved
  obtain ⟨cell, found⟩ := World.test?_of_known (reached_known reached seat)
  rcases moves.done with ⟨_, _, _, _, same⟩ | ⟨rfl, same⟩
  · cases same
  · cases same
    rw [World.outcomeOf, found]
    exact stored_parted reached seat trivial (by simp) found

-- What messages for earlier runs can do to a run, and what they cannot. They end no wait.
-- Their verdicts are merged with what the run comes to by itself.
structure Parted (i test : Nat) (watched : Bool) (history : List Moment) (s : Site) (p : Phase) : Prop where
  apart : ∀ m ∈ since test history, ∀ gate, m.answers? = some (test, gate) →
    (outdated test history m = true ↔ (test, gate) ∉ made (since test history))
  sources : ∀ m ∈ owned test history, ∀ verdict, m.markOn test = some verdict → Source test history m verdict
  unmoved : ∀ gate deadline waited, p = .waiting gate deadline waited → ∀ moments later,
    Path (fun s deed => outdated test history ⟨s.world, deed⟩ = true) s moments later →
      later.threads[i]? = some (.run test watched p) ∧
      owned test (moments ++ history) = owned test history ∧
      (Run.advance later.world test p = .blocked deadline ↔ Run.advance s.world test p = .blocked deadline)
  blocked : ∀ gate deadline waited, p = .waiting gate deadline waited →
    (Run.advance s.world test p = .blocked deadline ↔
      (¬ ∃ m, Decides test gate (owned test history) m) ∧ s.world.clock < deadline)
  ends : ∀ gate deadline waited, p = .waiting gate deadline waited →
    ∀ next, Step s (.advance i test p) next → ∃ how, next.threads[i]? = some (.run test watched (.ended how)) ∧
      Polled test gate deadline waited (owned test history) s next how
  stored : p.Live → (∀ body, p ≠ .start body) → ∀ cell, s.world.test? test = some cell →
    cell.outcome = (ownOutcome test history).markAll (lateMarks test history)
  returned : ∀ next watched' outcome, Step s (.advance i test p) next →
    next.threads[i]? = some (.run test watched' (.done (.finished outcome))) →
      outcome = (ownOutcome test history).markAll (lateMarks test history) ∧
      (outcome = ownOutcome test history ↔
        (.fail ∈ lateMarks test history → ownOutcome test history = .fail) ∧
        (.pass ∈ lateMarks test history → (ownOutcome test history).isTerminal = true))

-- The first run of a test gives up its wait. The message that it waited for comes while
-- the second run waits, and does not end that wait. The second run's own message, which
-- has no verdict, does.
theorem late_pass_path : ∃ history s next, Reached history s ∧
    s.threads[1]? = some (.run 0 false .reading) ∧ Step s (.advance 1 0 .reading) next ∧
    next.threads[1]? = some (.run 0 false (.done (.finished .success))) ∧
    ownOutcome 0 history = .running ∧ lateMarks 0 history = [.pass] := by
  have fresh := @Reached.fresh ⟨"device", "1.0"⟩ [] [("late", .ofSeconds 1)]
  have begun := fresh.step (@Step.begin _ 0 false [.prepare true false] (by decide) fun _ _ member => by cases member)
  have waits := (progress_path (i := 0) 8 rfl).reached begun
  have late := waits.step (@Step.elapse _ 1000)
  have gaveUp := (progress_path (i := 0) 4 rfl).reached late
  have idle : ∀ watched p, .run 0 watched p ∈ [Thread.run 0 false (.done (.finished .fail))] → ¬ p.Live := by
    intro watched p member
    cases List.mem_singleton.mp member
    exact id
  have again := gaveUp.step (@Step.begin _ 0 false [.prepare true false] (by decide) idle)
  have waits := (progress_path (i := 1) 8 rfl).reached again
  have hired := waits.step (@Step.spawn _ 0 (.post (some 0) ⟨100, []⟩))
  have posted := hired.step (.work (i := 2) rfl)
  have called := posted.step (.work (i := 2) rfl)
  have noted := called.step (.work (i := 2) rfl)
  have ignored := noted.step (.work (i := 2) rfl)
  have waiting := ignored.step (.rest (i := 1) rfl rfl)
  have hired := waiting.step (@Step.spawn _ 0 (.post (some 1) ⟨42, []⟩))
  have posted := hired.step (.work (i := 3) rfl)
  have called := posted.step (.work (i := 3) rfl)
  have released := called.step (.work (i := 3) rfl)
  have reads := (progress_path (i := 1) 2 rfl).reached released
  exact ⟨_, _, _, reads, rfl, .advance (i := 1) rfl rfl, rfl, rfl, rfl⟩

-- A late message has no part in how the wait of a later run ends. But the verdict that it
-- brings counts for that run as if it were its own.
theorem late_messages (reached : Reached history s) (seat : s.threads[i]? = some (.run test watched p)) :
    Parted i test watched history s p := by
  refine ⟨?_, ?_, ?_, ?_, ?_, ?_, ?_⟩
  · intro m member gate answers
    exact outdated_unmade reached member answers
  · intro m member verdict marked
    exact owned_source reached member marked
  · rintro gate deadline waited rfl moments later path
    exact late_unmoved reached seat path
  · rintro gate deadline waited rfl
    exact owned_blocked reached seat
  · rintro gate deadline waited rfl next step
    exact owned_polled reached seat step
  · intro live going cell found
    exact stored_parted reached seat live going found
  · intro next watched' outcome step resolved
    have merged := returned_parted reached step resolved
    refine ⟨merged, ?_⟩
    rw [merged]
    exact Outcome.markAll_kept

theorem late_messages_passing : ∃ history s next, Reached history s ∧
    s.threads[1]? = some (.run 0 false .reading) ∧ Step s (.advance 1 0 .reading) next ∧
    next.threads[1]? = some (.run 0 false (.done (.finished .success))) ∧ lateMarks 0 history = [.pass] ∧
    Parted 1 0 false history s .reading := by
  obtain ⟨history, s, next, reached, seat, step, resolved, -, late⟩ := late_pass_path
  exact ⟨history, s, next, reached, seat, step, resolved, late, late_messages reached seat⟩

-- So a run does not always return what it comes to by itself.
theorem late_pass_counts : ¬ ∀ (history : List Moment) (s next : Site) (i test : Nat) (watched : Bool)
    (outcome : Outcome), Reached history s → Step s (.advance i test .reading) next →
      next.threads[i]? = some (.run test watched (.done (.finished outcome))) → outcome = ownOutcome test history := by
  intro alone
  obtain ⟨history, s, next, reached, -, step, resolved, own, -⟩ := late_pass_path
  have same := alone history s next 1 0 false .success reached step resolved
  rw [own] at same
  cases same

end Site
end TrialBench
