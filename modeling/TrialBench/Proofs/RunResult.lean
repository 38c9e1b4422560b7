import Mathlib.Data.List.Basic
import TrialBench.Proofs.Alone
import TrialBench.Proofs.Answers
namespace TrialBench

namespace Run
variable {test : Nat} {own : List (World × Phase)} {p : Phase}

def bodyEnd (own : List (World × Phase)) : Option (Option ErrorChain) :=
  own.findSome? fun step =>
    match step.2 with
    | .returned error => some error
    | _ => none

-- A body ends with an error where it stops, or where it cannot make a session and does
-- not ignore that.
def StoppedWith (cause : ErrorChain) (own : List (World × Phase)) : Prop :=
  ∃ w rest, (w, .body [] (.stop cause :: rest)) ∈ own ∨
    w.newChannel.2 = .error cause ∧ ∃ enable, (w, .body [] (.prepare enable false :: rest)) ∈ own

theorem Course.finished {outcome : Outcome} (course : Course test own (.done (.finished outcome)))
    (known : ∀ step ∈ own, step.1.test? test ≠ none) :
    bodyEnd own = some none ∧ ∃ w, (w, .body [] []) ∈ own := by
  have carried {own : List (World × Phase)} {w : World} (course : Course test own (.returned none)) :
      bodyEnd ((w, .returned none) :: own) = some none ∧ ∃ v, (v, .body [] []) ∈ (w, .returned none) :: own := by
    obtain ⟨v, before, rfl⟩ := course.exhausted
    exact ⟨rfl, v, by simp⟩
  have waited {own : List (World × Phase)} {how : WaitEnd} (course : Course test own (.ended how)) :
      bodyEnd own = some none ∧ ∃ w, (w, .body [] []) ∈ own := by
    obtain ⟨w, v, gate, deadline, waited, before, rfl, -, course⟩ := course.ended
    obtain ⟨w', cell, before, rfl, -, -, -, -, -⟩ := course.waiting
    cases course with
    | moved earlier moves =>
      obtain ⟨ended, v, member⟩ := carried (w := w') earlier
      exact ⟨ended, v, List.mem_cons_of_mem _ member⟩
  cases course with
  | moved earlier moves =>
    cases moves with
    | read =>
      rcases earlier.reading with ⟨w, error, before, rfl, course, lost | ⟨cell, found, rfl, noGate⟩⟩ |
        ⟨w, before, rfl, course⟩ | ⟨w, v, how, before, rfl, missed, course⟩
      · exact absurd lost (known (w, .returned error) (List.mem_cons_of_mem _ List.mem_cons_self))
      · obtain ⟨ended, v, member⟩ := carried (w := w) course
        exact ⟨ended, v, List.mem_cons_of_mem _ member⟩
      · obtain ⟨ended, v, member⟩ := waited course
        exact ⟨ended, v, List.mem_cons_of_mem _ (List.mem_cons_of_mem _ member)⟩
      · obtain ⟨ended, v, member⟩ := waited course
        exact ⟨ended, v, List.mem_cons_of_mem _ (List.mem_cons_of_mem _ (List.mem_cons_of_mem _ member))⟩

theorem Course.failed {name : String} {cause : ErrorChain} (course : Course test own (.done (.failed name cause))) :
    bodyEnd own = some (some cause) ∧ StoppedWith cause own ∧
      ∀ step ∈ own, step.2.Working ∨ step.2 = .returned (some cause) := by
  cases course with
  | moved earlier moves =>
    cases moves with
    | gaveUp found =>
      refine ⟨rfl, ?_, ?_⟩
      · obtain ⟨w, before, rest, rfl | ⟨failed, enable, rfl⟩⟩ := earlier.stopped
        · exact ⟨w, rest, .inl (by simp)⟩
        · exact ⟨w, rest, .inr ⟨failed, enable, by simp⟩⟩
      · intro step member
        rcases List.mem_cons.mp member with rfl | old
        · exact .inr rfl
        · exact .inl (earlier.working (.inr ⟨_, rfl⟩) step old)

theorem Course.asserted {w : World} {text : String} {rest : List BodyStep} (course : Course test own p)
    (asserted : (w, .body [] (.assert text false :: rest)) ∈ own) :
    p = .body [.mark test .fail] rest ∨ ∃ v, (v, .body [.mark test .fail] rest) ∈ own := by
  induction course with
  | restarted => cases asserted
  | moved earlier moves ih =>
    rcases List.mem_cons.mp asserted with same | old
    · cases same
      cases moves with
      | fails => exact .inl rfl
    · rcases ih old with rfl | ⟨v, there⟩
      · exact .inr ⟨_, List.mem_cons_self⟩
      · exact .inr ⟨v, List.mem_cons_of_mem _ there⟩

end Run

namespace Moment
variable {m : Moment} {test : Nat} {verdict : Mark}

-- The end of a wait, at the step of its run that comes right after it.
def waitEnd? (test : Nat) (m : Moment) : Option WaitEnd :=
  match m.deed with
  | .advance _ own (.ended how) => if own = test then some how else none
  | _ => none

theorem waitEnd_own {how : WaitEnd} (ended : m.waitEnd? test = some how) :
    ∃ step, m.own? test = some step ∧ step.2 = .ended how := by
  obtain ⟨w, deed⟩ := m
  cases deed with
  | advance thread own p =>
    cases p with
    | ended other =>
      by_cases same : own = test
      · refine ⟨(w, .ended other), by simp [own?, same], ?_⟩
        simpa [waitEnd?, same] using ended
      · simp [waitEnd?, same] at ended
    | _ => cases ended
  | _ => cases ended

theorem notedOn_op {thread : Nat} {op : Op} (did : m.op? = some (thread, op)) :
    m.notedOn test = op.markOn test := by
  obtain ⟨w, deed⟩ := m
  cases deed with
  | work doer op => cases did; rfl
  | advance doer own p =>
    obtain ⟨op, there, same⟩ := Option.map_eq_some_iff.mp did
    cases same
    rcases p with _ | _ | ⟨_ | ⟨op, ops⟩, rest⟩ | _ <;> cases there
    rfl
  | _ => cases did

theorem markOn_fail :
    m.markOn test = some .fail ↔
      m.notedOn test = some .fail ∨ ∃ how, m.waitEnd? test = some how ∧ how ≠ .released := by
  obtain ⟨w, deed⟩ := m
  cases deed with
  | advance thread own p =>
    cases p with
    | ended how =>
      cases how <;> by_cases same : own = test <;>
        simp [markOn, notedOn, waitEnd?, Phase.notedOn, Phase.failureOn, same]
    | _ => simp [markOn, notedOn, waitEnd?, Phase.failureOn]
  | _ => simp [markOn, notedOn, waitEnd?]

theorem markOn_pass : m.markOn test = some .pass ↔ m.notedOn test = some .pass := by
  obtain ⟨w, deed⟩ := m
  cases deed with
  | advance thread own p =>
    cases p with
    | ended how =>
      cases how <;> by_cases same : own = test <;>
        simp [markOn, notedOn, Phase.notedOn, Phase.failureOn, same]
    | _ => simp [markOn, notedOn, Phase.failureOn]
  | _ => simp [markOn, notedOn]

theorem markOn_unfailed (unfailed : ∀ how, m.waitEnd? test = some how → how = .released) :
    m.markOn test = m.notedOn test := by
  obtain ⟨w, deed⟩ := m
  cases deed with
  | advance thread own p =>
    cases p with
    | ended how =>
      by_cases same : own = test
      · obtain rfl := unfailed how (by simp [waitEnd?, same])
        simp [markOn, notedOn, Phase.failureOn]
      · cases how <;> simp [markOn, notedOn, Phase.failureOn, same]
    | _ => simp [markOn, notedOn, Phase.failureOn]
  | _ => simp [markOn, notedOn]

end Moment

namespace Site
variable {history older newer : List Moment} {s next : Site} {m : Moment} {test i : Nat}
  {watched : Bool} {p : Phase} {verdict : Mark}

-- A verdict took effect in the latest run of a test: in its body, through a handle, or
-- for a message.
def Noted (test : Nat) (verdict : Mark) (history : List Moment) : Prop :=
  ∃ m ∈ since test history, m.notedOn test = some verdict

def WaitEnded (test : Nat) (how : WaitEnd) (history : List Moment) : Prop :=
  ∃ m ∈ since test history, m.waitEnd? test = some how

-- What the outcome of a run tells of the verdicts that took effect in it.
structure Finished (test : Nat) (history : List Moment) (outcome : Outcome) : Prop where
  fail : outcome = .fail ↔ Noted test .fail history ∨ ∃ how, WaitEnded test how history ∧ how ≠ .released
  success : outcome = .success ↔ outcome ≠ .fail ∧ Noted test .pass history
  running : outcome = .running ↔ outcome ≠ .fail ∧ ¬ Noted test .pass history
  started : outcome ≠ .notStarted
  carried : ∃ w, (w, .body [] []) ∈ ownSteps test history

-- What is left of a run whose body returned an error.
structure Failed (test : Nat) (history : List Moment) (cell : TestCell) (name : String) (cause : ErrorChain) :
    Prop where
  named : name = cell.name
  ended : Run.bodyEnd (ownSteps test history) = some (some cause)
  stopped : Run.StoppedWith cause (ownSteps test history)
  unwaited : ∀ step ∈ ownSteps test history, ∀ gate deadline waited, step.2 ≠ .waiting gate deadline waited
  merged : cell.outcome = Outcome.running.markAll ((since test history).filterMap (·.notedOn test)).reverse

-- A message has its effect on a test at the step that a thread takes right after it called a
-- handler of the test with the number of that verdict.
def Handles (thread test gate : Nat) (verdict : Mark) (history : List Moment) (m : Moment) : Prop :=
  ∃ message op newer between call older, history = newer ++ m :: (between ++ call :: older) ∧
    call.op? = some (thread, .call (.verdict test gate) message) ∧ message.id = verdict.messageId ∧
    opsBy thread between = [] ∧ m.op? = some (thread, op)

-- What a run that came to its end tells of its history, and what it left of its test. The
-- verdicts of assertions and messages are told apart from those noted as such: a message that a
-- handler of the test was called with is noted by the next step of the handler's thread.
structure Concluded (test : Nat) (history : List Moment) (s : Site) (cell : TestCell) (result : RunResult) :
    Prop where
  returned : (∃ outcome, result = .finished outcome) ↔ Run.bodyEnd (ownSteps test history) = some none
  finished : ∀ outcome, result = .finished outcome → Finished test history outcome
  failed : ∀ name cause, result = .failed name cause → Failed test history cell name cause
  asserted : ∀ w text rest, (w, .body [] (.assert text false :: rest)) ∈ ownSteps test history →
    Noted test .fail history
  messages : ∀ m ∈ since test history, ∀ thread gate verdict,
    m.op? = some (thread, .note test gate verdict) ↔ Handles thread test gate verdict history m
  handled : ∀ m ∈ since test history, ∀ thread gate verdict, Handles thread test gate verdict history m →
    m.notedOn test = some verdict ∧ ∃ made ∈ history, made.makes? = some (test, gate)
  called : ∀ newer call older thread gate message verdict, history = newer ++ call :: older →
    call.op? = some (thread, .call (.verdict test gate) message) → message.id = verdict.messageId →
    opsBy thread newer = [] → ∃ seat later, s.threads[thread]? = some seat ∧
      seat.ops = .note test gate verdict :: later
  ungated : cell.gate = none

theorem reached_length (reached : Reached history s) (member : m ∈ history) :
    m.world.tests.length = s.world.tests.length := by
  induction reached with
  | fresh => cases member
  | step earlier step ih =>
    rw [step.known]
    rcases List.mem_cons.mp member with rfl | old
    · rfl
    · exact ih old

theorem note_handles (reached : Reached (newer ++ m :: older) s) {thread gate : Nat}
    (noted : m.op? = some (thread, .note test gate verdict)) :
    Handles thread test gate verdict (newer ++ m :: older) m := by
  have answered := reached_lawful (i := thread) reached
  rw [opsBy_append, opsBy_cons noted] at answered
  obtain ⟨message, before, called, decisive⟩ := answered.suffix.noted
  obtain ⟨between, call, early, rfl, idle, did, -⟩ := opsBy_split (called.trans (List.nil_append _).symm)
  exact ⟨message, _, newer, between, call, early, rfl, did, Message.verdict_exact.mp decisive, idle, noted⟩

theorem serving_verdict {message : Message} {gate : Nat} (decisive : message.id = verdict.messageId) :
    Op.serving test gate message.id = [.note test gate verdict, .release test gate] := by
  rw [← Op.answer_serving, Op.answer_of_verdict (Message.verdict_exact.mpr decisive)]

theorem handles_note (reached : Reached history s) {thread gate : Nat}
    (handles : Handles thread test gate verdict history m) : m.op? = some (thread, .note test gate verdict) := by
  obtain ⟨message, op, newer, between, call, older, rfl, called, decisive, idle, did⟩ := handles
  obtain ⟨-, left, -, -, -, now⟩ := reached.before
  rw [← List.cons_append] at now
  obtain ⟨seat, later, -, steps⟩ := call_served now called
  rw [opsBy_cons did, idle, serving_verdict decisive] at steps
  obtain rfl : op = .note test gate verdict := (List.cons.inj steps).1
  exact did

theorem note_made (reached : Reached history s) (member : m ∈ history) {thread gate : Nat}
    (noted : m.op? = some (thread, .note test gate verdict)) : ∃ made ∈ history, made.makes? = some (test, gate) := by
  obtain ⟨newer, older, rfl⟩ := List.append_of_mem member
  have speaks : m.ref? = some (test, gate) := Moment.ref_of_op noted
  obtain ⟨made, birth, makes⟩ := List.mem_filterMap.mp ((reached_grounded reached).past rfl _ speaks)
  exact ⟨made, List.mem_append_right _ (List.mem_cons_of_mem _ birth), makes⟩

theorem called_pending {call : Moment} (reached : Reached (newer ++ call :: older) s) {thread gate : Nat}
    {message : Message} (called : call.op? = some (thread, .call (.verdict test gate) message))
    (decisive : message.id = verdict.messageId) (idle : opsBy thread newer = []) :
    ∃ seat later, s.threads[thread]? = some seat ∧ seat.ops = .note test gate verdict :: later := by
  obtain ⟨seat, later, place, steps⟩ := call_served reached called
  rw [idle, serving_verdict decisive] at steps
  exact ⟨seat, _, place, steps⟩

theorem marks_fail : .fail ∈ marks test history ↔
    Noted test .fail history ∨ ∃ how, WaitEnded test how history ∧ how ≠ .released := by
  rw [marks_member]
  constructor
  · rintro ⟨m, member, marked⟩
    rcases Moment.markOn_fail.mp marked with noted | ⟨how, ended, missed⟩
    · exact .inl ⟨m, member, noted⟩
    · exact .inr ⟨how, ⟨m, member, ended⟩, missed⟩
  · rintro (⟨m, member, noted⟩ | ⟨how, ⟨m, member, ended⟩, missed⟩)
    · exact ⟨m, member, Moment.markOn_fail.mpr (.inl noted)⟩
    · exact ⟨m, member, Moment.markOn_fail.mpr (.inr ⟨how, ended, missed⟩)⟩

theorem marks_pass : .pass ∈ marks test history ↔ Noted test .pass history := by
  rw [marks_member]
  exact exists_congr fun m => and_congr_right fun _ => Moment.markOn_pass

theorem ownSteps_member {step : World × Phase} :
    step ∈ ownSteps test history ↔ ∃ m ∈ since test history, m.own? test = some step := by
  simp [ownSteps]

theorem asserted_noted {w : World} {text : String} {rest : List BodyStep}
    (course : Run.Course test (ownSteps test history) p) (late : ¬ p.Working)
    (asserted : (w, .body [] (.assert text false :: rest)) ∈ ownSteps test history) :
    Noted test .fail history := by
  rcases course.asserted asserted with rfl | ⟨v, there⟩
  · exact absurd trivial late
  · obtain ⟨m, member, did⟩ := ownSteps_member.mp there
    refine ⟨m, member, ?_⟩
    obtain ⟨w, deed⟩ := m
    cases deed with
    | advance thread own p =>
      simp only [Moment.own?] at did
      split at did
      · cases did
        simp [Moment.notedOn, Phase.notedOn, Op.markOn]
      · cases did
    | _ => cases did

theorem ownSteps_known (reached : Reached history s) (known : test < s.world.tests.length)
    {step : World × Phase} (member : step ∈ ownSteps test history) : step.1.test? test ≠ none := by
  obtain ⟨m, inside, did⟩ := ownSteps_member.mp member
  have same : step.1 = m.world := by
    unfold Moment.own? at did
    split at did
    · split at did <;> cases did
      rfl
    · cases did
  rw [← reached_length reached (since_member inside), ← same] at known
  obtain ⟨cell, found⟩ := World.test?_of_known known
  rw [found]
  exact Option.some_ne_none cell

theorem merged_finished {outcome : Outcome} (merged : outcome = Outcome.running.markAll (marks test history))
    (carried : ∃ w, (w, .body [] []) ∈ ownSteps test history) : Finished test history outcome := by
  obtain ⟨fail, success, running, started⟩ := Outcome.running_markAll (marks test history)
  rw [merged]
  refine ⟨?_, ?_, ?_, started, carried⟩
  · rw [fail, marks_fail]
  · rw [success, Ne, fail, marks_pass]
  · rw [running, Ne, fail, marks_pass]

theorem marks_unwaited {cause : Option ErrorChain}
    (early : ∀ step ∈ ownSteps test history, step.2.Working ∨ step.2 = .returned cause) :
    marks test history = ((since test history).filterMap (·.notedOn test)).reverse := by
  rw [marks]
  congr 1
  apply List.filterMap_congr
  intro m inside
  apply Moment.markOn_unfailed
  intro how ended
  obtain ⟨step, taken, same⟩ := Moment.waitEnd_own ended
  rcases early step (ownSteps_member.mpr ⟨m, inside, taken⟩) with working | returned
  · rw [same] at working
    exact working.elim
  · rw [same] at returned
    cases returned

theorem Step.finishing {result : RunResult} (step : Step s (.advance i test p) next)
    (resolved : next.threads[i]? = some (.run test watched (.done result))) :
    s.threads[i]? = some (.run test watched p) ∧ Run.Moves test s.world p next.world (.done result) ∧ p.Live ∧
      ∀ body, p ≠ .start body := by
  obtain ⟨watched, p', seat, moves, threads⟩ := step.advanced
  have place : i < s.threads.length := (List.getElem?_eq_some_iff.mp seat).1
  rw [threads, List.getElem?_set_self place] at resolved
  cases resolved
  refine ⟨seat, moves, live_of_moved (Run.moves_complete moves), ?_⟩
  rintro body rfl
  rcases moves.done with ⟨_, _, _, same, _⟩ | ⟨same, _⟩ <;> cases same

-- The last step of a run tells how it went, by all that was noted from the moment that
-- the outcome was reset.
theorem step_concluded (reached : Reached history s) {result : RunResult}
    (step : Step s (.advance i test p) next)
    (resolved : next.threads[i]? = some (.run test watched (.done result))) :
    ∃ cell, next.world.test? test = some cell ∧
      Concluded test (⟨s.world, .advance i test p⟩ :: history) next cell result := by
  have later := reached.step step
  have known := reached_known later resolved
  obtain ⟨cell, found⟩ := World.test?_of_known known
  obtain ⟨old, there, rfl⟩ := step.found found
  obtain ⟨seat, moves, live, going⟩ := step.finishing resolved
  obtain ⟨course, m, member, ran⟩ := reached_course reached seat live going
  have whole : Run.Course test (ownSteps test (⟨s.world, .advance i test p⟩ :: history)) (.done result) := by
    rw [own_step going]
    exact course.moved moves
  have merged := reached_outcome later found ⟨m, List.mem_cons_of_mem _ member, ran⟩
  have held := (reached_gate reached there).2 i _ p seat live
  refine ⟨_, found, ?_, ?_, ?_, ?_, ?_, ?_, ?_, moves_ungated moves id held⟩
  · cases result with
    | finished outcome =>
      exact ⟨fun _ => (whole.finished fun step => ownSteps_known later known).1, fun _ => ⟨outcome, rfl⟩⟩
    | failed name cause => simp [whole.failed.1]
  · rintro outcome rfl
    rcases moves.done with ⟨_, _, _, _, same⟩ | ⟨rfl, same⟩
    · cases same
    · cases same
      refine merged_finished ?_ (whole.finished fun step => ownSteps_known later known).2
      rw [← merged, Moment.touch_told, World.outcomeOf, there]
      rfl
  · rintro name cause rfl
    obtain ⟨ended, stopped, early⟩ := whole.failed
    rcases moves.done with ⟨cell, _, found', _, same⟩ | ⟨_, same⟩
    · cases same
      obtain rfl := Option.some.inj (there.symm.trans found')
      refine ⟨by rw [Moment.touch_told], ended, stopped, ?_, ?_⟩
      · intro step inside gate deadline waited same
        rcases early step inside with working | returned
        · rw [same] at working
          exact working
        · rw [same] at returned
          cases returned
      · rw [merged, marks_unwaited early]
    · cases same
  · intro w text rest asserted
    exact asserted_noted whole id asserted
  · intro m inside thread gate verdict
    obtain ⟨newer, older, split⟩ := List.append_of_mem (since_member inside)
    constructor
    · intro noted
      rw [split] at later ⊢
      exact note_handles later noted
    · exact handles_note later
  · intro m inside thread gate verdict handles
    have noted := handles_note later handles
    refine ⟨?_, note_made later (since_member inside) noted⟩
    rw [Moment.notedOn_op noted]
    simp [Op.markOn]
  · intro newer call older thread gate message verdict split called decisive idle
    rw [split] at later
    exact called_pending later called decisive idle

-- A run comes to its end when it is left alone. Whatever others do meanwhile, the end
-- tells what was noted in the run, and the test has no gate any more.
theorem run_result (reached : Reached history s) (seat : s.threads[i]? = some (.run test watched p)) :
    (∃ moments threads watched', Path (Alone i test) s moments ⟨(Run.drive s.world test watched p).world, threads⟩ ∧
      threads[i]? = some (.run test watched' (.done (Run.drive s.world test watched p).result))) ∧
    ∀ next result, Step s (.advance i test p) next →
      next.threads[i]? = some (.run test watched (.done result)) →
      ∃ cell, next.world.test? test = some cell ∧
        Concluded test (⟨s.world, .advance i test p⟩ :: history) next cell result := by
  constructor
  · obtain ⟨moments, threads, watched', path, resolved, -⟩ := drive_path seat
    exact ⟨moments, threads, watched', path, resolved⟩
  · intro next result step resolved
    exact step_concluded reached step resolved

theorem run_result_passing : ∃ history s next cell,
    Reached history s ∧ s.threads[0]? = some (.run 0 false .reading) ∧ Step s (.advance 0 0 .reading) next ∧
    next.world.test? 0 = some cell ∧ cell.outcome = .success ∧
    Concluded 0 (⟨s.world, .advance 0 0 .reading⟩ :: history) next cell (.finished .success) := by
  have fresh := @Reached.fresh ⟨"device", "1.0"⟩ [] [("passes", .ofSeconds 1)]
  have begun := fresh.step (@Step.begin _ 0 false [.mark .pass] (by decide) fun _ _ member => by cases member)
  have ungated := (progress_path (i := 0) 5 rfl).reached begun
  obtain ⟨cell, found, told⟩ := (run_result ungated rfl).2 _ _ (.advance (i := 0) rfl rfl) rfl
  refine ⟨_, _, _, cell, ungated, rfl, .advance (i := 0) rfl rfl, found, ?_, told⟩
  cases found
  rfl

end Site
end TrialBench
