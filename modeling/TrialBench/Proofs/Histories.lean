import TrialBench.Proofs.Moments
namespace TrialBench

namespace Outcome
variable {start : Outcome} {marks more : List Mark}

theorem markAll_append : start.markAll (marks ++ more) = (start.markAll marks).markAll more := by
  simp [markAll]

theorem markAll_fail : start.markAll marks = .fail ↔ start = .fail ∨ .fail ∈ marks := by
  induction marks generalizing start with
  | nil => simp [markAll]
  | cons first rest ih =>
    have step : start.markAll (first :: rest) = (start.mark first).markAll rest := rfl
    rw [step, ih]
    cases first with
    | fail => simp
    | pass => cases start <;> simp [mark]

theorem markAll_success :
    start.markAll marks = .success ↔
      start ≠ .fail ∧ .fail ∉ marks ∧ (start = .success ∨ .pass ∈ marks) := by
  induction marks generalizing start with
  | nil => cases start <;> simp [markAll]
  | cons first rest ih =>
    have step : start.markAll (first :: rest) = (start.mark first).markAll rest := rfl
    rw [step, ih]
    cases first with
    | fail => simp
    | pass => cases start <;> simp [mark]

theorem markAll_terminal (some_ : marks ≠ []) : (start.markAll marks).isTerminal = true := by
  induction marks generalizing start with
  | nil => exact absurd rfl some_
  | cons first rest ih =>
    cases rest with
    | nil => exact mark_terminal start first
    | cons second rest => exact ih (List.cons_ne_nil second rest)

theorem running_markAll (marks : List Mark) :
    (Outcome.running.markAll marks = .fail ↔ .fail ∈ marks) ∧
    (Outcome.running.markAll marks = .success ↔ .fail ∉ marks ∧ .pass ∈ marks) ∧
    (Outcome.running.markAll marks = .running ↔ .fail ∉ marks ∧ .pass ∉ marks) ∧
    Outcome.running.markAll marks ≠ .notStarted := by
  have failed : Outcome.running.markAll marks = .fail ↔ .fail ∈ marks := by simp [markAll_fail]
  have passed : Outcome.running.markAll marks = .success ↔ .fail ∉ marks ∧ .pass ∈ marks := by
    simp [markAll_success]
  rcases marks with _ | ⟨first, rest⟩
  · simp [markAll]
  · have ends : (Outcome.running.markAll (first :: rest)).isTerminal = true :=
      markAll_terminal (List.cons_ne_nil first rest)
    refine ⟨failed, passed, ?_, ?_⟩
    · constructor
      · intro same
        rw [same] at ends
        cases ends
      · rintro ⟨noFail, noPass⟩
        cases first with
        | pass => exact absurd List.mem_cons_self noPass
        | fail => exact absurd List.mem_cons_self noFail
    · intro same
      rw [same] at ends
      cases ends

end Outcome

namespace Moment
variable {m : Moment} {test : Nat} {cell : TestCell}

-- After these no cancel request is pending: a run's discard of old ones, and the end of
-- a wait that was canceled.
def quiets (test : Nat) (m : Moment) : Bool :=
  match m.deed with
  | .advance _ own (.clear _) => own = test
  | .advance _ own (.waiting gate _ _) => own = test && !m.world.isOpen gate && m.world.pendingFor own
  | _ => false

def keptFor (test : Nat) (m : Moment) : Option Nat := m.op?.bind fun done => done.2.keptFor test

def yields (test : Nat) (m : Moment) : Bool :=
  match m.deed with
  | .advance _ own (.returned _) => own = test
  | _ => false

def timeoutFor (test : Nat) (m : Moment) : Option Duration :=
  match m.deed with
  | .retime named timeout => if named = test then some timeout else none
  | _ => none

section
attribute [local simp] touch Phase.touch timeoutFor restarts markOn Phase.notedOn Phase.failureOn yields
  keptFor op? Phase.op? quiets asksCancel Outcome.markAll Outcome.restart

theorem touch_told : m.touch test cell =
    { name := cell.name
      timeout := (m.timeoutFor test).getD cell.timeout
      outcome := if m.restarts test then .running else cell.outcome.markAll (m.markOn test).toList
      gate := if m.yields test then none else (m.keptFor test).or cell.gate
      cancelPending := if m.quiets test then false else cell.cancelPending || m.asksCancel test
      runs := if m.restarts test then cell.runs + 1 else cell.runs } := by
  obtain ⟨w, deed⟩ := m
  have noted (op : Op) : op.touch test cell =
      { cell with
        outcome := cell.outcome.markAll (op.markOn test).toList
        gate := (op.keptFor test).or cell.gate
        cancelPending := cell.cancelPending || op.asksCancel test } := by
    cases marked : op.markOn test <;> simp [Op.touch, marked]
  cases deed with
  | work thread op => simp [noted]
  | advance thread own p =>
    cases p with
    | body underway rest =>
      rcases underway with _ | ⟨op, ops⟩
      · rcases rest with _ | ⟨step, rest⟩
        · simp
        · cases step with
          | mark verdict => by_cases same : own = test <;> simp [same]
          | _ => simp
      · simp [noted]
    | ended how => by_cases same : own = test <;> cases how <;> simp [same]
    | waiting gate deadline waited =>
      by_cases same : own = test
      · cases opened : w.isOpen gate <;> cases pending : w.pendingFor own <;> simp_all
      · simp [same]
    | _ => by_cases same : own = test <;> simp [same]
  | heed thread named event => by_cases same : named = test <;> simp [same]
  | mark named verdict => by_cases same : named = test <;> simp [same]
  | retime named timeout => by_cases same : named = test <;> simp [same]
  | _ => simp

end
end Moment

namespace Site
variable {history older newer : List Moment} {s next : Site} {deed : Deed} {m : Moment} {test : Nat}
  {cell : TestCell}

-- The part of a history that belongs to the latest run of a test.
def since (test : Nat) (history : List Moment) : List Moment :=
  history.takeWhile fun m => !m.restarts test

-- The verdicts noted on a test since its latest run began, oldest first.
def marks (test : Nat) (history : List Moment) : List Mark :=
  ((since test history).filterMap (·.markOn test)).reverse

def ownSteps (test : Nat) (history : List Moment) : List (World × Phase) :=
  (since test history).filterMap (·.own? test)

def Requested (test : Nat) (history : List Moment) : Prop :=
  ∃ m ∈ history.takeWhile (fun m => !m.quiets test), m.asksCancel test = true

theorem since_restart (restart : m.restarts test = true) : since test (m :: older) = [] := by
  simp [since, restart]

theorem since_cons (going : m.restarts test = false) :
    since test (m :: older) = m :: since test older := by
  simp [since, going]

theorem since_member (member : m ∈ since test history) : m ∈ history :=
  (List.takeWhile_prefix _).subset member

theorem marks_cons (going : m.restarts test = false) :
    marks test (m :: older) = marks test older ++ (m.markOn test).toList := by
  cases marked : m.markOn test <;> simp [marks, since_cons going, marked]

theorem marks_member {verdict : Mark} :
    verdict ∈ marks test history ↔ ∃ m ∈ since test history, m.markOn test = some verdict := by
  simp [marks]

theorem Requested.cons :
    Requested test (m :: older) ↔
      m.quiets test = false ∧ (m.asksCancel test = true ∨ Requested test older) := by
  cases quiet : m.quiets test <;> simp [Requested, quiet]

theorem Step.found (step : Step s deed next) (found : next.world.test? test = some cell) :
    ∃ old, s.world.test? test = some old ∧ cell = Moment.touch test ⟨s.world, deed⟩ old := by
  rw [step.effect.tests] at found
  obtain ⟨old, there, rfl⟩ := Option.map_eq_some_iff.mp found
  exact ⟨old, there, rfl⟩

theorem Step.known (step : Step s deed next) : next.world.tests.length = s.world.tests.length :=
  step.effect.known

-- What is stored of a test's outcome is the merge of the verdicts noted in its run.
theorem reached_outcome (reached : Reached history s) (found : s.world.test? test = some cell)
    (ran : ∃ m ∈ history, m.restarts test = true) :
    cell.outcome = Outcome.running.markAll (marks test history) := by
  induction reached generalizing cell with
  | fresh => simp at ran
  | @step history s next deed earlier step ih =>
    obtain ⟨old, there, rfl⟩ := step.found found
    rw [Moment.touch_told]
    cases again : Moment.restarts test ⟨s.world, deed⟩ with
    | true => simp [marks, since_restart again, Outcome.markAll]
    | false =>
      have before : ∃ m ∈ history, m.restarts test = true := by
        obtain ⟨m, member, restart⟩ := ran
        rcases List.mem_cons.mp member with rfl | old
        · rw [again] at restart; cases restart
        · exact ⟨m, old, restart⟩
      rw [marks_cons again, Outcome.markAll_append, ← ih there before]
      rfl

theorem reached_pending (reached : Reached history s) (found : s.world.test? test = some cell) :
    cell.cancelPending = true ↔ Requested test history := by
  induction reached generalizing cell with
  | @fresh device faults tests =>
    obtain ⟨⟨name, timeout⟩, -, rfl⟩ := List.mem_map.mp (List.mem_of_getElem? found)
    simp [TestCell.fresh, Requested]
  | @step history s next deed earlier step ih =>
    obtain ⟨old, there, rfl⟩ := step.found found
    rw [Moment.touch_told, Requested.cons]
    cases quiet : Moment.quiets test ⟨s.world, deed⟩ with
    | true => simp
    | false => simp [ih there, or_comm]

theorem Step.clock_le (step : Step s deed next) : s.world.clock ≤ next.world.clock := by
  rw [step.effect.clock]
  cases deed <;> simp [Moment.clockAfter]

theorem reached_clock (reached : Reached history s) (member : m ∈ history) :
    m.world.clock ≤ s.world.clock := by
  induction reached with
  | fresh => cases member
  | step earlier step ih =>
    rcases List.mem_cons.mp member with rfl | old
    · exact step.clock_le
    · exact Nat.le_trans (ih old) step.clock_le

end Site
end TrialBench
