import TrialBench.Proofs.Effects
namespace TrialBench.Run

-- The steps of a run, one rule for each thing that can happen. They are stated without
-- the function that computes them.
inductive Moves (test : Nat) : World → Phase → World → Phase → Prop where
  | start {w body} : Moves test w (.start body) (restart w test) (.clear body)
  | clear {w body} : Moves test w (.clear body) (w.clearCancel test) (.body [] body)
  | op {w op ops rest} :
      Moves test w (.body (op :: ops) rest) (Op.step w op).1 (.body ((Op.step w op).2 ++ ops) rest)
  | mark {w verdict rest} :
      Moves test w (.body [] (.mark verdict :: rest)) (w.mark test verdict) (.body [] rest)
  | holds {w message rest} : Moves test w (.body [] (.assert message true :: rest)) w (.body [] rest)
  | fails {w message rest} :
      Moves test w (.body [] (.assert message false :: rest))
        (w.log (failedAssertion (w.nameOf test) message)) (.body [.mark test .fail] rest)
  | silent {w v channel ignoreError rest} (made : w.newChannel = (v, .ok channel)) :
      Moves test w (.body [] (.prepare false ignoreError :: rest)) v (.body [.listSession channel] rest)
  | gated {w v channel ignoreError rest} (made : w.newChannel = (v, .ok channel)) :
      Moves test w (.body [] (.prepare true ignoreError :: rest)) v.newGate.1
        (.body [.install channel (.verdict test v.gates.length), .keepGate test v.gates.length,
          .listSession channel] rest)
  | ignored {w v fault enable rest} (failed : w.newChannel = (v, .error fault)) :
      Moves test w (.body [] (.prepare enable true :: rest)) (v.find (.sessionError fault)) (.body [] rest)
  | refused {w v fault enable rest} (failed : w.newChannel = (v, .error fault)) :
      Moves test w (.body [] (.prepare enable false :: rest)) v (.returned (some fault))
  | observe {w rest} : Moves test w (.body [] (.observe :: rest)) (w.observe test) (.body [] rest)
  | stop {w error rest} : Moves test w (.body [] (.stop error :: rest)) w (.returned (some error))
  | act {w action rest} :
      Moves test w (.body [] (.act action :: rest)) w (.body [.act test action] rest)
  | exhausted {w} : Moves test w (.body [] []) w (.returned none)
  | absent {w error} (lost : w.test? test = none) : Moves test w (.returned error) w .reading
  | gaveUp {w cell cause} (found : w.test? test = some cell) :
      Moves test w (.returned (some cause)) (w.onTest test fun cell => { cell with gate := none })
        (.done (.failed cell.name cause))
  | ungated {w cell} (found : w.test? test = some cell) (noGate : cell.gate = none) :
      Moves test w (.returned none) (w.onTest test fun cell => { cell with gate := none }) .reading
  | awaits {w cell gate} (found : w.test? test = some cell) (held : cell.gate = some gate) :
      Moves test w (.returned none) (w.onTest test fun cell => { cell with gate := none })
        (.waiting gate (w.clock + waitMillis cell.timeout) cell.timeout)
  | released {w gate deadline waited} (opened : w.isOpen gate = true) :
      Moves test w (.waiting gate deadline waited) (w.useGate gate) (.ended .released)
  | canceled {w gate deadline waited} (closed : w.isOpen gate = false) (pending : w.pendingFor test = true) :
      Moves test w (.waiting gate deadline waited) (w.clearCancel test) (.ended .canceled)
  | timedOut {w gate deadline waited} (closed : w.isOpen gate = false) (quiet : w.pendingFor test = false)
      (late : deadline ≤ w.clock) :
      Moves test w (.waiting gate deadline waited) w (.ended (.timedOut waited))
  | passed {w} : Moves test w (.ended .released) w .reading
  | failed {w how} (missed : how ≠ .released) : Moves test w (.ended how) (w.mark test .fail) (.noted how)
  | toldTimeout {w waited} :
      Moves test w (.noted (.timedOut waited)) (w.log (timedOutEvent (w.nameOf test) waited)) .reading
  | toldCancel {w} : Moves test w (.noted .canceled) (w.log (canceledEvent (w.nameOf test))) .reading
  | toldNothing {w} : Moves test w (.noted .released) w .reading
  | read {w} :
      Moves test w .reading
        (if (w.outcomeOf test).isTerminal then w
          else w.log (unexpectedEvent (w.nameOf test) (w.outcomeOf test)))
        (.done (.finished (w.outcomeOf test)))

variable {w w' : World} {test : Nat} {p p' : Phase}

theorem moves_sound (moved : advance w test p = .moved w' p') : Moves test w p w' p' := by
  cases p with
  | start body => cases moved; exact .start
  | clear body => cases moved; exact .clear
  | body underway rest =>
    cases underway with
    | cons op ops => cases moved; exact .op
    | nil =>
      cases rest with
      | nil => cases moved; exact .exhausted
      | cons step rest =>
        cases step with
        | mark verdict => cases moved; exact .mark
        | assert message holds => cases holds <;> cases moved <;> constructor
        | prepare enable ignoreError =>
          simp only [advance, bodyStep, prepare] at moved
          split at moved
          · split at moved
            · rename_i ignored; cases moved; subst ignored; exact .ignored ‹_›
            · rename_i noticed
              cases moved
              rw [eq_false_of_ne_true noticed]
              exact .refused ‹_›
          · split at moved
            · rename_i enabled; cases moved; subst enabled; exact .gated ‹_›
            · rename_i disabled
              cases moved
              rw [eq_false_of_ne_true disabled]
              exact .silent ‹_›
        | observe => cases moved; exact .observe
        | stop error => cases moved; exact .stop
        | act action => cases moved; exact .act
  | returned error =>
    simp only [advance, takeGate] at moved
    split at moved
    · cases moved; exact .absent ‹_›
    · split at moved
      · cases moved; exact .gaveUp ‹_›
      · cases moved; exact .ungated ‹_› ‹_›
      · cases moved; exact .awaits ‹_› ‹_›
  | waiting gate deadline waited =>
    simp only [advance, poll] at moved
    split at moved
    · cases moved; exact .released ‹_›
    · rename_i closed
      have closed := eq_false_of_ne_true closed
      split at moved
      · cases moved; exact .canceled closed ‹_›
      · rename_i quiet
        split at moved <;> cases moved
        exact .timedOut closed (eq_false_of_ne_true quiet) ‹_›
  | ended how =>
    cases how with
    | released => cases moved; exact .passed
    | canceled => cases moved; exact .failed (by simp)
    | timedOut waited => cases moved; exact .failed (by simp)
  | noted how => cases how <;> cases moved <;> constructor
  | reading => cases moved; exact .read
  | done result => cases moved

theorem moves_complete (moves : Moves test w p w' p') : advance w test p = .moved w' p' := by
  cases moves with
  | failed missed => cases ‹WaitEnd› <;> first | rfl | exact absurd rfl missed
  | awaits found held => simp [advance, takeGate, World.onTest, found, held]
  | _ => simp_all [advance, bodyStep, prepare, takeGate, poll, read, World.newGate]

theorem poll_blocked {gate deadline limit : Nat} {waited : Duration} :
    advance w test (.waiting gate deadline waited) = .blocked limit ↔
      limit = deadline ∧ w.isOpen gate = false ∧ w.pendingFor test = false ∧ w.clock < deadline := by
  simp only [advance, poll]
  constructor
  · intro stopped
    split at stopped
    · cases stopped
    · rename_i closed
      split at stopped
      · cases stopped
      · rename_i quiet
        split at stopped <;> cases stopped
        exact ⟨rfl, eq_false_of_ne_true closed, eq_false_of_ne_true quiet, by omega⟩
  · rintro ⟨rfl, closed, quiet, early⟩
    simp [closed, quiet, Nat.not_le.mpr early]

theorem Moves.done {result : RunResult} (moves : Moves test w p w' (.done result)) :
    (∃ cell cause, w.test? test = some cell ∧ p = .returned (some cause) ∧ result = .failed cell.name cause) ∨
      (p = .reading ∧ result = .finished (w.outcomeOf test)) := by
  cases moves with
  | gaveUp found => exact .inl ⟨_, _, found, rfl, rfl⟩
  | read => exact .inr ⟨rfl, rfl⟩

theorem finished_done {result : RunResult} (stood : advance w test p = .finished result) : p = .done result := by
  cases p with
  | done result => cases stood; rfl
  | body underway rest =>
    cases underway with
    | cons op ops => cases stood
    | nil =>
      cases rest with
      | nil => cases stood
      | cons step rest =>
        cases step <;> simp only [advance, bodyStep, prepare] at stood
        all_goals (repeat' split at stood) <;> cases stood
  | returned error =>
    simp only [advance, takeGate] at stood
    repeat' split at stood
    all_goals cases stood
  | waiting gate deadline waited =>
    simp only [advance, poll] at stood
    repeat' split at stood
    all_goals cases stood
  | ended how => cases how <;> cases stood
  | noted how => cases how <;> cases stood
  | _ => cases stood

end TrialBench.Run
