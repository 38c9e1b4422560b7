import Mathlib.Data.List.Forall2
import TrialBench.Bench.Script
import TrialBench.Proofs.Gates
namespace TrialBench

-- How much of what an earlier run left behind for its test can still be there, by how far
-- the next run has come.
inductive Leftover where
  | everything
  | marks
  | request
  | nothing
  deriving DecidableEq

def Leftover.rank : Leftover → Nat
  | .nothing => 0
  | .request => 1
  | .marks => 2
  | .everything => 3

abbrev Leftover.Within (left most : Leftover) : Prop := left.rank ≤ most.rank

-- What is once forgotten stays forgotten.
def Leftover.least (one two : Leftover) : Leftover := if one.rank ≤ two.rank then one else two

theorem Leftover.rank_least {one two : Leftover} : (one.least two).rank = min one.rank two.rank := by
  unfold least
  split <;> omega

theorem Leftover.within_nothing {left : Leftover} : left.Within .nothing ↔ left = .nothing := by
  cases left <;> simp [Within, rank]

def Phase.leftover : Phase → Leftover
  | .start _ => .marks
  | .clear _ => .request
  | _ => .nothing

-- Where two worlds may differ: in what was left behind for one test, in the permits of
-- the gates of its earlier runs, in the time, and in what was written before.
structure Past where
  test : Nat
  before : List Moment
  early : Nat
  late : Nat
  ours : Harvest
  theirs : Harvest

def Past.Spent (past : Past) (gate : Nat) : Prop := (past.test, gate) ∈ Site.made past.before

-- The same moment, on the clock of each world.
def Past.Meets (past : Past) (ours theirs : Nat) : Prop := ours + past.early = theirs + past.late

structure Past.Due (past : Past) (ours theirs : Timer) : Prop where
  due : past.Meets ours.due theirs.due
  owner : theirs.owner = ours.owner
  action : theirs.action = ours.action

def Past.leftoverFor (past : Past) (left : Leftover) (test : Nat) : Leftover :=
  if test = past.test then left else .nothing

-- Two lists that have grown by the same items.
def Grown {α : Type} (before before' now now' : List α) : Prop :=
  ∃ more, now = before ++ more ∧ now' = before' ++ more

structure TestCell.Like (left : Leftover) (a b : TestCell) : Prop where
  name : b.name = a.name
  timeout : b.timeout = a.timeout
  gate : left.Within .marks → b.gate = a.gate
  outcome : left.Within .request → b.outcome = a.outcome
  cancel : left.Within .nothing → b.cancelPending = a.cancelPending

structure World.Like (past : Past) (left : Leftover) (w v : World) : Prop where
  device : v.device = w.device
  sessionFaults : v.sessionFaults = w.sessionFaults
  attempts : v.attempts = w.attempts
  channels : v.channels = w.channels
  sessions : v.sessions = w.sessions
  followUps : v.followUps = w.followUps
  signals : v.signals = w.signals
  tests : ∀ test, Option.Rel (TestCell.Like (past.leftoverFor left test)) (w.test? test) (v.test? test)
  made : v.gates.length = w.gates.length
  gates : ∀ gate, ¬ past.Spent gate → v.isOpen gate = w.isOpen gate
  clock : past.Meets w.clock v.clock
  agenda : List.Forall₂ past.Due w.agenda v.agenda
  logs : Grown past.ours.logs past.theirs.logs w.logs v.logs
  findings : Grown past.ours.findings past.theirs.findings w.findings v.findings
  records : Grown past.ours.records past.theirs.records w.records v.records

inductive Phase.Like (past : Past) : Phase → Phase → Prop where
  | same {p : Phase} (timeless : ∀ gate deadline waited, p ≠ .waiting gate deadline waited) : Like past p p
  | waiting {gate deadline deadline' : Nat} {waited : Duration} (meets : past.Meets deadline deadline') :
      Like past (.waiting gate deadline waited) (.waiting gate deadline' waited)

section
variable {α : Type} {before before' now now' : List α}

theorem Grown.snoc (grown : Grown before before' now now') (item : α) :
    Grown before before' (now ++ [item]) (now' ++ [item]) := by
  obtain ⟨more, rfl, rfl⟩ := grown
  exact ⟨more ++ [item], List.append_assoc .., List.append_assoc ..⟩

theorem Grown.here : Grown before before' before before' :=
  ⟨[], (List.append_nil _).symm, (List.append_nil _).symm⟩

end

section
variable {left : Leftover} {a b : TestCell} {verdict : Mark}

theorem TestCell.Like.refl : a.Like left a := ⟨rfl, rfl, fun _ => rfl, fun _ => rfl, fun _ => rfl⟩

theorem TestCell.Like.weaken {more : Leftover} (like : a.Like left b) (within : left.Within more) : a.Like more b :=
  { like with
    gate := fun known => like.gate (Nat.le_trans within known)
    outcome := fun known => like.outcome (Nat.le_trans within known)
    cancel := fun known => like.cancel (Nat.le_trans within known) }

theorem TestCell.Like.settled (like : a.Like left b) (settled : left = .nothing) :
    b.gate = a.gate ∧ b.outcome = a.outcome ∧ b.cancelPending = a.cancelPending := by
  subst settled
  exact ⟨like.gate (Nat.zero_le _), like.outcome (Nat.zero_le _), like.cancel (Nat.zero_le _)⟩

theorem TestCell.Like.marked (like : a.Like left b) (verdict : Mark) :
    TestCell.Like left { a with outcome := a.outcome.mark verdict } { b with outcome := b.outcome.mark verdict } :=
  { like with outcome := fun known => congrArg (Outcome.mark · verdict) (like.outcome known) }

theorem TestCell.Like.pending (like : a.Like left b) (flag : Bool) :
    TestCell.Like left { a with cancelPending := flag } { b with cancelPending := flag } :=
  { like with cancel := fun _ => rfl }

theorem TestCell.Like.gated (like : a.Like left b) (gate : Option Nat) :
    TestCell.Like left { a with gate } { b with gate } :=
  { like with gate := fun _ => rfl }

end

namespace World
variable {past : Past} {left : Leftover} {w v : World} {test gate channel : Nat}

theorem Like.log (like : w.Like past left v) (event : LogEvent) : Like past left (w.log event) (v.log event) :=
  { like with logs := like.logs.snoc event }

theorem Like.find (like : w.Like past left v) (finding : Finding) : Like past left (w.find finding) (v.find finding) :=
  { like with findings := like.findings.snoc finding }

theorem Like.listSession (like : w.Like past left v) (channel : Nat) :
    Like past left (w.listSession channel) (v.listSession channel) :=
  { like with sessions := congrArg (· ++ [channel]) like.sessions }

theorem Like.channelOf (like : w.Like past left v) (session : Option Nat) :
    v.channelOf? session = w.channelOf? session := by
  unfold channelOf?
  rw [like.sessions]

theorem Like.handlerAt (like : w.Like past left v) (channel : Nat) : v.handlerAt channel = w.handlerAt channel := by
  unfold World.handlerAt
  rw [like.channels]

theorem Like.install (like : w.Like past left v) (channel : Nat) (handler : Handler) :
    Like past left (w.install channel handler) (v.install channel handler) :=
  { like with channels := congrArg (·.set channel (some handler)) like.channels }

theorem Like.setRecorder (like : w.Like past left v) (owner channel : Nat) (tag : String) (followUp : List Action) :
    Like past left (Op.setRecorder w owner channel tag followUp) (Op.setRecorder v owner channel tag followUp) := by
  have installed := like.install channel (.recorder w.followUps.length tag owner)
  unfold Op.setRecorder
  rw [like.followUps]
  exact { installed with followUps := rfl }

theorem Like.raise (like : w.Like past left v) (event : ShutdownEvent) :
    Like past left (w.raise event) (v.raise event) := by
  unfold World.raise
  rw [like.signals]
  split
  · exact like
  · exact { like with signals := rfl }

theorem Like.newChannel (like : w.Like past left v) :
    Like past left w.newChannel.1 v.newChannel.1 ∧ v.newChannel.2 = w.newChannel.2 := by
  unfold World.newChannel
  rw [like.sessionFaults, like.attempts, like.channels]
  split
  · exact ⟨{ like with sessionFaults := rfl, attempts := rfl, channels := rfl }, rfl⟩
  · exact ⟨{ like with sessionFaults := rfl, attempts := rfl, channels := rfl }, rfl⟩

theorem Like.made_channel (like : w.Like past left v) {x : World} {result : Except ErrorChain Nat}
    (made : w.newChannel = (x, result)) : ∃ y, v.newChannel = (y, result) ∧ x.Like past left y := by
  obtain ⟨worlds, same⟩ := like.newChannel
  rw [made] at worlds same
  exact ⟨v.newChannel.1, Prod.ext rfl same, worlds⟩

theorem Like.newGate (like : w.Like past left v) : Like past left w.newGate.1 v.newGate.1 := by
  refine { like with made := ?_, gates := fun gate live => ?_ }
  · simp [World.newGate, like.made]
  · simp only [World.newGate, isOpen, isOpen_new]
    exact like.gates gate live

-- A permit that is set or used is so in both worlds.
theorem Like.setGate (like : w.Like past left v) (gate : Nat) (value : Bool) :
    Like past left { w with gates := w.gates.set gate value } { v with gates := v.gates.set gate value } := by
  refine { like with made := ?_, gates := fun other live => ?_ }
  · simp [like.made]
  · have same := like.gates other live
    by_cases known : gate < w.gates.length
    · have known' : gate < v.gates.length := by rwa [like.made]
      simp only [isOpen, isOpen_set known, isOpen_set known'] at same ⊢
      rw [same]
    · have beyond := Nat.le_of_not_lt known
      rw [isOpen, isOpen, List.set_eq_of_length_le beyond, List.set_eq_of_length_le (by rwa [like.made])]
      exact same

theorem Like.onTest {f : TestCell → TestCell} (like : w.Like past left v)
    (keeps : ∀ left a b, a.Like left b → (f a).Like left (f b)) :
    Like past left (w.onTest test f) (v.onTest test f) := by
  refine { like with tests := fun other => ?_ }
  have cells := like.tests other
  rw [test?_onTest, test?_onTest]
  generalize w.test? other = ours at cells
  generalize v.test? other = theirs at cells
  split
  · cases cells with
    | none => exact .none
    | some cell => exact .some (keeps _ _ _ cell)
  · exact cells

theorem Like.mark (like : w.Like past left v) (test : Nat) (verdict : Mark) :
    Like past left (w.mark test verdict) (v.mark test verdict) :=
  like.onTest fun _ _ _ cell => cell.marked verdict

theorem Like.requestCancel (like : w.Like past left v) (test : Nat) :
    Like past left (w.requestCancel test) (v.requestCancel test) :=
  like.onTest fun _ _ _ cell => cell.pending true

theorem Like.clearCancel (like : w.Like past left v) (test : Nat) :
    Like past left (w.clearCancel test) (v.clearCancel test) :=
  like.onTest fun _ _ _ cell => cell.pending false

theorem Like.retime (like : w.Like past left v) (test : Nat) (timeout : Duration) :
    Like past left (w.onTest test fun cell => { cell with timeout })
      (v.onTest test fun cell => { cell with timeout }) :=
  like.onTest fun _ _ _ cell => { cell with timeout := rfl }

theorem Like.nameOf (like : w.Like past left v) (test : Nat) : v.nameOf test = w.nameOf test := by
  have cells := like.tests test
  unfold World.nameOf
  generalize w.test? test = ours at cells
  generalize v.test? test = theirs at cells
  cases cells with
  | none => rfl
  | some cell => simp [cell.name]

end World

namespace Op
variable {past : Past} {left : Leftover} {w v : World} {op : Op}

theorem ask_like {owner : Nat} {action : Action} (like : w.Like past left v) :
    (ask w owner action).1.Like past left (ask v owner action).1 ∧ (ask v owner action).2 = (ask w owner action).2 := by
  cases action with
  | createSession =>
    simp only [ask]
    split
    · rename_i x channel made
      obtain ⟨y, made', worlds⟩ := like.made_channel made
      rw [made']
      exact ⟨worlds.listSession channel, rfl⟩
    · rename_i x fault failed
      obtain ⟨y, failed', worlds⟩ := like.made_channel failed
      rw [failed']
      exact ⟨worlds.find (.sessionError fault), rfl⟩
  | cloneSession session =>
    simp only [ask, like.channelOf session]
    split
    · exact ⟨like.listSession _, rfl⟩
    · exact ⟨like, rfl⟩
  | handle session tag followUp =>
    simp only [ask, like.channelOf session]
    split
    · exact ⟨like.setRecorder owner _ tag followUp, rfl⟩
    · exact ⟨like, rfl⟩
  | post session message =>
    simp only [ask, like.channelOf session]
    split
    · simp only [deliver, like.handlerAt]
      split
      · exact ⟨like, rfl⟩
      · exact ⟨like.log _, rfl⟩
    · exact ⟨like, rfl⟩
  | describe session =>
    simp only [ask, like.channelOf session, like.handlerAt]
    split
    · exact ⟨like.find _, rfl⟩
    · exact ⟨like, rfl⟩
  | mark test verdict => exact ⟨like.mark _ verdict, rfl⟩
  | markAll test verdicts => exact ⟨like, rfl⟩
  | cancel test => exact ⟨like.requestCancel _, rfl⟩
  | signal event => exact ⟨like.raise event, rfl⟩
  | schedule delay action =>
    have due : past.Due ⟨w.clock + delay, owner, action⟩ ⟨v.clock + delay, owner, action⟩ := by
      refine ⟨?_, rfl, rfl⟩
      have clock := like.clock
      simp only [Past.Meets] at clock ⊢
      omega
    exact ⟨{ like with agenda := List.rel_append like.agenda (.cons due .nil) }, rfl⟩

-- What a step does, and what it leads to, does not hang on what was left behind.
theorem step_like (like : w.Like past left v) (op : Op) :
    (step w op).1.Like past left (step v op).1 ∧ (step v op).2 = (step w op).2 := by
  cases op with
  | act owner action => exact ask_like like
  | call handler message =>
    cases handler with
    | verdict test gate =>
      simp only [step, serve, like.nameOf]
      split
      · exact ⟨like, rfl⟩
      · exact ⟨like.log _, rfl⟩
    | recorder followUp tag owner =>
      simp only [step, serve, like.followUps, and_true]
      exact { like with followUps := rfl, records := like.records.snoc ⟨tag, message⟩ }
  | mark test verdict => exact ⟨like.mark test verdict, rfl⟩
  | note test gate verdict => exact ⟨like.mark test verdict, rfl⟩
  | release test gate => exact ⟨like.setGate gate true, rfl⟩
  | install channel handler => exact ⟨like.install channel handler, rfl⟩
  | keepGate test gate => exact ⟨like.onTest fun _ _ _ cell => cell.gated (some gate), rfl⟩
  | listSession channel => exact ⟨like.listSession channel, rfl⟩

theorem drain_like (like : w.Like past left v) (ops : List Op) : (drain w ops).Like past left (drain v ops) := by
  fun_induction drain w ops generalizing v with
  | case1 w =>
    rw [drain]
    exact like
  | case2 w op rest ih =>
    obtain ⟨worlds, same⟩ := step_like like op
    rw [drain, same]
    exact ih worlds

end Op

namespace World
variable {past : Past} {left : Leftover} {w v : World} {test : Nat}

-- How much is left behind may be said anew, by what is known of the test.
theorem Like.regrade {later : Leftover} (like : w.Like past left v)
    (cells : ∀ a b, w.test? past.test = some a → v.test? past.test = some b → a.Like left b → a.Like later b) :
    Like past later w v := by
  refine { like with tests := fun other => ?_ }
  have pair := like.tests other
  by_cases own : other = past.test
  · subst own
    simp only [Past.leftoverFor, if_true] at pair ⊢
    generalize ours : w.test? past.test = mine at pair
    generalize theirs : v.test? past.test = yours at pair
    cases pair with
    | none => exact .none
    | @some a b cell => exact .some (cells a b ours theirs cell)
  · simpa only [Past.leftoverFor, own, if_false] using pair

theorem Like.weaken {more : Leftover} (like : w.Like past left v) (within : left.Within more) : Like past more w v :=
  like.regrade fun _ _ _ _ cell => cell.weaken within

-- A change of the test itself can put an end to a difference.
theorem Like.clear_up {later : Leftover} {f : TestCell → TestCell} (like : w.Like past left v)
    (clears : ∀ a b, a.Like left b → (f a).Like later (f b)) :
    Like past later (w.onTest past.test f) (v.onTest past.test f) := by
  refine { like with tests := fun other => ?_ }
  have cells := like.tests other
  rw [test?_onTest, test?_onTest]
  generalize w.test? other = ours at cells
  generalize v.test? other = theirs at cells
  by_cases same : past.test = other
  · simp only [Past.leftoverFor, same, if_true] at cells ⊢
    cases cells with
    | none => exact .none
    | some cell => exact .some (clears _ _ cell)
  · simp only [Past.leftoverFor, Ne.symm same, same, if_false] at cells ⊢
    exact cells

theorem Like.found {cell : TestCell} (like : w.Like past left v) (found : w.test? test = some cell) :
    ∃ other, v.test? test = some other ∧ cell.Like (past.leftoverFor left test) other := by
  have cells := like.tests test
  rw [found] at cells
  generalize v.test? test = theirs at cells
  cases cells with
  | some cell => exact ⟨_, rfl, cell⟩

theorem Like.lost (like : w.Like past left v) (lost : w.test? test = none) : v.test? test = none := by
  have cells := like.tests test
  rw [lost] at cells
  generalize v.test? test = theirs at cells
  cases cells with
  | none => rfl

theorem Like.outcomeOf (like : w.Like past left v) (known : (past.leftoverFor left test).Within .request) :
    v.outcomeOf test = w.outcomeOf test := by
  unfold World.outcomeOf
  cases found : w.test? test with
  | none => rw [like.lost found]
  | some cell =>
    obtain ⟨other, there, cells⟩ := like.found found
    rw [there]
    exact cells.outcome known

theorem Like.pendingFor (like : w.Like past left v) (settled : past.leftoverFor left test = .nothing) :
    v.pendingFor test = w.pendingFor test := by
  unfold World.pendingFor
  cases found : w.test? test with
  | none => rw [like.lost found]
  | some cell =>
    obtain ⟨other, there, cells⟩ := like.found found
    rw [there]
    exact (cells.settled settled).2.2

theorem Like.observe (like : w.Like past left v) (settled : past.leftoverFor left test = .nothing) :
    Like past left (w.observe test) (v.observe test) := by
  unfold World.observe
  cases found : w.test? test with
  | none =>
    rw [like.lost found]
    exact like
  | some cell =>
    obtain ⟨other, there, cells⟩ := like.found found
    obtain ⟨gate, outcome, -⟩ := cells.settled settled
    have shown : testView other = testView cell := by
      unfold testView
      rw [cells.name, outcome, gate]
    rw [there]
    simp only [cells.name, outcome, shown, like.device]
    exact like.find _

theorem Like.takeSignal {x : World} {event : ShutdownEvent} (like : w.Like past left v)
    (taken : w.takeSignal test = some (event, x)) :
    ∃ y, v.takeSignal test = some (event, y) ∧ x.Like past left y := by
  unfold World.takeSignal at taken ⊢
  rw [like.signals]
  split at taken
  · cases taken
  · rename_i first rest pending
    cases taken
    have popped : Like past left { w with signals := rest } { v with signals := rest } := { like with signals := rfl }
    refine ⟨_, rfl, ?_⟩
    rw [like.nameOf test]
    exact (popped.log _).requestCancel test

theorem Like.noSignal (like : w.Like past left v) (none_ : w.takeSignal test = none) : v.takeSignal test = none := by
  unfold World.takeSignal at none_ ⊢
  rw [like.signals]
  split at none_
  · rfl
  · cases none_

-- The timer that comes first is the same one, on either clock.
theorem earliest_like {ours theirs : List Timer} (due : List.Forall₂ past.Due ours theirs) :
    Option.Rel (fun a b => past.Due a.1 b.1 ∧ List.Forall₂ past.Due a.2 b.2) (earliest ours) (earliest theirs) := by
  induction due with
  | nil => exact .none
  | @cons timer other rest rest' first later ih =>
    simp only [earliest]
    generalize earliest rest = ours at ih
    generalize earliest rest' = theirs at ih
    cases ih with
    | none => exact .some ⟨first, .nil⟩
    | @some a b pair =>
      obtain ⟨next, others⟩ := pair
      have order : timer.due ≤ a.1.due ↔ other.due ≤ b.1.due := by
        have one := first.due
        have two := next.due
        simp only [Past.Meets] at one two
        omega
      simp only [order]
      split
      · exact .some ⟨first, later⟩
      · exact .some ⟨next, .cons first others⟩

theorem Like.popTimer {limit limit' : Nat} (like : w.Like past left v) (meets : past.Meets limit limit') :
    Option.Rel (fun a b => past.Due a.1 b.1 ∧ a.2.Like past left b.2) (w.popTimer limit) (v.popTimer limit') := by
  have agenda := earliest_like like.agenda
  unfold World.popTimer
  generalize earliest w.agenda = ours at agenda
  generalize earliest v.agenda = theirs at agenda
  cases agenda with
  | none => exact .none
  | @some a b pair =>
    obtain ⟨next, others⟩ := pair
    have due := next.due
    have clock := like.clock
    simp only [Past.Meets] at due clock meets
    have order : a.1.due ≤ limit ↔ b.1.due ≤ limit' := by omega
    simp only [order]
    split
    · refine .some ⟨next, { like with clock := ?_, agenda := others }⟩
      simp only [Past.Meets]
      omega
    · exact .none

theorem Like.popped {limit limit' : Nat} {timer : Timer} {w' : World} (like : w.Like past left v)
    (meets : past.Meets limit limit') (popped : w.popTimer limit = some (timer, w')) :
    ∃ timer' v', v.popTimer limit' = some (timer', v') ∧ past.Due timer timer' ∧ w'.Like past left v' := by
  have timers := like.popTimer meets
  rw [popped] at timers
  generalize v.popTimer limit' = theirs at timers ⊢
  cases timers with
  | some both => exact ⟨_, _, rfl, both⟩

theorem Like.unpopped {limit limit' : Nat} (like : w.Like past left v) (meets : past.Meets limit limit')
    (unpopped : w.popTimer limit = none) : v.popTimer limit' = none := by
  have timers := like.popTimer meets
  rw [unpopped] at timers
  generalize v.popTimer limit' = theirs at timers ⊢
  cases timers with
  | none => rfl

end World

namespace Run
variable {past : Past} {left : Leftover} {w v : World} {test : Nat} {p q p' q' : Phase}

-- What two runs come to by their next steps, if those are alike.
inductive Progress.Like (past : Past) (left : Phase → Leftover) : Progress → Progress → Prop where
  | moved {w v : World} {p q : Phase} (worlds : w.Like past (left p) v) (phases : p.Like past q) :
      Like past left (.moved w p) (.moved v q)
  | blocked {deadline deadline' : Nat} (meets : past.Meets deadline deadline') :
      Like past left (.blocked deadline) (.blocked deadline')
  | finished {result : RunResult} : Like past left (.finished result) (.finished result)

theorem Progress.Like.of_moved {left : Phase → Leftover} {ours theirs : Progress} (like : ours.Like past left theirs)
    (moved : ours = .moved w p) : ∃ v q, theirs = .moved v q ∧ w.Like past (left p) v ∧ p.Like past q := by
  subst moved
  cases like with
  | moved worlds phases => exact ⟨_, _, rfl, worlds, phases⟩

theorem Progress.Like.of_blocked {left : Phase → Leftover} {ours theirs : Progress} {deadline : Nat}
    (like : ours.Like past left theirs) (blocked : ours = .blocked deadline) :
    ∃ deadline', theirs = .blocked deadline' ∧ past.Meets deadline deadline' := by
  subst blocked
  cases like with
  | blocked meets => exact ⟨_, rfl, meets⟩

theorem Progress.Like.of_finished {left : Phase → Leftover} {ours theirs : Progress} {result : RunResult}
    (like : ours.Like past left theirs) (finished : ours = .finished result) : theirs = .finished result := by
  subst finished
  cases like with
  | finished => rfl

theorem Progress.Like.body {left : Phase → Leftover} {underway : List Op} {rest : List BodyStep}
    (worlds : w.Like past (left (.body underway rest)) v) :
    Progress.Like past left (.moved w (.body underway rest)) (.moved v (.body underway rest)) :=
  .moved worlds (.same (by simp))

theorem bodyStep_like {rest : List BodyStep} {step : BodyStep} (like : w.Like past left v)
    (settled : past.leftoverFor left test = .nothing) :
    Progress.Like past (fun _ => left) (bodyStep w test rest step) (bodyStep v test rest step) := by
  cases step with
  | mark verdict => exact .body (like.mark test verdict)
  | assert message holds =>
    simp only [bodyStep, like.nameOf]
    split
    · exact .body like
    · exact .body (like.log _)
  | prepare enable ignoreError =>
    simp only [bodyStep, prepare]
    split
    · rename_i x fault failed
      obtain ⟨y, failed', worlds⟩ := like.made_channel failed
      rw [failed']
      cases ignoreError with
      | true => exact .body (worlds.find (.sessionError fault))
      | false => exact .moved worlds (.same (by simp))
    · rename_i x channel made
      obtain ⟨y, made', worlds⟩ := like.made_channel made
      rw [made']
      cases enable with
      | true =>
        have numbered : y.newGate.2 = x.newGate.2 := worlds.made
        simp only [if_true, numbered]
        exact .body worlds.newGate
      | false => exact .body worlds
  | observe => exact .body (like.observe settled)
  | stop error => exact .moved like (.same (by simp))
  | act action => exact .body like

-- When a run takes its gate, its test must be known to have the same one.
theorem takeGate_like {error : Option ErrorChain} (like : w.Like past left v)
    (settled : past.leftoverFor left test = .nothing) :
    Progress.Like past (fun _ => left) (takeGate w test error) (takeGate v test error) := by
  unfold takeGate
  cases found : w.test? test with
  | none =>
    rw [like.lost found]
    exact .moved like (.same (by simp))
  | some cell =>
    obtain ⟨other, there, cells⟩ := like.found found
    have gate : other.gate = cell.gate := (cells.settled settled).1
    have taken : World.Like past left (w.onTest test fun cell => { cell with gate := none })
        (v.onTest test fun cell => { cell with gate := none }) := like.onTest fun _ _ _ cell => cell.gated none
    rw [there]
    simp only [gate, cells.name, cells.timeout]
    cases error with
    | some cause => exact .moved taken (.same (by simp))
    | none =>
      cases cell.gate with
      | none => exact .moved taken (.same (by simp))
      | some gate =>
        refine .moved taken (.waiting ?_)
        have clock : past.Meets w.clock v.clock := like.clock
        simp only [Past.Meets, World.onTest] at clock ⊢
        omega

theorem poll_like {gate deadline deadline' : Nat} {waited : Duration} (like : w.Like past left v)
    (settled : past.leftoverFor left test = .nothing) (live : ¬ past.Spent gate)
    (meets : past.Meets deadline deadline') :
    Progress.Like past (fun _ => left) (poll w test gate deadline waited) (poll v test gate deadline' waited) := by
  have clock : past.Meets w.clock v.clock := like.clock
  simp only [Past.Meets] at clock meets
  have order : deadline ≤ w.clock ↔ deadline' ≤ v.clock := by omega
  simp only [poll, like.gates gate live, like.pendingFor settled, order]
  split
  · exact .moved (like.setGate gate false) (.same (by simp))
  · split
    · exact .moved (like.clearCancel test) (.same (by simp))
    · split
      · exact .moved like (.same (by simp))
      · exact .blocked meets

theorem read_like (like : w.Like past left v) (settled : past.leftoverFor left test = .nothing) :
    Progress.Like past (fun _ => left) (read w test) (read v test) := by
  have outcome : v.outcomeOf test = w.outcomeOf test := like.outcomeOf (by rw [settled]; decide)
  simp only [read, outcome, like.nameOf]
  split
  · exact .moved like (.same (by simp))
  · exact .moved (like.log _) (.same (by simp))

-- A run of a test that has nothing left of its past goes on alike in both worlds.
theorem advance_like (like : w.Like past left v) (settled : past.leftoverFor left test = .nothing)
    (phases : p.Like past q) (awake : ∀ gate deadline waited, p = .waiting gate deadline waited → ¬ past.Spent gate) :
    Progress.Like past (fun _ => left) (advance w test p) (advance v test q) := by
  cases phases with
  | waiting meets => exact poll_like like settled (awake _ _ _ rfl) meets
  | same timeless =>
    cases p with
    | start body =>
      refine .moved (like.onTest fun _ _ _ cell => ?_) (.same (by simp))
      exact { cell with outcome := fun _ => rfl }
    | clear body => exact .body (like.clearCancel test)
    | body underway rest =>
      cases underway with
      | cons op ops =>
        obtain ⟨worlds, same⟩ := Op.step_like like op
        simp only [advance, same]
        exact .body worlds
      | nil =>
        cases rest with
        | nil => exact .moved like (.same (by simp))
        | cons step rest => exact bodyStep_like like settled
    | returned error => exact takeGate_like like settled
    | waiting gate deadline waited => exact absurd rfl (timeless gate deadline waited)
    | ended how =>
      cases how with
      | released => exact .moved like (.same (by simp))
      | _ => exact .moved (like.mark test .fail) (.same (by simp))
    | noted how =>
      simp only [advance, like.nameOf]
      cases how with
      | released => exact .moved like (.same (by simp))
      | _ => exact .moved (like.log _) (.same (by simp))
    | reading => exact read_like like settled
    | done result => exact .finished

-- The run itself clears up what was left behind: first the outcome, then the request.
theorem own_like (like : w.Like past left v) (within : left.Within p.leftover) (phases : p.Like past q)
    (awake : ∀ gate deadline waited, p = .waiting gate deadline waited → ¬ past.Spent gate) :
    Progress.Like past (fun p' => left.least p'.leftover) (advance w past.test p) (advance v past.test q) := by
  have later (settled : left.Within .nothing) :
      Progress.Like past (fun p' => left.least p'.leftover) (advance w past.test p) (advance v past.test q) := by
    obtain rfl := Leftover.within_nothing.mp settled
    exact advance_like like (ite_self _) phases awake
  cases p with
  | start body =>
    cases phases with
    | same =>
      refine .moved (like.clear_up fun a b cell => ?_) (.same (by simp))
      refine { cell with gate := fun _ => cell.gate within, outcome := fun _ => rfl, cancel := fun known => ?_ }
      rw [Leftover.Within, Leftover.rank_least] at known
      change min left.rank 1 ≤ 0 at known
      exact cell.cancel (show left.rank ≤ 0 by omega)
  | clear body =>
    cases phases with
    | same =>
      refine .body (like.clear_up fun a b cell => ?_)
      exact { cell with
        gate := fun _ => cell.gate (Nat.le_succ_of_le within)
        outcome := fun _ => cell.outcome within
        cancel := fun _ => rfl }
  | _ => exact later within

end Run
end TrialBench
