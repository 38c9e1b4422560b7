import TrialBench.Proofs.Delivery
import TrialBench.Proofs.Scene
namespace TrialBench

namespace Site
variable {history later : List Moment} {s next : Site} {deed : Deed} {m : Moment} {test i : Nat}
  {watched : Bool} {p p' : Phase} {how : WaitEnd}

-- The poll that ended the wait of a test's latest run, when the wait did not time out. The
-- gate had been released before it, or else the run saw a cancel request.
def Settled (test : Nat) (how : WaitEnd) (history : List Moment) : Prop :=
  ∃ later poll earlier thread gate deadline waited, history = later ++ poll :: earlier ∧
    poll.deed = .advance thread test (.waiting gate deadline waited) ∧ (∀ k ∈ later, k.restarts test = false) ∧
    ((∃ m ∈ earlier, m.Releases gate) ∧ how = .released ∨ (¬ ∃ m ∈ earlier, m.Releases gate) ∧ how = .canceled)

def Over (test : Nat) (how : WaitEnd) (history : List Moment) : Prop :=
  Settled test how history ∧ ∀ other, WaitEnded test other history ↔ other = how

theorem waitEnded_cons (going : m.restarts test = false) :
    WaitEnded test how (m :: history) ↔ m.waitEnd? test = some how ∨ WaitEnded test how history := by
  simp [WaitEnded, since_cons going]

theorem Settled.cons (settled : Settled test how history) (going : m.restarts test = false) :
    Settled test how (m :: history) := by
  obtain ⟨later, poll, earlier, thread, gate, deadline, waited, rfl, polls, held, decided⟩ := settled
  refine ⟨m :: later, poll, earlier, thread, gate, deadline, waited, rfl, polls, ?_, decided⟩
  intro k member
  rcases List.mem_cons.mp member with rfl | old
  · exact going
  · exact held k old

theorem Over.cons (resolved : Over test how history) (going : m.restarts test = false)
    (silent : m.waitEnd? test = none) : Over test how (m :: history) := by
  refine ⟨resolved.1.cons going, ?_⟩
  intro other
  rw [waitEnded_cons going, silent, ← resolved.2 other]
  simp

theorem Foreign.silent (foreign : Foreign test m) : m.waitEnd? test = none := by
  cases ended : m.waitEnd? test with
  | none => rfl
  | some how =>
    obtain ⟨step, own, -⟩ := Moment.waitEnd_own ended
    rw [foreign.own] at own
    cases own

theorem Foreign.unquiet (foreign : Foreign test m) : m.quiets test = false := by
  obtain ⟨w, deed⟩ := m
  cases deed with
  | advance thread own p =>
    have apart : own ≠ test := by
      intro same
      have kept_off := foreign.own
      simp [Moment.own?, same] at kept_off
    cases p <;> simp [Moment.quiets, apart]
  | _ => rfl

theorem Foreign.waitEnded (foreign : Foreign test m) :
    WaitEnded test how (m :: history) ↔ WaitEnded test how history := by
  rw [waitEnded_cons foreign.restarts, foreign.silent]
  simp

theorem Step.pending_kept (step : Step s deed next) (foreign : Foreign test ⟨s.world, deed⟩)
    (pending : s.world.pendingFor test = true) : next.world.pendingFor test = true := by
  cases found : s.world.test? test with
  | none => simp [World.pendingFor, found] at pending
  | some cell =>
    have there : cell.cancelPending = true := by simpa [World.pendingFor, found] using pending
    rw [World.pendingFor, step.effect.tests, found, Option.map_some, Option.map_some, Option.getD_some,
      Moment.touch_told, foreign.unquiet, there]
    rfl

theorem waiting_open_ended {gate deadline : Nat} {waited : Duration} (reached : Reached history s)
    (seat : s.threads[i]? = some (.run test watched (.waiting gate deadline waited))) :
    ¬ WaitEnded test how history := by
  intro ended
  obtain ⟨m, inside, ended⟩ := ended
  obtain ⟨step, taken, same⟩ := Moment.waitEnd_own ended
  obtain ⟨course, -⟩ := reached_course reached seat trivial (by simp)
  obtain ⟨w, cell, before, steps, -, -, -, -, working⟩ := course.waiting
  have own : step ∈ ownSteps test history := ownSteps_member.mpr ⟨m, inside, taken⟩
  rw [steps] at own
  rcases List.mem_cons.mp own with rfl | early
  · cases same
  · have work := working step early
    rw [same] at work
    exact work

end Site

-- What holds of a run that was asked to stop while it waited, from then to its end.
def Phase.Stopping (test : Nat) (history : List Moment) (w : World) : Phase → Prop
  | .waiting _ _ _ => w.pendingFor test = true ∧ ∀ how, ¬ Site.WaitEnded test how history
  | .ended how => Site.Settled test how history ∧ ∀ other, ¬ Site.WaitEnded test other history
  | .noted how => Site.Over test how history
  | .reading | .done _ => ∃ how, Site.Over test how history
  | _ => False

def Phase.stepsLeft : Phase → Nat
  | .waiting _ _ _ => 4
  | .ended _ => 3
  | .noted _ => 2
  | .reading => 1
  | .done _ => 0
  | _ => 5

namespace Site
variable {history later : List Moment} {s next : Site} {deed : Deed} {m : Moment} {test i : Nat}
  {watched : Bool} {p p' : Phase} {how : WaitEnd}

theorem Foreign.stopping (foreign : Foreign test ⟨s.world, deed⟩) (step : Step s deed next)
    (stopping : p.Stopping test history s.world) : p.Stopping test (⟨s.world, deed⟩ :: history) next.world := by
  cases p with
  | waiting gate deadline waited =>
    obtain ⟨pending, running⟩ := stopping
    refine ⟨step.pending_kept foreign pending, ?_⟩
    intro how
    rw [foreign.waitEnded]
    exact running how
  | ended how =>
    obtain ⟨settled, running⟩ := stopping
    refine ⟨settled.cons foreign.restarts, ?_⟩
    intro other
    rw [foreign.waitEnded]
    exact running other
  | noted how => exact stopping.cons foreign.restarts foreign.silent
  | reading | done result =>
    obtain ⟨how, resolved⟩ := stopping
    exact ⟨how, resolved.cons foreign.restarts foreign.silent⟩
  | _ => exact stopping.elim

theorem stopping_moves {w : World} (stopping : p.Stopping test history w) :
    (∃ result, p = .done result) ∨ ∃ v p', Run.advance w test p = .moved v p' ∧ p'.stepsLeft < p.stepsLeft := by
  cases p with
  | waiting gate deadline waited =>
    simp only [Run.advance, Run.poll, stopping.1, if_true]
    split
    · exact .inr ⟨_, _, rfl, Nat.lt_succ_self 3⟩
    · exact .inr ⟨_, _, rfl, Nat.lt_succ_self 3⟩
  | ended how => cases how <;> exact .inr ⟨_, _, rfl, by simp [Phase.stepsLeft]⟩
  | noted how => cases how <;> exact .inr ⟨_, _, rfl, Nat.lt_succ_self 1⟩
  | reading => exact .inr ⟨_, _, rfl, Nat.lt_succ_self 0⟩
  | done result => exact .inl ⟨result, rfl⟩
  | _ => exact stopping.elim

theorem ended_over {w : World} (settled : Settled test how history)
    (running : ∀ other, ¬ WaitEnded test other history) :
    Over test how (⟨w, .advance i test (.ended how)⟩ :: history) := by
  refine ⟨settled.cons rfl, ?_⟩
  intro other
  rw [waitEnded_cons rfl]
  constructor
  · intro ended
    rcases ended with now | before
    · simpa [Moment.waitEnd?, eq_comm] using now
    · exact absurd before (running other)
  · intro same
    exact .inl (by simp [Moment.waitEnd?, same])

theorem waiting_settled {gate deadline : Nat} {waited : Duration} (reached : Reached history s)
    (seat : s.threads[i]? = some (.run test watched (.waiting gate deadline waited)))
    (moves : Run.Moves test s.world (.waiting gate deadline waited) next.world p')
    (pending : s.world.pendingFor test = true) :
    ∃ how, p' = .ended how ∧
      Settled test how (⟨s.world, .advance i test (.waiting gate deadline waited)⟩ :: history) := by
  have opened := waiting_open reached seat
  rcases moves.polled with ⟨free, rfl, -⟩ | ⟨shut, -, rfl, -⟩ | ⟨-, quiet, -⟩
  · exact ⟨_, rfl, [], _, history, i, gate, deadline, waited, rfl, rfl, by simp, .inl ⟨opened.mp free, rfl⟩⟩
  · refine ⟨_, rfl, [], _, history, i, gate, deadline, waited, rfl, rfl, by simp, .inr ⟨?_, rfl⟩⟩
    rw [← opened, shut]
    exact Bool.false_ne_true
  · rw [pending] at quiet
    cases quiet

theorem Moves.stopping (reached : Reached history s) (seat : s.threads[i]? = some (.run test watched p))
    (moves : Run.Moves test s.world p next.world p') (stopping : p.Stopping test history s.world) :
    p'.Stopping test (⟨s.world, .advance i test p⟩ :: history) next.world := by
  cases p with
  | waiting gate deadline waited =>
    obtain ⟨pending, running⟩ := stopping
    obtain ⟨how, rfl, settled⟩ := waiting_settled reached seat moves pending
    refine ⟨settled, ?_⟩
    intro other
    rw [waitEnded_cons rfl]
    simp [Moment.waitEnd?, running]
  | ended how =>
    obtain ⟨settled, running⟩ := stopping
    have resolved := ended_over (w := s.world) (i := i) settled running
    generalize next.world = later at moves
    cases moves with
    | passed => exact ⟨_, resolved⟩
    | failed missed => exact resolved
  | noted how =>
    have resolved := Over.cons (m := ⟨s.world, .advance i test (.noted how)⟩) stopping rfl rfl
    generalize next.world = later at moves
    cases moves <;> exact ⟨_, resolved⟩
  | reading =>
    obtain ⟨how, resolved⟩ := stopping
    generalize next.world = later at moves
    cases moves
    exact ⟨how, resolved.cons rfl rfl⟩
  | done result =>
    generalize next.world = later at moves
    cases moves
  | _ => exact stopping.elim

theorem Over.outcome (reached : Reached history s) (resolved : Over test how history) :
    (how = .canceled → s.world.outcomeOf test = .fail) ∧
      (how = .released → s.world.outcomeOf test =
        Outcome.running.markAll ((since test history).filterMap (·.notedOn test)).reverse) := by
  obtain ⟨⟨later, poll, earlier, thread, gate, deadline, waited, split, polls, -, -⟩, ended⟩ := resolved
  subst split
  obtain ⟨found, left, watched, reachedFound, seat, -, same, -⟩ := poll_found reached polls
  obtain ⟨-, m, member, ran⟩ := reached_course reachedFound seat trivial (by simp)
  have known := reached_known reachedFound seat
  rw [same, reached_length reached (List.mem_append_right _ List.mem_cons_self)] at known
  obtain ⟨cell, there⟩ := World.test?_of_known known
  have merged := reached_outcome reached there
    ⟨m, List.mem_append_right _ (List.mem_cons_of_mem _ member), ran⟩
  have stored : s.world.outcomeOf test = cell.outcome := by rw [World.outcomeOf, there]
  rw [stored, merged]
  constructor
  · rintro rfl
    apply Outcome.markAll_fail.mpr
    exact .inr (marks_fail.mpr (.inr ⟨.canceled, (ended _).mpr rfl, by simp⟩))
  · rintro rfl
    -- The run itself has noted nothing, so that its marks are those of the others.
    rw [marks]
    congr 2
    apply List.filterMap_congr
    intro k inside
    apply Moment.markOn_unfailed
    intro other close
    exact (ended other).mp ⟨k, inside, close⟩

end Site
end TrialBench
