import TrialBench.Proofs.RunMoves
import TrialBench.Proofs.Site
namespace TrialBench

namespace Phase

def notedOn (own test : Nat) : Phase → Option Mark
  | .body (op :: _) _ => op.markOn test
  | .body [] (.mark verdict :: _) => if own = test then some verdict else none
  | _ => none

-- The failure that a run notes itself when nothing released its gate.
def failureOn (own test : Nat) : Phase → Option Mark
  | .ended .canceled | .ended (.timedOut _) => if own = test then some .fail else none
  | _ => none

def touch (own test : Nat) (w : World) (cell : TestCell) : Phase → TestCell
  | .start _ =>
    if own = test then { cell with outcome := cell.outcome.restart, runs := cell.runs + 1 } else cell
  | .clear _ => if own = test then { cell with cancelPending := false } else cell
  | .body (op :: _) _ => op.touch test cell
  | .body [] (.mark verdict :: _) =>
    if own = test then { cell with outcome := cell.outcome.mark verdict } else cell
  | .returned _ => if own = test then { cell with gate := none } else cell
  | .waiting gate _ _ =>
    if own = test ∧ w.isOpen gate = false ∧ w.pendingFor own = true then { cell with cancelPending := false }
    else cell
  | .ended .canceled | .ended (.timedOut _) =>
    if own = test then { cell with outcome := cell.outcome.mark .fail } else cell
  | _ => cell

def gatesAfter (w : World) : Phase → List Bool
  | .body (op :: _) _ => op.gatesAfter w.gates
  | .body [] (.prepare true _ :: _) =>
    match w.newChannel.2 with
    | .ok _ => w.gates ++ [false]
    | .error _ => w.gates
  | .waiting gate _ _ => if w.isOpen gate then w.gates.set gate false else w.gates
  | _ => w.gates

def op? : Phase → Option Op
  | .body (op :: _) _ => some op
  | _ => none

end Phase

namespace Run
variable {w w' v : World} {own test : Nat} {p p' : Phase}

def Installs (p : Phase) (test gate : Nat) : Prop :=
  ∃ channel, p.op? = some (.install channel (.verdict test gate))

abbrev Effect (own : Nat) (w : World) (p : Phase) : World → Prop :=
  w.Change (fun test cell => p.touch own test w cell) (p.gatesAfter w) w.clock (w.signals <+: ·) (Installs p)

theorem effect_still (alike : w.Alike v) (idle : ∀ test cell, p.touch own test w cell = cell)
    (shut : p.gatesAfter w = w.gates) : Effect own w p v :=
  .of_alike alike idle shut rfl (List.prefix_refl _)

theorem effect_own {f : TestCell → TestCell} (hit : ∀ cell, p.touch own own w cell = f cell)
    (miss : ∀ test cell, own ≠ test → p.touch own test w cell = cell)
    (shut : p.gatesAfter w = w.gates) : Effect own w p (w.onTest own f) :=
  .of_onTest hit miss shut rfl (List.prefix_refl _)

theorem newChannel_snd {made : World × Except ErrorChain Nat} (found : w.newChannel = made) :
    w.newChannel.2 = made.2 := by rw [found]

theorem Moves.effect (moves : Moves own w p w' p') : Effect own w p w' := by
  cases moves with
  | start => exact effect_own (by simp [Phase.touch]) (by simp +contextual [Phase.touch]) rfl
  | clear => exact effect_own (by simp [Phase.touch]) (by simp +contextual [Phase.touch]) rfl
  | @op op =>
    have effect := Op.step_effect w op
    refine ⟨effect.tests, effect.gates, effect.clock, effect.signals, fun channel test gate there => ?_⟩
    rcases effect.handlers channel test gate there with old | ⟨place, rfl⟩
    · exact .inl old
    · exact .inr ⟨place, rfl⟩
  | mark => exact effect_own (by simp [Phase.touch]) (by simp +contextual [Phase.touch]) rfl
  | holds => exact effect_still .refl (fun _ _ => rfl) rfl
  | fails => exact effect_still World.alike_log (fun _ _ => rfl) rfl
  | silent made => exact effect_still (World.alike_made made) (fun _ _ => rfl) rfl
  | @gated v channel _ _ made =>
    have alike := World.alike_made made
    refine ⟨fun test => ?_, ?_, alike.clock, alike.signals ▸ List.prefix_refl _,
      fun _ _ _ there => .inl (alike.handlers _ _ _ there)⟩
    · have same : v.newGate.1.tests = w.tests := alike.tests
      rw [World.test?, same]
      exact Option.map_id'.symm
    · simp only [Phase.gatesAfter, newChannel_snd made, World.newGate, alike.gates]
  | ignored failed =>
    exact effect_still ((World.alike_made failed).trans World.alike_find)
      (fun _ _ => rfl) (by cases ‹Bool› <;> simp [Phase.gatesAfter, newChannel_snd failed])
  | refused failed =>
    exact effect_still (World.alike_made failed) (fun _ _ => rfl)
      (by cases ‹Bool› <;> simp [Phase.gatesAfter, newChannel_snd failed])
  | observe => exact effect_still World.alike_observe (fun _ _ => rfl) rfl
  | stop => exact effect_still .refl (fun _ _ => rfl) rfl
  | act => exact effect_still .refl (fun _ _ => rfl) rfl
  | exhausted => exact effect_still .refl (fun _ _ => rfl) rfl
  | absent lost =>
    refine ⟨fun test => ?_, rfl, rfl, List.prefix_refl _, fun _ _ _ there => .inl there⟩
    by_cases same : own = test
    · subst same; rw [lost]; rfl
    · simp [Phase.touch, same]
  | gaveUp found => exact effect_own (by simp [Phase.touch]) (by simp +contextual [Phase.touch]) rfl
  | ungated found noGate => exact effect_own (by simp [Phase.touch]) (by simp +contextual [Phase.touch]) rfl
  | awaits found held => exact effect_own (by simp [Phase.touch]) (by simp +contextual [Phase.touch]) rfl
  | released opened =>
    refine ⟨fun test => ?_, by simp [Phase.gatesAfter, opened, World.useGate], rfl, List.prefix_refl _,
      fun _ _ _ there => .inl there⟩
    simp [Phase.touch, opened, World.useGate, World.test?]
  | canceled closed pending =>
    exact effect_own (by simp [Phase.touch, closed, pending]) (by simp +contextual [Phase.touch])
      (by simp [Phase.gatesAfter, closed])
  | timedOut closed quiet late =>
    exact effect_still .refl (by simp [Phase.touch, quiet]) (by simp [Phase.gatesAfter, closed])
  | passed => exact effect_still .refl (fun _ _ => rfl) rfl
  | @failed how missed =>
    cases how with
    | released => exact absurd rfl missed
    | canceled => exact effect_own (by simp [Phase.touch]) (by simp +contextual [Phase.touch]) rfl
    | timedOut waited => exact effect_own (by simp [Phase.touch]) (by simp +contextual [Phase.touch]) rfl
  | toldTimeout => exact effect_still World.alike_log (fun _ _ => rfl) rfl
  | toldCancel => exact effect_still World.alike_log (fun _ _ => rfl) rfl
  | toldNothing => exact effect_still .refl (fun _ _ => rfl) rfl
  | read =>
    refine effect_still ?_ (fun _ _ => rfl) rfl
    split
    · exact .refl
    · exact World.alike_log

end Run
namespace Moment

def op? (m : Moment) : Option (Nat × Op) :=
  match m.deed with
  | .work thread op => some (thread, op)
  | .advance thread _ p => p.op?.map (thread, ·)
  | _ => none

def own? (test : Nat) (m : Moment) : Option (World × Phase) :=
  match m.deed with
  | .advance _ named p => if named = test then some (m.world, p) else none
  | _ => none

-- The verdict noted on a test by its body, through a handle, or for a message.
def notedOn (test : Nat) (m : Moment) : Option Mark :=
  match m.deed with
  | .work _ op => op.markOn test
  | .advance _ own p => p.notedOn own test
  | .mark named verdict => if named = test then some verdict else none
  | _ => none

-- The same, with the failure that the run itself notes after its wait.
def markOn (test : Nat) (m : Moment) : Option Mark :=
  match m.deed with
  | .work _ op => op.markOn test
  | .advance _ own p => (p.notedOn own test).or (p.failureOn own test)
  | .mark named verdict => if named = test then some verdict else none
  | _ => none

def restarts (test : Nat) (m : Moment) : Bool :=
  match m.deed with
  | .advance _ own (.start _) => own = test
  | _ => false

def clears (test : Nat) (m : Moment) : Bool :=
  match m.deed with
  | .advance _ own (.clear _) => own = test
  | _ => false

def asksCancel (test : Nat) (m : Moment) : Bool :=
  match m.deed with
  | .work _ op | .advance _ _ (.body (op :: _) _) => op.asksCancel test
  | .heed _ named _ => named = test
  | _ => false

def makes? (m : Moment) : Option (Nat × Nat) :=
  match m.deed with
  | .advance _ own (.body [] (.prepare true _ :: _)) =>
    match m.world.newChannel.2 with
    | .ok _ => some (own, m.world.gates.length)
    | .error _ => none
  | _ => none

def Releases (gate : Nat) (m : Moment) : Prop := ∃ thread test, m.op? = some (thread, .release test gate)

def touch (test : Nat) (m : Moment) (cell : TestCell) : TestCell :=
  match m.deed with
  | .work _ op => op.touch test cell
  | .advance _ own p => p.touch own test m.world cell
  | .heed _ named _ => if named = test then { cell with cancelPending := true } else cell
  | .mark named verdict => if named = test then { cell with outcome := cell.outcome.mark verdict } else cell
  | .retime named timeout => if named = test then { cell with timeout } else cell
  | _ => cell

def gatesAfter (m : Moment) : List Bool :=
  match m.deed with
  | .work _ op => op.gatesAfter m.world.gates
  | .advance _ _ p => p.gatesAfter m.world
  | _ => m.world.gates

def clockAfter (m : Moment) : Nat :=
  match m.deed with
  | .elapse millis => m.world.clock + millis
  | _ => m.world.clock

def Heard (m : Moment) (later : List ShutdownEvent) : Prop :=
  match m.deed with
  | .heed _ _ event => m.world.signals = event :: later
  | .listen => later = []
  | _ => m.world.signals <+: later

def Installs (m : Moment) (test gate : Nat) : Prop :=
  ∃ thread channel, m.op? = some (thread, .install channel (.verdict test gate))

end Moment

namespace Site
variable {s next : Site} {deed : Deed}

abbrev Effect (m : Moment) : World → Prop :=
  m.world.Change m.touch m.gatesAfter m.clockAfter m.Heard m.Installs

theorem popTimer_some {w v : World} {limit : Nat} {timer : Timer} (popped : w.popTimer limit = some (timer, v)) :
    ∃ others, World.earliest w.agenda = some (timer, others) ∧ timer.due ≤ limit ∧
      v = { w with agenda := others, clock := max w.clock timer.due } := by
  unfold World.popTimer at popped
  split at popped
  · cases popped
  · rename_i next others found
    split at popped
    · rename_i due
      cases popped
      exact ⟨others, found, due, rfl⟩
    · cases popped

theorem popTimer_alike {w v : World} {timer : Timer} (popped : w.popTimer w.clock = some (timer, v)) :
    w.Alike v := by
  obtain ⟨others, -, due, rfl⟩ := popTimer_some popped
  exact .of_channels rfl rfl (Nat.max_eq_left due) rfl rfl

theorem Step.effect (step : Step s deed next) : Effect ⟨s.world, deed⟩ next.world := by
  cases step with
  | spawn => exact .of_alike .refl (fun _ _ => rfl) rfl rfl (List.prefix_refl _)
  | fire popped => exact .of_alike (popTimer_alike popped) (fun _ _ => rfl) rfl rfl (List.prefix_refl _)
  | begin known idle => exact .of_alike .refl (fun _ _ => rfl) rfl rfl (List.prefix_refl _)
  | tell => exact .of_alike World.alike_log (fun _ _ => rfl) rfl rfl (List.prefix_refl _)
  | mark =>
    exact .of_onTest (by simp [Moment.touch]) (by simp +contextual [Moment.touch]) rfl rfl (List.prefix_refl _)
  | retime idle =>
    exact .of_onTest (by simp [Moment.touch]) (by simp +contextual [Moment.touch]) rfl rfl (List.prefix_refl _)
  | listen => exact ⟨fun test => Option.map_id'.symm, rfl, rfl, rfl, fun _ _ _ there => .inl there⟩
  | elapse =>
    exact ⟨fun test => Option.map_id'.symm, rfl, rfl, List.prefix_refl _, fun _ _ _ there => .inl there⟩
  | @work i op left seat =>
    have effect := Op.step_effect s.world op
    refine ⟨effect.tests, effect.gates, effect.clock, effect.signals, fun channel test gate there => ?_⟩
    rcases effect.handlers channel test gate there with old | ⟨place, rfl⟩
    · exact .inl old
    · exact .inr ⟨i, place, rfl⟩
  | @advance i test watched p p' w seat turned =>
    have effect := (Run.moves_sound (Run.turn_moved.1 turned)).effect
    refine ⟨effect.tests, effect.gates, effect.clock, effect.signals, fun channel test gate there => ?_⟩
    rcases effect.handlers channel test gate there with old | ⟨place, doing⟩
    · exact .inl old
    · exact .inr ⟨i, place, by simp [Moment.op?, doing]⟩
  | @heed i test watched p event w seat turned =>
    obtain ⟨rfl, stopped, taken⟩ := Run.turn_heeded.1 turned
    unfold World.takeSignal at taken
    split at taken
    · cases taken
    · rename_i first rest pending
      cases taken
      refine ⟨fun named => ?_, rfl, rfl, pending, fun _ _ _ there => .inl there⟩
      change (s.world.requestCancel test).test? named = _
      rw [World.requestCancel, World.test?_onTest]
      split
      · rename_i same
        congr 1
        funext cell
        simp [Moment.touch, same]
      · rename_i differ
        have ident : Moment.touch named ⟨s.world, .heed i test event⟩ = id :=
          funext fun cell => by simp [Moment.touch, differ]
        rw [ident, Option.map_id_fun, id]
  | rest seat turned => exact .of_alike .refl (fun _ _ => rfl) rfl rfl (List.prefix_refl _)

end Site
end TrialBench
