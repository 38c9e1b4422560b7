import TrialBench.Proofs.Courses
import TrialBench.Proofs.Histories
namespace TrialBench

-- The gate that a test will have when steps under way are done.
def Op.settled (test : Nat) (gate : Option Nat) (ops : List Op) : Option Nat :=
  ops.foldl (fun gate op => (op.keptFor test).or gate) gate

def Site.lastGate (test : Nat) (history : List Moment) : Option Nat :=
  (since test history).findSome? fun m => m.makes?.bind fun made => if made.1 = test then some made.2 else none

-- The gate that a test has, by the place where its run stands.
def Phase.Holds (test : Nat) (last gate : Option Nat) : Phase → Prop
  | .start _ => gate = none
  | .clear _ => gate = none ∧ last = none
  | .body underway _ => Op.settled test gate underway = last
  | .returned _ => gate = last
  | .waiting awaited _ _ => gate = none ∧ last = some awaited
  | _ => gate = none

-- Workers set no gate up, and a run sets up gates of its own test only.
def Thread.SetsUp (op : Op) : Thread → Prop
  | .worker _ => op.Plain
  | .run test _ _ => op.Plain ∨ ∃ gate, op.ref? = some (test, gate)

def Thread.ops : Thread → List Op
  | .worker left => left
  | .run _ _ (.body underway _) => underway
  | .run _ _ _ => []

theorem Op.keptFor_plain {test : Nat} {op : Op} (plain : op.Plain) : op.keptFor test = none := by
  cases op with
  | keepGate named gate => exact plain.elim
  | _ => rfl

theorem Op.settled_plain {test : Nat} {gate : Option Nat} {first rest : List Op}
    (plain : ∀ op ∈ first, op.Plain) :
    settled test gate (first ++ rest) = settled test gate rest := by
  induction first with
  | nil => rfl
  | cons op first ih =>
    have silent : op.keptFor test = none := keptFor_plain (plain op List.mem_cons_self)
    have shorter := ih fun next member => plain next (List.mem_cons_of_mem _ member)
    simpa [settled, silent] using shorter

namespace Site
variable {history : List Moment} {s next : Site} {deed : Deed} {test i j : Nat} {watched : Bool}
  {p p' : Phase}

theorem Step.length_le (step : Step s deed next) : s.threads.length ≤ next.threads.length := by
  cases step <;> simp

theorem Step.stays {thread : Thread} (step : Step s deed next) (seat : s.threads[i]? = some thread) :
    ∃ later, next.threads[i]? = some later ∧ Became s deed next.world i later := by
  have old : i < s.threads.length := (List.getElem?_eq_some_iff.mp seat).1
  have place : i < next.threads.length := Nat.lt_of_lt_of_le old step.length_le
  exact ⟨_, List.getElem?_eq_getElem place, step.became (List.getElem?_eq_getElem place)⟩

theorem live_of_moved {w v : World} (moved : Run.advance w test p = .moved v p') : p.Live := by
  cases p with
  | done result => cases moved
  | _ => trivial

theorem live_of_blocked {w : World} {deadline : Nat} (blocked : Run.advance w test p = .blocked deadline) :
    p.Live := by
  obtain ⟨-, gate, waited, rfl⟩ := Run.blocked_waiting blocked
  trivial

theorem Step.ran (step : Step s deed next) (seat : next.threads[i]? = some (.run test watched p)) (live : p.Live) :
    (∃ watched p, s.threads[i]? = some (.run test watched p) ∧ p.Live) ∨
      (i = s.threads.length ∧ s.Idle test) := by
  cases step.became seat with
  | kept seat => exact .inl ⟨_, _, seat, live⟩
  | begun vacant did known idle => exact .inr ⟨vacant, idle⟩
  | advanced seat did moved => exact .inl ⟨_, _, seat, live_of_moved moved⟩
  | heeded seat did blocked => exact .inl ⟨_, _, seat, live_of_blocked blocked⟩
  | rested seat did blocked => exact .inl ⟨_, _, seat, live⟩

theorem reached_known (reached : Reached history s) (seat : s.threads[i]? = some (.run test watched p)) :
    test < s.world.tests.length := by
  induction reached generalizing i watched p with
  | fresh => cases seat
  | step earlier step ih =>
    rw [step.known]
    cases step.became seat with
    | kept seat => exact ih seat
    | begun vacant did known => exact known
    | advanced seat => exact ih seat
    | heeded seat => exact ih seat
    | rested seat => exact ih seat

theorem reached_alone (reached : Reached history s) {watched' : Bool}
    (one : s.threads[i]? = some (.run test watched p)) (oneLive : p.Live)
    (two : s.threads[j]? = some (.run test watched' p')) (twoLive : p'.Live) : i = j := by
  induction reached generalizing i j watched watched' p p' with
  | fresh => cases one
  | step earlier step ih =>
    rcases step.ran one oneLive with ⟨_, q, seat, live⟩ | ⟨newest, idle⟩
    · rcases step.ran two twoLive with ⟨_, q', seat', live'⟩ | ⟨newest, idle⟩
      · exact ih seat live seat' live'
      · exact absurd live (idle _ q (List.mem_of_getElem? seat))
    · rcases step.ran two twoLive with ⟨_, q', seat', live'⟩ | ⟨newest', _⟩
      · exact absurd live' (idle _ q' (List.mem_of_getElem? seat'))
      · exact newest.trans newest'.symm

theorem reached_setup {thread : Thread} (reached : Reached history s) (seat : s.threads[i]? = some thread) :
    ∀ op ∈ thread.ops, thread.SetsUp op := by
  induction reached generalizing i thread with
  | fresh => cases seat
  | @step history s next deed earlier step ih =>
    intro op member
    cases step.became seat with
    | kept place => exact ih place op member
    | hired =>
      obtain rfl := List.mem_singleton.mp member
      trivial
    | begun => cases member
    | worked place =>
      rcases List.mem_append.mp member with led | left
      · exact Op.step_plain led
      · exact ih place op (List.mem_cons_of_mem _ left)
    | advanced place did moved =>
      generalize next.world = later at moved
      cases Run.moves_sound moved with
      | op =>
        rcases List.mem_append.mp member with led | left
        · exact .inl (Op.step_plain led)
        · exact ih place op (List.mem_cons_of_mem _ left)
      | gated made =>
        simp only [Thread.ops, List.mem_cons, List.not_mem_nil, or_false] at member
        rcases member with rfl | rfl | rfl
        · exact .inr ⟨_, rfl⟩
        · exact .inr ⟨_, rfl⟩
        · exact .inl trivial
      | fails | silent | act =>
        obtain rfl := List.mem_singleton.mp member
        exact .inl trivial
      | _ => cases member
    | heeded place did blocked =>
      obtain ⟨-, gate, waited, rfl⟩ := Run.blocked_waiting blocked
      cases member
    | rested place => exact ih place op member

-- A deed that is no step of a test's own run leaves alone all that belongs to the run.
structure Foreign (test : Nat) (m : Moment) : Prop where
  restarts : m.restarts test = false
  own : m.own? test = none
  yields : m.yields test = false
  makes : ∀ gate, m.makes? ≠ some (test, gate)
  kept : m.keptFor test = none

theorem Step.foreign (reached : Reached history s) (step : Step s deed next)
    (foreign : ∀ i p, deed ≠ .advance i test p) : Foreign test ⟨s.world, deed⟩ := by
  cases step with
  | @work j op left seat =>
    have plain : op.Plain := reached_setup reached seat op List.mem_cons_self
    exact ⟨rfl, rfl, rfl, by simp [Moment.makes?], Op.keptFor_plain plain⟩
  | @advance j own watched p p' w seat turned =>
    have apart : own ≠ test := fun same => foreign j p (by rw [same])
    refine ⟨?_, ?_, ?_, fun gate => ?_, ?_⟩
    · cases p <;> simp [Moment.restarts, apart]
    · simp [Moment.own?, apart]
    · cases p <;> simp [Moment.yields, apart]
    · intro made
      unfold Moment.makes? at made
      split at made
      · rename_i deed same
        cases same
        split at made <;> cases made
        exact apart rfl
      · cases made
    · rcases p with _ | _ | ⟨_ | ⟨op, ops⟩, rest⟩ | _ <;> try rfl
      rcases reached_setup reached seat op List.mem_cons_self with plain | ⟨gate, speaks⟩
      · exact Op.keptFor_plain plain
      · cases op with
        | keepGate named kept =>
          cases speaks
          simp [Moment.keptFor, Moment.op?, Phase.op?, Op.keptFor, apart]
        | _ => rfl
  | _ => exact ⟨rfl, rfl, rfl, by simp [Moment.makes?], rfl⟩

theorem Foreign.ownSteps {m : Moment} (foreign : Foreign test m) :
    ownSteps test (m :: history) = ownSteps test history := by
  simp [Site.ownSteps, since_cons foreign.restarts, foreign.own]

theorem Foreign.lastGate {m : Moment} (foreign : Foreign test m) :
    lastGate test (m :: history) = lastGate test history := by
  rw [Site.lastGate, since_cons foreign.restarts, List.findSome?_cons]
  cases made : m.makes? with
  | none => rfl
  | some pair =>
    have apart : pair.1 ≠ test := by
      rintro rfl
      exact foreign.makes pair.2 made
    simp [Site.lastGate, apart]

theorem Step.advanced (step : Step s (.advance i test p) next) :
    ∃ watched p', s.threads[i]? = some (.run test watched p) ∧ Run.Moves test s.world p next.world p' ∧
      next.threads = s.threads.set i (.run test watched p') := by
  cases step with
  | advance seat turned => exact ⟨_, _, seat, Run.moves_sound (Run.turn_moved.1 turned), rfl⟩

theorem Step.goes (step : Step s (.advance i test p) next) (seat : s.threads[i]? = some (.run test watched p)) :
    ∃ p', next.threads[i]? = some (.run test watched p') ∧ Run.Moves test s.world p next.world p' := by
  obtain ⟨_, p', seat', moves, threads⟩ := step.advanced
  cases seat.symm.trans seat'
  have place : i < s.threads.length := (List.getElem?_eq_some_iff.mp seat).1
  exact ⟨p', by rw [threads, List.getElem?_set_self place], moves⟩

theorem Step.foreign_kept (reached : Reached history s) (step : Step s deed next)
    (seat : s.threads[i]? = some (.run test watched p)) (live : p.Live)
    (apart : deed.thread? ≠ some i) : Foreign test ⟨s.world, deed⟩ := by
  apply step.foreign reached
  rintro j q rfl
  obtain ⟨_, q', there, moves, _⟩ := step.advanced
  have same := reached_alone reached seat live there (live_of_moved (Run.moves_complete moves))
  exact apart (by rw [same]; rfl)

theorem restarts_going {w : World} (going : ∀ body, p ≠ .start body) :
    Moment.restarts test ⟨w, .advance i test p⟩ = false := by
  cases p with
  | start body => exact absurd rfl (going body)
  | _ => rfl

theorem own_step {w : World} (going : ∀ body, p ≠ .start body) :
    ownSteps test (⟨w, .advance i test p⟩ :: history) = (w, p) :: ownSteps test history := by
  simp [ownSteps, since_cons (restarts_going going), Moment.own?]

theorem reached_course (reached : Reached history s) (seat : s.threads[i]? = some (.run test watched p))
    (live : p.Live) (begun : ∀ body, p ≠ .start body) :
    Run.Course test (ownSteps test history) p ∧ ∃ m ∈ history, m.restarts test = true := by
  induction reached generalizing i watched p with
  | fresh => cases seat
  | @step history s next deed earlier step ih =>
    have alone (foreign : Foreign test ⟨s.world, deed⟩) {watched : Bool}
        (seat : s.threads[i]? = some (.run test watched p)) :
        Run.Course test (ownSteps test (⟨s.world, deed⟩ :: history)) p ∧
          ∃ m ∈ ⟨s.world, deed⟩ :: history, m.restarts test = true := by
      obtain ⟨course, m, member, restart⟩ := ih seat live begun
      exact ⟨by rwa [foreign.ownSteps], m, List.mem_cons_of_mem _ member, restart⟩
    cases step.became seat with
    | kept place apart => exact alone (step.foreign_kept earlier place live apart) place
    | begun => exact absurd rfl (begun _)
    | @advanced _ _ q _ place did moved =>
      subst did
      by_cases first : ∃ body, q = .start body
      · obtain ⟨body, rfl⟩ := first
        obtain ⟨-, rfl⟩ := Run.Progress.moved.inj moved
        refine ⟨?_, _, List.mem_cons_self, by simp [Moment.restarts]⟩
        rw [ownSteps, since_restart (by simp [Moment.restarts])]
        exact .restarted
      · have going : ∀ body, q ≠ .start body := fun body same => first ⟨body, same⟩
        obtain ⟨course, m, member, restart⟩ := ih place (live_of_moved moved) going
        rw [own_step going]
        exact ⟨course.moved (Run.moves_sound moved), m, List.mem_cons_of_mem _ member, restart⟩
    | heeded place did => exact alone (step.foreign earlier (by simp [did])) place
    | rested place did => exact alone (step.foreign earlier (by simp [did])) place

theorem Foreign.gate {m : Moment} {cell : TestCell} (foreign : Foreign test m) :
    (m.touch test cell).gate = cell.gate := by
  simp [Moment.touch_told, foreign.yields, foreign.kept]

theorem lastGate_cons {m : Moment} (going : m.restarts test = false) (makes : m.makes? = none) :
    lastGate test (m :: history) = lastGate test history := by
  simp [lastGate, since_cons going, makes]

theorem lastGate_made {m : Moment} {gate : Nat} (going : m.restarts test = false)
    (makes : m.makes? = some (test, gate)) : lastGate test (m :: history) = some gate := by
  simp [lastGate, since_cons going, makes]

theorem moves_gate {w v : World} {cell : TestCell} (moves : Run.Moves test w p v p')
    (found : w.test? test = some cell) (held : p.Holds test (lastGate test history) cell.gate) :
    p'.Holds test (lastGate test (⟨w, .advance i test p⟩ :: history))
      (Moment.touch test ⟨w, .advance i test p⟩ cell).gate := by
  rw [Moment.touch_told]
  cases moves with
  | start =>
    rw [lastGate, since_restart (by simp [Moment.restarts])]
    exact ⟨held, rfl⟩
  | clear =>
    rw [lastGate_cons rfl rfl]
    exact held.1.trans held.2.symm
  | @op op ops rest =>
    rw [lastGate_cons rfl rfl]
    exact (Op.settled_plain fun next member => Op.step_plain member).trans held
  | @gated v channel ignoreError rest made =>
    have makes : Moment.makes? ⟨w, .advance i test (.body [] (.prepare true ignoreError :: rest))⟩ =
        some (test, v.gates.length) := by
      simp [Moment.makes?, Run.newChannel_snd made, (World.alike_made made).gates]
    rw [lastGate_made rfl makes]
    simp [Phase.Holds, Op.settled, Op.keptFor]
  | silent made =>
    rw [lastGate_cons rfl rfl]
    exact held
  | ignored failed | refused failed =>
    rw [lastGate_cons rfl (by cases ‹Bool› <;> simp [Moment.makes?, Run.newChannel_snd failed])]
    exact held
  | absent lost =>
    rw [found] at lost
    cases lost
  | ungated found' noGate => simp [Phase.Holds, Moment.yields]
  | gaveUp => simp [Phase.Holds, Moment.yields]
  | awaits found' held' =>
    obtain rfl := Option.some.inj (found.symm.trans found')
    rw [lastGate_cons rfl rfl]
    exact ⟨by simp [Moment.yields], held.symm.trans held'⟩
  | released | canceled | timedOut =>
    rw [lastGate_cons rfl rfl]
    exact held.1
  | _ =>
    rw [lastGate_cons rfl rfl]
    exact held

theorem Step.run_stays (step : Step s deed next) (seat : s.threads[i]? = some (.run test watched p)) :
    ∃ watched' p', next.threads[i]? = some (.run test watched' p') ∧
      (watched' = watched ∨ ∃ event, deed = .heed i test event) ∧
      (p' = p ∨ deed = .advance i test p ∧ Run.Moves test s.world p next.world p') := by
  have old : i < s.threads.length := (List.getElem?_eq_some_iff.mp seat).1
  obtain ⟨later, seat', became⟩ := step.stays seat
  cases became with
  | kept place => exact ⟨watched, p, seat'.trans (place.symm.trans seat), .inl rfl, .inl rfl⟩
  | hired vacant => omega
  | begun vacant => omega
  | worked place => cases place.symm.trans seat
  | advanced place did moved =>
    cases place.symm.trans seat
    exact ⟨_, _, seat', .inl rfl, .inr ⟨did, Run.moves_sound moved⟩⟩
  | heeded place did =>
    cases place.symm.trans seat
    exact ⟨_, _, seat', .inr ⟨_, did⟩, .inl rfl⟩
  | rested place =>
    cases place.symm.trans seat
    exact ⟨_, _, seat', .inl rfl, .inl rfl⟩

theorem Step.goes_on (step : Step s deed next) (seat : s.threads[i]? = some (.run test watched p))
    (foreign : ∀ i p, deed ≠ .advance i test p) :
    ∃ watched, next.threads[i]? = some (.run test watched p) := by
  obtain ⟨watched', p', seat', -, rfl | ⟨did, -⟩⟩ := step.run_stays seat
  · exact ⟨watched', seat'⟩
  · exact absurd did (foreign i p)

theorem moves_ungated {w v : World} {cell : TestCell} (moves : Run.Moves test w p v p') (resolved : ¬ p'.Live)
    (held : p.Holds test (lastGate test history) cell.gate) :
    (Moment.touch test ⟨w, .advance i test p⟩ cell).gate = none := by
  rw [Moment.touch_told]
  cases moves with
  | gaveUp => simp [Moment.yields]
  | read => exact held
  | _ => exact absurd trivial resolved

-- A test holds a gate only while one of its runs has its body at work.
theorem reached_gate {cell : TestCell} (reached : Reached history s) (found : s.world.test? test = some cell) :
    (s.Idle test → cell.gate = none) ∧
      ∀ (i : Nat) (watched : Bool) (p : Phase), s.threads[i]? = some (.run test watched p) → p.Live →
        p.Holds test (lastGate test history) cell.gate := by
  induction reached generalizing cell with
  | fresh =>
    obtain ⟨⟨name, timeout⟩, -, rfl⟩ := List.mem_map.mp (List.mem_of_getElem? found)
    exact ⟨fun _ => rfl, fun _ _ _ seat => by cases seat⟩
  | @step history s next deed earlier step ih =>
    obtain ⟨old, there, rfl⟩ := step.found found
    obtain ⟨idle_held, run_held⟩ := ih there
    have alone (foreign : Foreign test ⟨s.world, deed⟩) {p : Phase}
        (held : p.Holds test (lastGate test history) old.gate) :
        p.Holds test (lastGate test (⟨s.world, deed⟩ :: history))
          (Moment.touch test ⟨s.world, deed⟩ old).gate := by
      rwa [foreign.lastGate, foreign.gate]
    refine ⟨fun idle => ?_, fun i watched p seat live => ?_⟩
    · by_cases own : ∃ i p, deed = .advance i test p
      · obtain ⟨i, p, rfl⟩ := own
        obtain ⟨watched, p', seat, moves, threads⟩ := step.advanced
        have place : i < s.threads.length := (List.getElem?_eq_some_iff.mp seat).1
        have now : .run test watched p' ∈ next.threads := by
          rw [threads]
          exact List.mem_set place _
        exact moves_ungated moves (idle watched p' now)
          (run_held i watched p seat (live_of_moved (Run.moves_complete moves)))
      · have foreign := step.foreign earlier fun i p same => own ⟨i, p, same⟩
        rw [foreign.gate]
        apply idle_held
        intro watched p member live
        obtain ⟨i, seat⟩ := List.getElem?_of_mem member
        obtain ⟨watched', seat'⟩ := step.goes_on seat fun i p same => own ⟨i, p, same⟩
        exact idle watched' p (List.mem_of_getElem? seat') live
    · cases step.became seat with
      | kept place apart =>
        exact alone (step.foreign_kept earlier place live apart) (run_held i _ p place live)
      | begun vacant did known idle =>
        exact alone (step.foreign earlier (by simp [did])) (p := .start _) (idle_held idle)
      | advanced place did moved =>
        subst did
        exact moves_gate (Run.moves_sound moved) there (run_held i _ _ place (live_of_moved moved))
      | heeded place did =>
        exact alone (step.foreign earlier (by simp [did])) (run_held i _ p place live)
      | rested place did =>
        exact alone (step.foreign earlier (by simp [did])) (run_held i _ p place live)

end Site
end TrialBench
