import TrialBench.Proofs.Moments
namespace TrialBench

def Moment.heeds? (m : Moment) : Option ShutdownEvent :=
  match m.deed with
  | .heed _ _ event => some event
  | _ => none

namespace Site

-- A stretch of a history in which only certain steps are taken, newest first.
inductive Path (Allowed : Site → Deed → Prop) (start : Site) : List Moment → Site → Prop where
  | here : Path Allowed start [] start
  | step {moments : List Moment} {s next : Site} {deed : Deed} (path : Path Allowed start moments s)
      (step : Step s deed next) (allowed : Allowed s deed) :
      Path Allowed start (⟨s.world, deed⟩ :: moments) next

-- Around a run that is left alone others act only as they were asked to before, and time
-- passes only while the run is blocked, and no further than to its deadline.
def Alone (i test : Nat) (s : Site) : Deed → Prop
  | .advance j own _ | .heed j own _ | .rest j own => j = i ∧ own = test
  | .work j _ => j ≠ i
  | .hire => True
  | .elapse millis => ∃ watched gate deadline waited,
      s.threads[i]? = some (.run test watched (.waiting gate deadline waited)) ∧
      Run.advance s.world test (.waiting gate deadline waited) = .blocked deadline ∧
      s.world.clock + millis ≤ deadline
  | _ => False

variable {Allowed : Site → Deed → Prop} {start s next : Site} {deed : Deed}
  {history first second : List Moment} {i test : Nat} {watched : Bool} {p : Phase}

theorem Path.reached (path : Path Allowed start first s) (reached : Reached history start) :
    Reached (first ++ history) s := by
  induction path with
  | here => exact reached
  | step path step allowed ih => exact ih.step step

theorem Path.trans (one : Path Allowed start first s) (two : Path Allowed s second next) :
    Path Allowed start (second ++ first) next := by
  induction two with
  | here => exact one
  | step path step allowed ih => exact ih.step step allowed

theorem Path.one (step : Step s deed next) (allowed : Allowed s deed) :
    Path Allowed s [⟨s.world, deed⟩] next := Path.here.step step allowed

theorem set_same {threads : List Thread} {thread : Thread} (seat : threads[i]? = some thread) :
    threads.set i thread = threads := by
  obtain ⟨place, rfl⟩ := List.getElem?_eq_some_iff.mp seat
  exact List.set_getElem_self place

-- Where a run stands after some steps of its own, and what is remembered of them.
def progress (i test : Nat) : Nat → World → Phase → List Moment × World × Phase
  | 0, w, p => ([], w, p)
  | steps + 1, w, p =>
    match Run.advance w test p with
    | .moved w' p' =>
      let (moments, reached) := progress i test steps w' p'
      (moments ++ [⟨w, .advance i test p⟩], reached)
    | _ => ([], w, p)

theorem progress_path (steps : Nat) (seat : s.threads[i]? = some (.run test watched p)) :
    Path (Alone i test) s (progress i test steps s.world p).1
      ⟨(progress i test steps s.world p).2.1,
        s.threads.set i (.run test watched (progress i test steps s.world p).2.2)⟩ := by
  induction steps generalizing s p with
  | zero =>
    unfold progress
    rw [set_same seat]
    exact .here
  | succ steps ih =>
    unfold progress
    split
    · rename_i w' p' moved
      have did := Step.advance seat (Run.turn_moved.mpr moved)
      have place : i < s.threads.length := (List.getElem?_eq_some_iff.mp seat).1
      have rest := ih (s := ⟨w', s.threads.set i (.run test watched p')⟩) (p := p') (by simp [place])
      rw [List.set_set] at rest
      exact (Path.one did ⟨rfl, rfl⟩).trans rest
    · rw [set_same seat]
      exact .here

theorem drain_path (w : World) (ops : List Op) {threads : List Thread} (free : ∀ s op, Allowed s (.work i op))
    (place : i < threads.length) :
    ∃ moments, Path Allowed ⟨w, threads.set i (.worker ops)⟩ moments ⟨Op.drain w ops, threads.set i (.worker [])⟩ ∧
      ∀ m ∈ moments, m.heeds? = none := by
  fun_induction Op.drain w ops with
  | case1 w => exact ⟨[], .here, fun m member => by cases member⟩
  | case2 w op rest ih =>
    obtain ⟨moments, path, silent⟩ := ih
    have seat : (threads.set i (.worker (op :: rest)))[i]? = some (.worker (op :: rest)) := by
      simp [place]
    have did := Step.work (s := ⟨w, threads.set i (.worker (op :: rest))⟩) seat
    rw [List.set_set] at did
    refine ⟨moments ++ [⟨w, .work i op⟩], (Path.one did (free _ _)).trans path, fun m member => ?_⟩
    rcases List.mem_append.mp member with later | now
    · exact silent m later
    · obtain rfl := List.mem_singleton.mp now
      rfl

theorem perform_path {owner : Nat} {action : Action} (hire : Allowed s .hire)
    (free : ∀ site op, Allowed site (.work s.threads.length op)) {w : World}
    (spawned : Step s .hire ⟨w, s.threads ++ [.worker [.act owner action]]⟩) :
    ∃ moments, Path Allowed s moments ⟨w.perform owner action, s.threads ++ [.worker []]⟩ ∧
      ∀ m ∈ moments, m.heeds? = none := by
  have place : s.threads.length < (s.threads ++ [Thread.worker [.act owner action]]).length := by simp
  obtain ⟨moments, path, silent⟩ := drain_path w [.act owner action] free place
  rw [List.set_append_right _ _ (Nat.le_refl _), List.set_append_right _ _ (Nat.le_refl _)] at path
  simp only [Nat.sub_self, List.set_cons_zero] at path
  refine ⟨moments ++ [⟨s.world, .hire⟩], (Path.one spawned hire).trans path, fun m member => ?_⟩
  rcases List.mem_append.mp member with later | now
  · exact silent m later
  · obtain rfl := List.mem_singleton.mp now
    rfl

theorem unwatched_event {w : World} (unwatched : watched = false) : (Run.drive w test watched p).event = none := by
  fun_induction Run.drive w test watched p with
  | case1 w watched p w' p' turned ih => exact ih unwatched
  | case2 => rfl
  | case3 w watched p event w' turned =>
    rw [(Run.turn_heeded.1 turned).1] at unwatched
    cases unwatched
  | case4 w watched p deadline turned timer w' popped ih => exact ih unwatched
  | case5 w watched p deadline turned popped ih => exact ih unwatched

theorem Step.elapse_to (threads : List Thread) {w : World} {clock : Nat} (forward : w.clock ≤ clock) :
    Step ⟨w, threads⟩ (.elapse (clock - w.clock)) ⟨{ w with clock }, threads⟩ := by
  have step := @Step.elapse ⟨w, threads⟩ (clock - w.clock)
  rwa [Nat.add_sub_cancel' forward] at step

-- While a run rests, the clock comes to the next timer first, and then the timer fires.
theorem fire_path {deadline : Nat} {timer : Timer} {w : World}
    (seat : s.threads[i]? = some (.run test watched p)) (turned : Run.turn s.world test watched p = .resting deadline)
    (popped : s.world.popTimer deadline = some (timer, w)) :
    ∃ moments, Path (Alone i test) s moments ⟨w.perform timer.owner timer.action, s.threads ++ [.worker []]⟩ ∧
      moments.findSome? Moment.heeds? = none := by
  obtain ⟨world, threads⟩ := s
  simp only at seat turned popped ⊢
  have place : i < threads.length := (List.getElem?_eq_some_iff.mp seat).1
  obtain ⟨blocked, quiet⟩ := Run.turn_resting.1 turned
  obtain ⟨early, gate, waited, rfl⟩ := Run.blocked_waiting blocked
  obtain ⟨others, found, due, rfl⟩ := popTimer_some popped
  have rest := Step.rest (s := ⟨world, threads⟩) seat turned
  have forward : world.clock ≤ max world.clock timer.due := Nat.le_max_left _ _
  have elapse := Step.elapse_to threads forward
  have fire : Step ⟨{ world with clock := max world.clock timer.due }, threads⟩ .hire
      ⟨{ world with agenda := others, clock := max world.clock timer.due },
        threads ++ [.worker [.act timer.owner timer.action]]⟩ := by
    apply Step.fire
    simp only [World.popTimer, found, Nat.le_max_right, if_true, Nat.max_assoc, Nat.max_self]
  have apart : threads.length ≠ i := Nat.ne_of_gt place
  obtain ⟨work, performed, silent⟩ : ∃ moments, Path (Alone i test) _ moments _ ∧ _ :=
    perform_path trivial (fun _ _ => apart) fire
  have opening : Path (Alone i test) _ _ _ := ((Path.one rest ⟨rfl, rfl⟩).step elapse
    ⟨watched, gate, deadline, waited, seat, blocked, by simp only; omega⟩).trans performed
  refine ⟨_, opening, ?_⟩
  rw [List.findSome?_append, List.findSome?_eq_none_iff.mpr silent]
  rfl

theorem lapse_path {deadline : Nat} (seat : s.threads[i]? = some (.run test watched p))
    (turned : Run.turn s.world test watched p = .resting deadline) :
    ∃ moments, Path (Alone i test) s moments ⟨{ s.world with clock := deadline }, s.threads⟩ ∧
      moments.findSome? Moment.heeds? = none := by
  obtain ⟨blocked, quiet⟩ := Run.turn_resting.1 turned
  obtain ⟨early, gate, waited, rfl⟩ := Run.blocked_waiting blocked
  have rest := Step.rest seat turned
  have elapse := Step.elapse_to s.threads (Nat.le_of_lt early)
  have opening : Path (Alone i test) _ _ _ := (Path.one rest ⟨rfl, rfl⟩).step elapse
    ⟨watched, gate, deadline, waited, seat, blocked, by omega⟩
  exact ⟨_, opening, rfl⟩

-- The run of a test that is left alone comes to its end, as the runner has it.
theorem drive_path (seat : s.threads[i]? = some (.run test watched p)) :
    ∃ moments threads watched', Path (Alone i test) s moments ⟨(Run.drive s.world test watched p).world, threads⟩ ∧
      threads[i]? = some (.run test watched' (.done (Run.drive s.world test watched p).result)) ∧
      moments.findSome? Moment.heeds? = (Run.drive s.world test watched p).event := by
  obtain ⟨w, threads⟩ := s
  simp only at seat ⊢
  have place : i < threads.length := (List.getElem?_eq_some_iff.mp seat).1
  fun_induction Run.drive w test watched p generalizing threads with
  | case1 w watched p w' p' turned ih =>
    have did := Step.advance (s := ⟨w, threads⟩) seat turned
    obtain ⟨moments, later, watched', path, ended, event⟩ :=
      ih (threads.set i (.run test watched p')) (by simp [place]) (by simpa using place)
    refine ⟨moments ++ [⟨w, .advance i test p⟩], later, watched', (Path.one did ⟨rfl, rfl⟩).trans path, ended, ?_⟩
    rw [List.findSome?_append, event]
    simp [Moment.heeds?]
  | case2 w watched p result turned =>
    obtain rfl := Run.finished_done (Run.turn_finished.1 turned)
    exact ⟨[], threads, watched, .here, seat, rfl⟩
  | case3 w watched p event w' turned finished ih =>
    have did := Step.heed (s := ⟨w, threads⟩) seat turned
    obtain ⟨moments, later, watched', path, ended, none_⟩ :=
      ih (threads.set i (.run test false p)) (by simp [place]) (by simpa using place)
    refine ⟨moments ++ [⟨w, .heed i test event⟩], later, watched', (Path.one did ⟨rfl, rfl⟩).trans path, ended, ?_⟩
    rw [List.findSome?_append, none_, unwatched_event rfl]
    rfl
  | case4 w watched p deadline turned timer w' popped ih =>
    obtain ⟨before, opening, silent⟩ := fire_path (s := ⟨w, threads⟩) seat turned popped
    obtain ⟨moments, later, watched', path, ended, event⟩ :=
      ih (threads ++ [.worker []]) (by rw [List.getElem?_append_left place]; exact seat) (by simp; omega)
    refine ⟨_, later, watched', opening.trans path, ended, ?_⟩
    rw [List.findSome?_append, event, silent]
    exact Option.or_none
  | case5 w watched p deadline turned popped ih =>
    obtain ⟨before, opening, silent⟩ := lapse_path (s := ⟨w, threads⟩) seat turned
    obtain ⟨moments, later, watched', path, ended, event⟩ := ih threads seat place
    refine ⟨_, later, watched', opening.trans path, ended, ?_⟩
    rw [List.findSome?_append, event, silent]
    exact Option.or_none

end Site
end TrialBench
