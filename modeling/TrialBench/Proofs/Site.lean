import TrialBench.Run.Drive
namespace TrialBench

-- Whoever works on a world: a worker with the steps it has left, or the run of a test.
-- A watched run looks at the shutdown signals while it is blocked.
inductive Thread where
  | worker (left : List Op)
  | run (test : Nat) (watched : Bool) (phase : Phase)

-- A world with all the threads at work on it. A thread that has come to its end stays
-- in its place and takes no more steps.
structure Site where
  world : World
  threads : List Thread

-- What is remembered of a step. The first four kinds are done by a thread.
inductive Deed where
  | work (thread : Nat) (op : Op)
  | advance (thread test : Nat) (phase : Phase)
  | heed (thread test : Nat) (event : ShutdownEvent)
  | rest (thread test : Nat)
  | hire
  | begin (test : Nat)
  | mark (test : Nat) (verdict : Mark)
  | retime (test : Nat) (timeout : Duration)
  | elapse (millis : Nat)
  | listen
  | tell

def Deed.thread? : Deed → Option Nat
  | .work thread _ | .advance thread _ _ | .heed thread _ _ | .rest thread _ => some thread
  | _ => none

structure Moment where
  world : World
  deed : Deed

def Phase.Live : Phase → Prop
  | .done _ => False
  | _ => True

namespace Site

-- Nobody runs a test that is idle, so that its owner may run it or set it up.
def Idle (s : Site) (test : Nat) : Prop :=
  ∀ watched p, .run test watched p ∈ s.threads → ¬ p.Live

-- What can happen next on a site. The order in which threads act is left open, and so
-- is how much time passes between two steps.
inductive Step : Site → Deed → Site → Prop where
  | spawn {s : Site} {owner : Nat} {action : Action} :
      Step s .hire ⟨s.world, s.threads ++ [.worker [.act owner action]]⟩
  | fire {s : Site} {timer : Timer} {w : World}
      (popped : s.world.popTimer s.world.clock = some (timer, w)) :
      Step s .hire ⟨w, s.threads ++ [.worker [.act timer.owner timer.action]]⟩
  | begin {s : Site} {test : Nat} {watched : Bool} {body : List BodyStep}
      (known : test < s.world.tests.length) (idle : s.Idle test) :
      Step s (.begin test) ⟨s.world, s.threads ++ [.run test watched (.start body)]⟩
  | retime {s : Site} {test : Nat} {timeout : Duration} (idle : s.Idle test) :
      Step s (.retime test timeout)
        ⟨s.world.onTest test fun cell => { cell with timeout }, s.threads⟩
  | mark {s : Site} {test : Nat} {verdict : Mark} :
      Step s (.mark test verdict) ⟨s.world.mark test verdict, s.threads⟩
  | tell {s : Site} {event : LogEvent} : Step s .tell ⟨s.world.log event, s.threads⟩
  | listen {s : Site} : Step s .listen ⟨{ s.world with signals := [] }, s.threads⟩
  | elapse {s : Site} {millis : Nat} :
      Step s (.elapse millis) ⟨{ s.world with clock := s.world.clock + millis }, s.threads⟩
  | work {s : Site} {i : Nat} {op : Op} {left : List Op}
      (seat : s.threads[i]? = some (.worker (op :: left))) :
      Step s (.work i op)
        ⟨(Op.step s.world op).1, s.threads.set i (.worker ((Op.step s.world op).2 ++ left))⟩
  | advance {s : Site} {i test : Nat} {watched : Bool} {p p' : Phase} {w : World}
      (seat : s.threads[i]? = some (.run test watched p))
      (turned : Run.turn s.world test watched p = .moved w p') :
      Step s (.advance i test p) ⟨w, s.threads.set i (.run test watched p')⟩
  | heed {s : Site} {i test : Nat} {watched : Bool} {p : Phase} {event : ShutdownEvent} {w : World}
      (seat : s.threads[i]? = some (.run test watched p))
      (turned : Run.turn s.world test watched p = .heeded event w) :
      Step s (.heed i test event) ⟨w, s.threads.set i (.run test false p)⟩
  | rest {s : Site} {i test deadline : Nat} {watched : Bool} {p : Phase}
      (seat : s.threads[i]? = some (.run test watched p))
      (turned : Run.turn s.world test watched p = .resting deadline) :
      Step s (.rest i test) s

-- Histories are read newest first. Every one of them begins with tests that never ran.
inductive Reached : List Moment → Site → Prop where
  | fresh {device : Device} {faults : List (Nat × ErrorChain)} {tests : List (String × Duration)} :
      Reached [] ⟨.fresh device faults (tests.map fun (name, timeout) => .fresh name timeout), []⟩
  | step {history : List Moment} {s next : Site} {deed : Deed}
      (earlier : Reached history s) (step : Step s deed next) :
      Reached (⟨s.world, deed⟩ :: history) next

variable {s next : Site} {deed : Deed} {history older newer : List Moment} {moment : Moment}
  {i : Nat} {thread : Thread}

theorem Reached.before (reached : Reached (newer ++ moment :: older) s) :
    ∃ found left, Reached older found ∧ Step found moment.deed left ∧
      found.world = moment.world ∧ Reached (moment :: older) left := by
  induction newer generalizing s with
  | nil =>
    cases reached with
    | step earlier step => exact ⟨_, _, earlier, step, rfl, earlier.step step⟩
  | cons latest newer ih =>
    cases reached with
    | step earlier step => exact ih earlier

inductive Became (s : Site) (deed : Deed) (world : World) (i : Nat) : Thread → Prop where
  | kept {thread : Thread} (seat : s.threads[i]? = some thread) (apart : deed.thread? ≠ some i) :
      Became s deed world i thread
  | hired {owner : Nat} {action : Action} (vacant : i = s.threads.length) (did : deed = .hire) :
      Became s deed world i (.worker [.act owner action])
  | begun {test : Nat} {watched : Bool} {body : List BodyStep} (vacant : i = s.threads.length)
      (did : deed = .begin test) (known : test < s.world.tests.length) (idle : s.Idle test)
      (same : world = s.world) :
      Became s deed world i (.run test watched (.start body))
  | worked {op : Op} {left : List Op} (seat : s.threads[i]? = some (.worker (op :: left)))
      (did : deed = .work i op) (made : world = (Op.step s.world op).1) :
      Became s deed world i (.worker ((Op.step s.world op).2 ++ left))
  | advanced {test : Nat} {watched : Bool} {p p' : Phase}
      (seat : s.threads[i]? = some (.run test watched p)) (did : deed = .advance i test p)
      (moved : Run.advance s.world test p = .moved world p') :
      Became s deed world i (.run test watched p')
  | heeded {test deadline : Nat} {p : Phase} {event : ShutdownEvent}
      (seat : s.threads[i]? = some (.run test true p)) (did : deed = .heed i test event)
      (blocked : Run.advance s.world test p = .blocked deadline)
      (taken : s.world.takeSignal test = some (event, world)) :
      Became s deed world i (.run test false p)
  | rested {test deadline : Nat} {watched : Bool} {p : Phase}
      (seat : s.threads[i]? = some (.run test watched p)) (did : deed = .rest i test)
      (blocked : Run.advance s.world test p = .blocked deadline) (same : world = s.world) :
      Became s deed world i (.run test watched p)

theorem seat_concat {threads : List Thread} {last : Thread}
    (seat : (threads ++ [last])[i]? = some thread) :
    threads[i]? = some thread ∨ i = threads.length ∧ thread = last := by
  rcases Nat.lt_trichotomy i threads.length with old | new | beyond
  · exact .inl (by rwa [List.getElem?_append_left old] at seat)
  · subst new
    rw [List.getElem?_concat_length] at seat
    exact .inr ⟨rfl, (Option.some.inj seat).symm⟩
  · rw [List.getElem?_eq_none (by simp; omega)] at seat
    cases seat

theorem seat_set {threads : List Thread} {j : Nat} {other : Thread}
    (seat : (threads.set j other)[i]? = some thread) :
    i = j ∧ thread = other ∨ i ≠ j ∧ threads[i]? = some thread := by
  rw [List.getElem?_set] at seat
  split at seat
  · rename_i same
    split at seat
    · exact .inl ⟨same.symm, (Option.some.inj seat).symm⟩
    · cases seat
  · rename_i differ
    exact .inr ⟨Ne.symm differ, seat⟩

theorem Step.became (step : Step s deed next) (seat : next.threads[i]? = some thread) :
    Became s deed next.world i thread := by
  cases step with
  | spawn =>
    rcases seat_concat seat with old | ⟨vacant, rfl⟩
    · exact .kept old (by simp [Deed.thread?])
    · exact .hired vacant rfl
  | fire popped =>
    rcases seat_concat seat with old | ⟨vacant, rfl⟩
    · exact .kept old (by simp [Deed.thread?])
    · exact .hired vacant rfl
  | begin known idle =>
    rcases seat_concat seat with old | ⟨vacant, rfl⟩
    · exact .kept old (by simp [Deed.thread?])
    · exact .begun vacant rfl known idle rfl
  | retime idle => exact .kept seat (by simp [Deed.thread?])
  | mark => exact .kept seat (by simp [Deed.thread?])
  | tell => exact .kept seat (by simp [Deed.thread?])
  | listen => exact .kept seat (by simp [Deed.thread?])
  | elapse => exact .kept seat (by simp [Deed.thread?])
  | work at_ =>
    rcases seat_set seat with ⟨rfl, rfl⟩ | ⟨apart, old⟩
    · exact .worked at_ rfl rfl
    · exact .kept old (by simpa [Deed.thread?] using Ne.symm apart)
  | advance at_ turned =>
    rcases seat_set seat with ⟨rfl, rfl⟩ | ⟨apart, old⟩
    · exact .advanced at_ rfl (Run.turn_moved.1 turned)
    · exact .kept old (by simpa [Deed.thread?] using Ne.symm apart)
  | heed at_ turned =>
    obtain ⟨rfl, ⟨deadline, blocked⟩, taken⟩ := Run.turn_heeded.1 turned
    rcases seat_set seat with ⟨rfl, rfl⟩ | ⟨apart, old⟩
    · exact .heeded at_ rfl blocked taken
    · exact .kept old (by simpa [Deed.thread?] using Ne.symm apart)
  | @rest j test deadline watched p at_ turned =>
    by_cases same : i = j
    · subst same
      obtain rfl := Option.some.inj (seat.symm.trans at_)
      exact .rested at_ rfl (Run.turn_resting.1 turned).1 rfl
    · exact .kept seat (by simpa [Deed.thread?] using Ne.symm same)

end Site
end TrialBench
