import TrialBench.Proofs.Chronicle
import TrialBench.Proofs.RunResult
namespace TrialBench

-- What a test is called, and how long its runs wait.
def World.settingOf (w : World) (test : Nat) : Option (String × Duration) :=
  (w.test? test).map fun cell => (cell.name, cell.timeout)

namespace Phase

def inBody : Phase → Bool
  | .body _ _ => true
  | _ => false

def ended? : Phase → Option WaitEnd
  | .ended how => some how
  | _ => none

end Phase

namespace Run
variable {w v : World} {test : Nat} {own : List (World × Phase)} {p p' : Phase} {name : String}

-- What a step of a run writes to the log.
def written (test : Nat) (step : World × Phase) : List LogEvent :=
  match advance step.1 test step.2 with
  | .moved v _ => v.logs.drop step.1.logs.length
  | _ => []

-- What a run has written, oldest first, less what was written by its body and by the handlers that the body called.
def lines (test : Nat) (own : List (World × Phase)) : List LogEvent :=
  (own.reverse.filter fun step => !step.2.inBody).flatMap (written test)

def waitEnds (own : List (World × Phase)) : List WaitEnd := own.filterMap (·.2.ended?)

-- The line about a wait that was not released.
def missedLines (name : String) : Option WaitEnd → List LogEvent
  | some (.timedOut waited) => [timedOutEvent name waited]
  | some .canceled => [canceledEvent name]
  | some .released | none => []

def unexpectedLines (name : String) (outcome : Outcome) : List LogEvent :=
  if outcome.isTerminal then [] else [unexpectedEvent name outcome]

-- How far a run has come with its lines. A wait that has ended is not told of before its failure is noted.
def Tells (name : String) (ending : Option WaitEnd) (lines : List LogEvent) : Phase → Prop
  | .noted how => ending = some how ∧ lines = []
  | .reading => lines = missedLines name ending
  | .done (.finished outcome) => lines = missedLines name ending ++ unexpectedLines name outcome
  | _ => ending = none ∧ lines = []

theorem Moves.logs (moves : Moves test w p v p') : v.logs = w.logs ++ written test (w, p) := by
  obtain ⟨lines, grown, -⟩ := moves.reticent
  have wrote : written test (w, p) = v.logs.drop w.logs.length := by
    rw [written, moves_complete moves]
  rw [wrote, grown, List.drop_left]

theorem Moves.wrote {lines : List LogEvent} (moves : Moves test w p v p') (grown : v.logs = w.logs ++ lines) :
    written test (w, p) = lines := by
  rw [moves.logs] at grown
  exact List.append_cancel_left grown

theorem Moves.quiet (moves : Moves test w p v p') (same : v.logs = w.logs) : written test (w, p) = [] :=
  moves.wrote (same.trans (List.append_nil _).symm)

theorem lines_cons : lines test ((w, p) :: own) = lines test own ++ if p.inBody then [] else written test (w, p) := by
  unfold lines
  rw [List.reverse_cons, List.filter_append, List.flatMap_append]
  cases inside : p.inBody <;> simp [inside]

theorem waitEnds_cons : waitEnds ((w, p) :: own) = p.ended?.toList ++ waitEnds own := by
  unfold waitEnds
  cases ended : p.ended? <;> simp [ended]

-- The lines of a run at each place where it can stand, by the one end that its wait may have come to.
theorem Course.tells (course : Course test own p) (named : ∀ step ∈ own, step.1.nameOf test = name) :
    ∃ ending : Option WaitEnd, waitEnds own = ending.toList ∧ Tells name ending (lines test own) p := by
  induction course with
  | restarted => exact ⟨none, rfl, rfl, rfl⟩
  | @moved own w v p p' earlier moves ih =>
    obtain ⟨here, before⟩ := List.forall_mem_cons.mp named
    obtain ⟨ending, ends, tells⟩ := ih before
    rw [lines_cons, waitEnds_cons, ends]
    have wrote {lines : List LogEvent} (grown : v.logs = w.logs ++ lines) : written test (w, p) = lines :=
      moves.wrote grown
    have quiet := moves.quiet
    cases moves with
    -- What the body writes is left out, and the other steps before the end of a wait write nothing.
    | op | mark | holds | fails | silent | gated | ignored | refused | observe | stop | act | exhausted =>
      refine ⟨ending, rfl, ?_⟩
      simpa [Tells, Phase.inBody] using tells
    | start | clear | absent | gaveUp | ungated | awaits | released | canceled | timedOut =>
      obtain ⟨rfl, told⟩ := tells
      exact ⟨none, rfl, by simp [Tells, Phase.inBody, told, quiet rfl, missedLines]⟩
    | passed =>
      obtain ⟨rfl, told⟩ := tells
      exact ⟨some .released, rfl, by simp [Tells, Phase.inBody, told, quiet rfl, missedLines]⟩
    | @failed how missed =>
      obtain ⟨rfl, told⟩ := tells
      exact ⟨some how, rfl, by simp [Tells, Phase.inBody, told, quiet rfl]⟩
    | toldTimeout | toldCancel =>
      obtain ⟨noted, told⟩ := tells
      exact ⟨ending, rfl, by simp [Tells, Phase.inBody, told, wrote rfl, here, noted, missedLines]⟩
    | toldNothing =>
      obtain ⟨noted, told⟩ := tells
      exact ⟨ending, rfl, by simp [Tells, Phase.inBody, told, quiet rfl, noted, missedLines]⟩
    | read =>
      refine ⟨ending, rfl, ?_⟩
      have last : written test (w, .reading) = unexpectedLines name (w.outcomeOf test) := by
        apply wrote
        unfold unexpectedLines
        split
        · exact (List.append_nil _).symm
        · rw [← here]
          rfl
      rw [last]
      simpa [Tells, Phase.inBody] using tells

-- What a wait that came to its end waited for at most.
def Waits (timeout : Duration) : Phase → Prop
  | .waiting _ _ waited | .ended (.timedOut waited) => waited = timeout
  | _ => True

theorem Course.timed {timeout : Duration} (course : Course test own p)
    (set : ∀ step ∈ own, ∀ cell, step.1.test? test = some cell → cell.timeout = timeout) :
    Waits timeout p ∧ ∀ waited, .timedOut waited ∈ waitEnds own → waited = timeout := by
  induction course with
  | restarted => exact ⟨trivial, nofun⟩
  | @moved own w v p p' earlier moves ih =>
    obtain ⟨here, before⟩ := List.forall_mem_cons.mp set
    obtain ⟨waits, ended⟩ := ih before
    constructor
    · cases moves with
      | awaits found => exact here _ found
      | timedOut => exact waits
      | _ => trivial
    · intro waited member
      rw [waitEnds_cons] at member
      rcases List.mem_append.mp member with now | old
      · cases p with
        | ended how =>
          obtain rfl := Option.some.inj (Option.mem_toList.mp now)
          exact waits
        | _ => cases now
      · exact ended waited old

end Run

namespace Site
variable {history : List Moment} {s next : Site} {deed : Deed} {test i : Nat} {watched : Bool} {p : Phase}
  {how : WaitEnd}

-- Nothing but a new timeout changes what a test is called or how long it waits.
theorem Step.setting (step : Step s deed next) (untimed : Moment.timeoutFor test ⟨s.world, deed⟩ = none) :
    next.world.settingOf test = s.world.settingOf test := by
  rw [World.settingOf, World.settingOf, step.effect.tests, Option.map_map]
  congr 1
  funext cell
  simp [Moment.touch_told, untimed]

theorem Step.untimed (step : Step s deed next) (busy : ¬ s.Idle test) :
    Moment.timeoutFor test ⟨s.world, deed⟩ = none := by
  cases step with
  | @retime named timeout idle =>
    have apart : named ≠ test := fun same => busy (same ▸ idle)
    simp [Moment.timeoutFor, apart]
  | _ => rfl

theorem Step.wrote (step : Step s (.advance i test p) next) :
    next.world.logs = s.world.logs ++ Run.written test (s.world, p) := by
  obtain ⟨watched, p', -, moves, -⟩ := step.advanced
  exact moves.logs

end Site
end TrialBench
