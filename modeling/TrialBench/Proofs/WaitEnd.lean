import Mathlib.Data.List.TakeWhile
import TrialBench.Proofs.RunResult
namespace TrialBench

def Phase.Late : Phase → Prop
  | .ended _ | .noted _ | .reading | .done _ => True
  | _ => False

namespace Run
variable {w v : World} {test gate deadline : Nat} {waited : Duration} {own : List (World × Phase)} {p : Phase}

theorem Moves.polled (moves : Moves test w (.waiting gate deadline waited) v p) :
    (w.isOpen gate = true ∧ p = .ended .released ∧ v = w.useGate gate) ∨
    (w.isOpen gate = false ∧ w.pendingFor test = true ∧ p = .ended .canceled ∧ v = w.clearCancel test) ∨
    (w.isOpen gate = false ∧ w.pendingFor test = false ∧ deadline ≤ w.clock ∧
      p = .ended (.timedOut waited) ∧ v = w) := by
  cases moves with
  | released opened => exact .inl ⟨opened, rfl, rfl⟩
  | canceled closed pending => exact .inr (.inl ⟨closed, pending, rfl, rfl⟩)
  | timedOut closed quiet late => exact .inr (.inr ⟨closed, quiet, late, rfl, rfl⟩)

theorem Moves.cleared {body : List BodyStep} (moves : Moves test w (.clear body) v p) : v = w.clearCancel test := by
  cases moves with
  | clear => rfl

theorem Moves.late {p' : Phase} (moves : Moves test w p v p') (late : p.Late) : p'.Late := by
  cases moves with
  | passed | failed | toldTimeout | toldCancel | toldNothing | read => trivial
  | _ => exact late.elim

theorem Moves.taken {cell : TestCell} (moves : Moves test w (.returned none) v p)
    (found : w.test? test = some cell) :
    p = match cell.gate with
      | none => .reading
      | some gate => .waiting gate (w.clock + waitMillis cell.timeout) cell.timeout := by
  cases moves with
  | absent lost =>
    rw [found] at lost
    cases lost
  | ungated found' noGate =>
    obtain rfl := Option.some.inj (found.symm.trans found')
    rw [noGate]
  | awaits found' held =>
    obtain rfl := Option.some.inj (found.symm.trans found')
    rw [held]

-- A wait lasts its timeout, in whole milliseconds rounded up, and one at least.
theorem waitMillis_exact {timeout : Duration} (short : timeout.seconds < Nat.pow 2 63) :
    timeout.nanos ≤ (Duration.ofMillis (waitMillis timeout)).nanos ∧
      (waitMillis timeout = 1 ∨ (Duration.ofMillis (waitMillis timeout - 1)).nanos < timeout.nanos) := by
  unfold waitMillis
  rw [if_neg (Nat.not_le.mpr short)]
  simp only [Duration.ofMillis, Duration.millisUp]
  omega

theorem Course.cleared (course : Course test own p) (later : ∀ body, p ≠ .clear body) :
    ∃ w body, (w, .clear body) ∈ own := by
  induction course with
  | restarted => exact absurd rfl (later _)
  | @moved own w v p p' earlier moves ih =>
    by_cases first : ∃ body, p = .clear body
    · obtain ⟨body, rfl⟩ := first
      exact ⟨w, body, List.mem_cons_self⟩
    · obtain ⟨w, body, member⟩ := ih fun body same => first ⟨body, same⟩
      exact ⟨w, body, List.mem_cons_of_mem _ member⟩

end Run

theorem World.pendingFor_clearCancel {w : World} {test : Nat} : (w.clearCancel test).pendingFor test = false := by
  cases found : w.test? test <;> simp [pendingFor, clearCancel, test?_onTest, found]

section
variable {α : Type} {keep hold : α → Bool} {items : List α}

theorem takeWhile_within (ends : ∃ item ∈ items.takeWhile hold, keep item = false) {item : α}
    (member : item ∈ items.takeWhile keep) : item ∈ items.takeWhile hold := by
  induction items with
  | nil => cases member
  | cons first rest ih =>
    obtain ⟨last, place, stops⟩ := ends
    rw [List.takeWhile_cons] at place member ⊢
    split at place
    · split at member
      · rename_i held kept
        rw [if_pos held]
        rcases List.mem_cons.mp place with rfl | inside
        · rw [kept] at stops
          cases stops
        · rcases List.mem_cons.mp member with rfl | there
          · exact List.mem_cons_self
          · exact List.mem_cons_of_mem _ (ih ⟨last, inside, stops⟩ there)
      · cases member
    · cases place

theorem takeWhile_same (weaker : ∀ item, hold item = true → keep item = true)
    (within : ∀ item ∈ items.takeWhile keep, hold item = true) :
    items.takeWhile hold = items.takeWhile keep := by
  induction items with
  | nil => rfl
  | cons first rest ih =>
    rw [List.takeWhile_cons, List.takeWhile_cons]
    by_cases kept : keep first = true
    · rw [List.takeWhile_cons, if_pos kept] at within
      have held : hold first = true := within first List.mem_cons_self
      rw [if_pos kept, if_pos held, ih fun item member => within item (List.mem_cons_of_mem _ member)]
    · have dropped : ¬ hold first = true := fun held => kept (weaker first held)
      rw [if_neg kept, if_neg dropped]

end

namespace Site
variable {history older newer moments : List Moment} {s start next : Site} {deed : Deed} {m : Moment}
  {test other gate deadline i : Nat} {watched : Bool} {waited : Duration} {p : Phase}

-- The part of a history after the latest run of a test discarded old cancel requests.
def sinceClear (test : Nat) (history : List Moment) : List Moment :=
  history.takeWhile fun m => !m.clears test

-- What decides a wait before its deadline: the release of its gate, or a cancel request
-- that was made in its run.
def Decides (test gate : Nat) (history : List Moment) (m : Moment) : Prop :=
  (m ∈ history ∧ m.Releases gate) ∨ (m ∈ sinceClear test history ∧ m.asksCancel test = true)

theorem own_member (did : m.deed = .advance i test p) (inside : m ∈ since test history) :
    (m.world, p) ∈ ownSteps test history :=
  ownSteps_member.mpr ⟨m, inside, by simp [Moment.own?, did]⟩

theorem waiting_last (reached : Reached history s)
    (seat : s.threads[i]? = some (.run test watched (.waiting gate deadline waited))) :
    lastGate test history = some gate := by
  obtain ⟨cell, found⟩ := World.test?_of_known (reached_known reached seat)
  exact ((reached_gate reached found).2 i watched _ seat trivial).2

theorem waiting_cleared (reached : Reached history s)
    (seat : s.threads[i]? = some (.run test watched (.waiting gate deadline waited))) :
    ∃ m ∈ since test history, (!m.clears test) = false := by
  obtain ⟨course, -⟩ := reached_course reached seat trivial (by simp)
  obtain ⟨w, body, member⟩ := course.cleared (by simp)
  obtain ⟨⟨w, deed⟩, inside, did⟩ := ownSteps_member.mp member
  refine ⟨_, inside, ?_⟩
  cases deed with
  | advance thread own p =>
    simp only [Moment.own?] at did
    split at did <;> cases did
    simp [Moment.clears, *]
  | _ => cases did

theorem waiting_requested (reached : Reached history s)
    (seat : s.threads[i]? = some (.run test watched (.waiting gate deadline waited))) :
    s.world.pendingFor test = true ↔ ∃ m ∈ sinceClear test history, m.asksCancel test = true := by
  obtain ⟨cell, found⟩ := World.test?_of_known (reached_known reached seat)
  obtain ⟨course, -⟩ := reached_course reached seat trivial (by simp)
  have discarded := waiting_cleared reached seat
  have unquiet : ∀ m ∈ sinceClear test history, (!m.quiets test) = true := by
    rintro ⟨w, deed⟩ member
    have going := List.mem_takeWhile_imp member
    have inside := takeWhile_within discarded member
    cases quiet : Moment.quiets test ⟨w, deed⟩ with
    | false => rfl
    | true =>
      cases deed with
      | advance thread own p =>
        cases p with
        | clear body =>
          have cleared : Moment.clears test ⟨w, .advance thread own (.clear body)⟩ = true := quiet
          rw [cleared] at going
          cases going
        | waiting awaited limit span =>
          simp only [Moment.quiets, Bool.and_eq_true, decide_eq_true_eq] at quiet
          obtain ⟨⟨rfl, -⟩, -⟩ := quiet
          obtain ⟨w', cell', before, steps, -, -, -, -, working⟩ := course.waiting
          have own := own_member rfl inside
          rw [steps] at own
          rcases List.mem_cons.mp own with same | early
          · cases same
          · exact (working _ early).elim
        | _ => cases quiet
      | _ => cases quiet
  have weaker (m : Moment) (unquiet : (!m.quiets test) = true) : (!m.clears test) = true := by
    obtain ⟨w, deed⟩ := m
    cases deed with
    | advance thread own p =>
      cases p with
      | clear body => exact unquiet
      | _ => rfl
    | _ => rfl
  have pending : s.world.pendingFor test = cell.cancelPending := by rw [World.pendingFor, found]; rfl
  rw [pending, reached_pending reached found, Requested, takeWhile_same weaker unquiet]
  rfl

theorem waiting_decided (reached : Reached history s)
    (seat : s.threads[i]? = some (.run test watched (.waiting gate deadline waited))) :
    (∃ m, Decides test gate history m) ↔ s.world.isOpen gate = true ∨ s.world.pendingFor test = true := by
  rw [waiting_open reached seat, waiting_requested reached seat]
  constructor
  · rintro ⟨m, release | request⟩
    · exact .inl ⟨m, release⟩
    · exact .inr ⟨m, request⟩
  · rintro (⟨m, release⟩ | ⟨m, request⟩)
    · exact ⟨m, .inl release⟩
    · exact ⟨m, .inr request⟩

theorem waiting_blocked (reached : Reached history s)
    (seat : s.threads[i]? = some (.run test watched (.waiting gate deadline waited))) :
    Run.advance s.world test (.waiting gate deadline waited) = .blocked deadline ↔
      (¬ ∃ m, Decides test gate history m) ∧ s.world.clock < deadline := by
  rw [Run.poll_blocked, waiting_decided reached seat]
  simp [and_assoc]

-- How a wait ended, by what had happened when it was polled.
structure Polled (test gate deadline : Nat) (waited : Duration) (history : List Moment) (s next : Site)
    (how : WaitEnd) : Prop where
  released : how = .released ↔ ∃ m ∈ history, m.Releases gate
  canceled : how = .canceled ↔ (¬ ∃ m ∈ history, m.Releases gate) ∧
    ∃ m ∈ sinceClear test history, m.asksCancel test = true
  timedOut : how = .timedOut waited ↔ ¬ ∃ m, Decides test gate history m
  late : how = .timedOut waited → deadline ≤ s.world.clock
  flag : next.world.pendingFor test = if how = .canceled then false else s.world.pendingFor test

theorem waiting_polled (reached : Reached history s)
    (seat : s.threads[i]? = some (.run test watched (.waiting gate deadline waited)))
    (step : Step s (.advance i test (.waiting gate deadline waited)) next) :
    ∃ how, next.threads[i]? = some (.run test watched (.ended how)) ∧
      Polled test gate deadline waited history s next how := by
  obtain ⟨p', taken, moves⟩ := step.goes seat
  have decided := waiting_decided reached seat
  have opened := waiting_open reached seat
  have requested := waiting_requested reached seat
  rcases moves.polled with ⟨free, rfl, after⟩ | ⟨shut, pending, rfl, after⟩ | ⟨shut, quiet, late, rfl, after⟩
  · refine ⟨_, taken, ?_, ?_, ?_, ?_, ?_⟩
    · simp [← opened, free]
    · simp [← opened, free]
    · simp [decided, free]
    · rintro same; cases same
    · rw [after]; rfl
  · refine ⟨_, taken, ?_, ?_, ?_, ?_, ?_⟩
    · simp [← opened, shut]
    · simp [← opened, ← requested, shut, pending]
    · simp [decided, pending]
    · rintro same; cases same
    · rw [after, World.pendingFor_clearCancel]; rfl
  · refine ⟨_, taken, ?_, ?_, ?_, fun _ => late, ?_⟩
    · simp [← opened, shut]
    · simp [← requested, quiet]
    · simp [decided, shut, quiet]
    · rw [after]; rfl

theorem returned_taken (reached : Reached history s)
    (seat : s.threads[i]? = some (.run test watched (.returned none)))
    (step : Step s (.advance i test (.returned none)) next) :
    ∃ cell, s.world.test? test = some cell ∧ next.threads[i]? = some (.run test watched
      (match lastGate test history with
      | none => .reading
      | some gate => .waiting gate (s.world.clock + Run.waitMillis cell.timeout) cell.timeout)) := by
  obtain ⟨p', taken, moves⟩ := step.goes seat
  obtain ⟨cell, found⟩ := World.test?_of_known (reached_known reached seat)
  have held : cell.gate = lastGate test history := (reached_gate reached found).2 i watched _ seat trivial
  refine ⟨cell, found, ?_⟩
  rw [taken, ← held, moves.taken found]

theorem lastGate_prepare {w : World} {enable ignoreError : Bool} {rest : List BodyStep} :
    lastGate test (⟨w, .advance i test (.body [] (.prepare enable ignoreError :: rest))⟩ :: history) =
      match enable, w.newChannel.2 with
      | true, .ok _ => some w.gates.length
      | _, _ => lastGate test history := by
  cases enable with
  | false => exact lastGate_cons rfl rfl
  | true =>
    cases made : w.newChannel.2 with
    | ok channel => exact lastGate_made rfl (by simp [Moment.makes?, made])
    | error fault => exact lastGate_cons rfl (by simp [Moment.makes?, made])

theorem Decides.cons {latest : Moment} (decides : Decides test gate (latest :: history) m) :
    m = latest ∨ Decides test gate history m := by
  rcases decides with ⟨member, release⟩ | ⟨member, request⟩
  · rcases List.mem_cons.mp member with same | old
    · exact .inl same
    · exact .inr (.inl ⟨old, release⟩)
  · rw [sinceClear, List.takeWhile_cons] at member
    split at member
    · rcases List.mem_cons.mp member with same | old
      · exact .inl same
      · exact .inr (.inr ⟨old, request⟩)
    · cases member

-- A run is polled before time goes on: none passes once its wait can end, and none
-- beyond the deadline.
def Prompt (i : Nat) (s : Site) (deed : Deed) : Prop :=
  ∀ test watched gate deadline waited millis,
    s.threads[i]? = some (.run test watched (.waiting gate deadline waited)) → deed = .elapse millis →
    Run.advance s.world test (.waiting gate deadline waited) = .blocked deadline ∧
      s.world.clock + millis ≤ deadline

theorem alone_prompt (alone : Alone i test s deed) : Prompt i s deed := by
  rintro own watched gate deadline waited millis seat rfl
  obtain ⟨watched', gate', deadline', waited', there, blocked, bound⟩ := alone
  cases seat.symm.trans there
  exact ⟨blocked, bound⟩

theorem Step.clock_kept (step : Step s deed next) (still : ∀ millis, deed ≠ .elapse millis) :
    next.world.clock = s.world.clock := by
  rw [step.effect.clock]
  cases deed with
  | elapse millis => exact absurd rfl (still millis)
  | _ => rfl

-- From the start of a wait on, as long as it lasts, everything that decides it happened
-- no earlier than now, or before the wait began.
theorem Path.timely (path : Path (Prompt i) start moments s) (reached : Reached history start)
    (seat : start.threads[i]? = some (.run test watched (.waiting gate deadline waited)))
    (early : start.world.clock ≤ deadline) :
    (∃ watched, s.threads[i]? = some (.run test watched (.waiting gate deadline waited)) ∧
      s.world.clock ≤ deadline ∧ ∀ m, Decides test gate (moments ++ history) m →
        s.world.clock ≤ max start.world.clock m.world.clock) ∨
    ∃ watched p, s.threads[i]? = some (.run test watched p) ∧ p.Late := by
  induction path with
  | here => exact .inl ⟨watched, seat, early, fun m _ => Nat.le_max_left _ _⟩
  | @step moments s next deed path step prompt ih =>
    have before := path.reached reached
    rcases ih with ⟨watched, there, bound, timely⟩ | ⟨watched, p, there, late⟩
    · obtain ⟨watched', p', seat', -, rfl | ⟨-, moves⟩⟩ := step.run_stays there
      · refine .inl ⟨watched', seat', ?_⟩
        by_cases passes : ∃ millis, deed = .elapse millis
        · obtain ⟨millis, rfl⟩ := passes
          obtain ⟨blocked, limit⟩ := prompt _ _ _ _ _ _ there rfl
          have undecided := ((waiting_blocked before there).mp blocked).1
          have clock : next.world.clock = s.world.clock + millis := step.effect.clock
          refine ⟨by omega, fun m decides => ?_⟩
          rcases Decides.cons decides with rfl | old
          · rcases decides with ⟨-, _, _, release⟩ | ⟨-, request⟩
            · cases release
            · cases request
          · exact absurd ⟨m, old⟩ undecided
        · have clock := step.clock_kept fun millis same => passes ⟨millis, same⟩
          rw [clock]
          refine ⟨bound, fun m decides => ?_⟩
          rcases Decides.cons decides with rfl | old
          · exact Nat.le_max_right _ _
          · exact timely m old
      · refine .inr ⟨watched', p', seat', ?_⟩
        rcases moves.polled with ⟨-, rfl, -⟩ | ⟨-, -, rfl, -⟩ | ⟨-, -, -, rfl, -⟩ <;> trivial
    · obtain ⟨watched', p', seat', -, rfl | ⟨-, moves⟩⟩ := step.run_stays there
      · exact .inr ⟨watched', _, seat', late⟩
      · exact .inr ⟨watched', p', seat', moves.late late⟩

-- Only the handler of this run's newest gate opens it. Calls for earlier gates, or from
-- earlier runs, have nothing to do with it.
theorem waiting_released (reached : Reached history s)
    (seat : s.threads[i]? = some (.run test watched (.waiting gate deadline waited)))
    (member : m ∈ history) (release : m.Releases gate) :
    m ∈ since test history ∧ ∃ thread message call, call ∈ since test history ∧
      call.op? = some (thread, .call (.verdict test gate) message) := by
  have last := waiting_last reached seat
  obtain ⟨thread, other, did⟩ := release
  have speaks : m.ref? = some (other, gate) := Moment.ref_of_op did
  obtain ⟨inside, rfl⟩ := ref_in_run reached last member speaks
  obtain ⟨newer, older, rfl⟩ := List.append_of_mem member
  obtain ⟨message, late, call, early, rfl, called, -⟩ := released_handled reached did
  refine ⟨inside, thread, message, call, ?_, called⟩
  have there : call ∈ newer ++ m :: (late ++ call :: early) := by simp
  exact (ref_in_run reached last there (Moment.ref_of_op called)).1

-- A call of the handler of a gate has run, whatever the message: the step is the last of those
-- that the message asks for.
def Completes (test gate : Nat) (history : List Moment) (m : Moment) : Prop :=
  ∃ thread message op newer between call older, history = newer ++ m :: (between ++ call :: older) ∧
    call.op? = some (thread, .call (.verdict test gate) message) ∧ m.op? = some (thread, op) ∧
    (opsBy thread between).length + 1 = (Op.serving test gate message.id).length

theorem completes_release (reached : Reached history s) (completes : Completes test gate history m) :
    m ∈ history ∧ m.Releases gate := by
  obtain ⟨thread, message, op, newer, between, call, older, rfl, called, did, count⟩ := completes
  obtain ⟨-, left, -, -, -, now⟩ := reached.before
  rw [← List.cons_append] at now
  obtain ⟨seat, later, -, steps⟩ := call_served now called
  rw [opsBy_cons did, List.reverse_cons] at steps
  have whole := List.append_inj_left steps (by simpa using count)
  have last := (List.append_inj' whole rfl).2
  obtain rfl : op = .release test gate := (List.cons.inj last).1
  exact ⟨List.mem_append_right _ List.mem_cons_self, thread, test, did⟩

theorem release_completes (reached : Reached (newer ++ m :: older) s)
    (release : m.op? = some (i, .release test gate)) : Completes test gate (newer ++ m :: older) m := by
  have answered := reached_lawful (i := i) reached
  rw [opsBy_append, opsBy_cons release] at answered
  obtain ⟨message, noted, before, split, steps⟩ := answered.suffix.released
  obtain ⟨between, call, early, rfl, doneBy, called, -⟩ := opsBy_split split
  exact ⟨i, message, _, newer, between, call, early, rfl, called, release, by simp [doneBy, steps]⟩

theorem waiting_completes (reached : Reached history s)
    (seat : s.threads[i]? = some (.run test watched (.waiting gate deadline waited))) :
    Completes test gate history m ↔ m ∈ history ∧ m.Releases gate := by
  constructor
  · exact completes_release reached
  · rintro ⟨member, thread, other, did⟩
    obtain ⟨-, rfl⟩ := ref_in_run reached (waiting_last reached seat) member (Moment.ref_of_op did)
    obtain ⟨newer, older, rfl⟩ := List.append_of_mem member
    exact release_completes reached did

theorem release_wakes (reached : Reached history s)
    (seat : s.threads[i]? = some (.run test watched (.waiting gate deadline waited)))
    (member : m ∈ history) (release : m.Releases gate) :
    Run.advance s.world test (.waiting gate deadline waited) = .moved (s.world.useGate gate) (.ended .released) := by
  have opened := (waiting_open reached seat).mpr ⟨m, member, release⟩
  simp [Run.advance, Run.poll, opened]

-- What a run makes of its gates, its cancel requests and its deadline. A thread that called the
-- handler of a gate has the steps of the call done or still before it; the last one opens the gate.
structure Awaits (i test : Nat) (watched : Bool) (history : List Moment) (s : Site) (p : Phase) : Prop where
  discards : ∀ body, p = .clear body → ∀ next, Step s (.advance i test p) next →
    next.world.pendingFor test = false
  prepares : ∀ enable ignoreError rest, p = .body [] (.prepare enable ignoreError :: rest) →
    lastGate test (⟨s.world, .advance i test p⟩ :: history) =
      match enable, s.world.newChannel.2 with
      | true, .ok _ => some s.world.gates.length
      | _, _ => lastGate test history
  takes : p = .returned none → ∀ next, Step s (.advance i test p) next →
    ∃ cell, s.world.test? test = some cell ∧ next.threads[i]? = some (.run test watched
      (match lastGate test history with
      | none => .reading
      | some gate => .waiting gate (s.world.clock + Run.waitMillis cell.timeout) cell.timeout))
  blocked : ∀ gate deadline waited, p = .waiting gate deadline waited →
    (Run.advance s.world test p = .blocked deadline ↔
      (¬ ∃ m, Decides test gate history m) ∧ s.world.clock < deadline)
  ends : ∀ gate deadline waited, p = .waiting gate deadline waited →
    ∀ next, Step s (.advance i test p) next → ∃ how, next.threads[i]? = some (.run test watched (.ended how)) ∧
      Polled test gate deadline waited history s next how
  released : ∀ gate deadline waited, p = .waiting gate deadline waited →
    ∀ m ∈ history, m.Releases gate → m ∈ since test history ∧
      ∃ thread message call, call ∈ since test history ∧
        call.op? = some (thread, .call (.verdict test gate) message)
  called : ∀ newer call older thread gate message, history = newer ++ call :: older →
    call.op? = some (thread, .call (.verdict test gate) message) → ∃ seat later, s.threads[thread]? = some seat ∧
      (opsBy thread newer).reverse ++ seat.ops = Op.serving test gate message.id ++ later
  completes : ∀ gate deadline waited, p = .waiting gate deadline waited →
    ∀ m, Completes test gate history m ↔ m ∈ history ∧ m.Releases gate
  opened : ∀ gate deadline waited, p = .waiting gate deadline waited → ∀ m, Completes test gate history m →
    Run.advance s.world test p = .moved (s.world.useGate gate) (.ended .released)
  lasts : ∀ timeout : Duration, timeout.seconds < Nat.pow 2 63 →
    timeout.nanos ≤ (Duration.ofMillis (Run.waitMillis timeout)).nanos ∧
      (Run.waitMillis timeout = 1 ∨ (Duration.ofMillis (Run.waitMillis timeout - 1)).nanos < timeout.nanos)
  timely : p = .returned none → ∀ begun moments later gate deadline waited watched' next,
    Step s (.advance i test p) begun → Path (Prompt i) begun moments later →
    later.threads[i]? = some (.run test watched' (.waiting gate deadline waited)) →
    Step later (.advance i test (.waiting gate deadline waited)) next →
      (∀ m, Decides test gate (moments ++ ⟨s.world, .advance i test p⟩ :: history) m →
        later.world.clock = max s.world.clock m.world.clock) ∧
      ((¬ ∃ m, Decides test gate (moments ++ ⟨s.world, .advance i test p⟩ :: history) m) →
        later.world.clock = deadline)
  finite : ∃ moments threads watched', Path (Prompt i) s moments ⟨(Run.drive s.world test watched p).world, threads⟩ ∧
    threads[i]? = some (.run test watched' (.done (Run.drive s.world test watched p).result))

theorem Path.late {Allowed : Site → Deed → Prop} (path : Path Allowed start moments s)
    (seat : start.threads[i]? = some (.run test watched p)) (late : p.Late) :
    ∃ watched p, s.threads[i]? = some (.run test watched p) ∧ p.Late := by
  induction path with
  | here => exact ⟨watched, p, seat, late⟩
  | step path step allowed ih =>
    obtain ⟨watched, p, there, late⟩ := ih
    obtain ⟨watched', p', seat', -, rfl | ⟨-, moves⟩⟩ := step.run_stays there
    · exact ⟨watched', _, seat', late⟩
    · exact ⟨watched', p', seat', moves.late late⟩

theorem Path.mono {Allowed Wider : Site → Deed → Prop} (path : Path Allowed start moments s)
    (wider : ∀ s deed, Allowed s deed → Wider s deed) : Path Wider start moments s := by
  induction path with
  | here => exact .here
  | step path step allowed ih => exact ih.step step (wider _ _ allowed)

theorem decides_clock (reached : Reached history s) (decides : Decides test gate history m) :
    m.world.clock ≤ s.world.clock := by
  rcases decides with ⟨member, -⟩ | ⟨member, -⟩
  · exact reached_clock reached member
  · exact reached_clock reached ((List.takeWhile_prefix _).subset member)

theorem wait_timely (reached : Reached history s) (seat : s.threads[i]? = some (.run test watched (.returned none)))
    {begun later : Site} {watched' : Bool} (step : Step s (.advance i test (.returned none)) begun)
    (path : Path (Prompt i) begun moments later)
    (waits : later.threads[i]? = some (.run test watched' (.waiting gate deadline waited)))
    (ends : Step later (.advance i test (.waiting gate deadline waited)) next) :
    (∀ m, Decides test gate (moments ++ ⟨s.world, .advance i test (.returned none)⟩ :: history) m →
      later.world.clock = max s.world.clock m.world.clock) ∧
    ((¬ ∃ m, Decides test gate (moments ++ ⟨s.world, .advance i test (.returned none)⟩ :: history) m) →
      later.world.clock = deadline) := by
  have whole := path.reached (reached.step step)
  have clock := step.clock_kept fun millis same => by cases same
  have since_start : s.world.clock ≤ later.world.clock :=
    reached_clock whole (m := ⟨s.world, _⟩) (List.mem_append_right _ List.mem_cons_self)
  obtain ⟨cell, found, place⟩ := returned_taken reached seat step
  cases newest : lastGate test history with
  | none =>
    rw [newest] at place
    obtain ⟨_, p, there, late⟩ := path.late place trivial
    cases waits.symm.trans there
    exact late.elim
  | some first =>
    rw [newest] at place
    have early : begun.world.clock ≤ s.world.clock + Run.waitMillis cell.timeout := by omega
    rcases path.timely (reached.step step) place early with ⟨_, there, bound, timely⟩ | ⟨_, p, there, late⟩
    · cases waits.symm.trans there
      refine ⟨fun m decides => ?_, fun undecided => ?_⟩
      · have no_later := timely m decides
        have no_earlier := decides_clock whole decides
        omega
      · obtain ⟨how, -, polled⟩ := waiting_polled whole waits ends
        have reachedEnd := polled.late (polled.timedOut.mpr undecided)
        omega
    · cases waits.symm.trans there
      exact late.elim

-- Which gate is waited for, what ends the wait, and when.
theorem wait_end (reached : Reached history s) (seat : s.threads[i]? = some (.run test watched p)) :
    Awaits i test watched history s p := by
  refine ⟨?_, ?_, ?_, ?_, ?_, ?_, ?_, ?_, ?_, fun timeout => Run.waitMillis_exact, ?_, ?_⟩
  · rintro body rfl next step
    obtain ⟨watched', p', seat', moves, -⟩ := step.advanced
    rw [moves.cleared]
    exact World.pendingFor_clearCancel
  · rintro enable ignoreError rest rfl
    exact lastGate_prepare
  · rintro rfl next step
    exact returned_taken reached seat step
  · rintro gate deadline waited rfl
    exact waiting_blocked reached seat
  · rintro gate deadline waited rfl next step
    exact waiting_polled reached seat step
  · rintro gate deadline waited rfl m member release
    exact waiting_released reached seat member release
  · rintro newer call older thread gate message rfl called
    exact call_served reached called
  · rintro gate deadline waited rfl m
    exact waiting_completes reached seat
  · rintro gate deadline waited rfl m completes
    obtain ⟨member, release⟩ := completes_release reached completes
    exact release_wakes reached seat member release
  · rintro rfl begun moments later gate deadline waited watched' next step path waits ends
    exact wait_timely reached seat step path waits ends
  · obtain ⟨moments, threads, watched', path, resolved, -⟩ := drive_path seat
    exact ⟨moments, threads, watched', path.mono fun _ _ => alone_prompt, resolved⟩

theorem wait_end_canceled : ∃ history s next,
    Reached history s ∧ s.threads[0]? = some (.run 0 false (.waiting 0 1000 (.ofSeconds 1))) ∧
    Step s (.advance 0 0 (.waiting 0 1000 (.ofSeconds 1))) next ∧
    next.threads[0]? = some (.run 0 false (.ended .canceled)) ∧
    Awaits 0 0 false history s (.waiting 0 1000 (.ofSeconds 1)) := by
  have fresh := @Reached.fresh ⟨"device", "1.0"⟩ [] [("waits", .ofSeconds 1)]
  have begun := fresh.step (@Step.begin _ 0 false [.prepare true false] (by decide) fun _ _ member => by cases member)
  have waits := (progress_path (i := 0) 8 rfl).reached begun
  have hired := waits.step (@Step.spawn _ 0 (.cancel none))
  have canceled := hired.step (.work (i := 1) rfl)
  exact ⟨_, _, _, canceled, rfl, .advance (i := 0) rfl rfl, rfl, wait_end canceled rfl⟩

end Site
end TrialBench
