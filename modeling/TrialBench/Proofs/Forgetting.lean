import TrialBench.Proofs.Likeness
import TrialBench.Proofs.WaitEnd
namespace TrialBench

-- A thread that has come to its end takes no more steps.
def Thread.Spent : Thread → Prop
  | .worker left => left = []
  | .run _ _ p => ¬ p.Live

inductive Thread.Like (past : Past) : Thread → Thread → Prop where
  | worker {left : List Op} : Like past (.worker left) (.worker left)
  | run {test : Nat} {watched : Bool} {p q : Phase} (phases : p.Like past q) :
      Like past (.run test watched p) (.run test watched q)

-- The threads at work on two sites, in pairs. Threads that are spent may be alone.
structure Crew (past : Past) (twin : Nat → Nat → Prop) (ours theirs : List Thread) : Prop where
  seats : ∀ {i j : Nat}, twin i j → Option.Rel (Thread.Like past) ours[i]? theirs[j]?
  apart : ∀ {i j i' j' : Nat}, twin i j → twin i' j' → (i = i' ↔ j = j')
  fresh : ∀ k, twin (ours.length + k) (theirs.length + k)
  ours : ∀ {i : Nat} {thread : Thread}, ours[i]? = some thread → thread.Spent ∨ ∃ j, twin i j
  theirs : ∀ {j : Nat} {thread : Thread}, theirs[j]? = some thread → thread.Spent ∨ ∃ i, twin i j

inductive Deed.Like (past : Past) (twin : Nat → Nat → Prop) : Deed → Deed → Prop where
  | same {deed : Deed} (free : deed.thread? = none) : Like past twin deed deed
  | work {i j : Nat} {op : Op} (pair : twin i j) : Like past twin (.work i op) (.work j op)
  | advance {i j test : Nat} {p q : Phase} (pair : twin i j) (phases : p.Like past q) :
      Like past twin (.advance i test p) (.advance j test q)
  | heed {i j test : Nat} {event : ShutdownEvent} (pair : twin i j) :
      Like past twin (.heed i test event) (.heed j test event)
  | rest {i j test : Nat} (pair : twin i j) : Like past twin (.rest i test) (.rest j test)

-- What is left behind after a step of a run that comes to a phase.
def Past.after (past : Past) (left : Leftover) (test : Nat) (p : Phase) : Leftover :=
  if test = past.test then left.least p.leftover else left

theorem Past.after_within {past : Past} {left : Leftover} {test : Nat} {p : Phase} :
    (past.after left test p).Within left := by
  unfold after
  split
  · rw [Leftover.Within, Leftover.rank_least]
    exact Nat.min_le_left _ _
  · exact Nat.le_refl _

theorem Past.after_own {past : Past} {left : Leftover} {p : Phase} :
    (past.after left past.test p).Within p.leftover := by
  rw [after, if_pos rfl, Leftover.Within, Leftover.rank_least]
  exact Nat.min_le_right _ _

-- Two moments at which the same is done. What a run finds of its own test is the same as
-- far as the run has cleared up.
structure Moment.Like (past : Past) (twin : Nat → Nat → Prop) (m m' : Moment) : Prop where
  deeds : m.deed.Like past twin m'.deed
  worlds : m.world.Like past .everything m'.world
  own : ∀ i p, m.deed = .advance i past.test p → m.world.Like past p.leftover m'.world

-- Once its outcome is known again, a test that had gates before was restarted.
def Past.Renewed (past : Past) (left : Leftover) (moments : List Moment) : Prop :=
  left.Within .request → ∀ gate, past.Spent gate → ∃ m ∈ moments, m.restarts past.test = true

theorem Past.Renewed.later {past : Past} {left : Leftover} {moments : List Moment}
    (renewed : past.Renewed left moments) (more : List Moment) : past.Renewed left (more ++ moments) := by
  intro known gate spent
  obtain ⟨m, member, restarts⟩ := renewed known gate spent
  exact ⟨m, List.mem_append_right _ member, restarts⟩

-- What a test shows of itself to its body, and to whoever has a handle of it.
structure View where
  outcome : Outcome
  hasGate : Bool
  cancelPending : Bool
  deriving DecidableEq

def TestCell.view (cell : TestCell) : View := ⟨cell.outcome, cell.gate.isSome, cell.cancelPending⟩

def World.view? (w : World) (test : Nat) : Option View := (w.test? test).map TestCell.view

-- From two worlds to two others in the same time, with the same written on the way.
structure World.Alongside (w v later later' : World) : Prop where
  elapsed : later.clock - w.clock = later'.clock - v.clock
  logs : Grown w.logs v.logs later.logs later'.logs
  findings : Grown w.findings v.findings later.findings later'.findings
  records : Grown w.records v.records later.records later'.records

-- All that two worlds may differ in when a run is about to begin.
def Past.between (test : Nat) (before : List Moment) (w v : World) : Past :=
  ⟨test, before, v.clock, w.clock, w.harvest.2, v.harvest.2⟩

theorem World.Like.alongside {test : Nat} {before : List Moment} {left : Leftover} {w v later later' : World}
    (like : later.Like (.between test before w v) left later') : Alongside w v later later' := by
  refine ⟨?_, like.logs, like.findings, like.records⟩
  have clock : later.clock + v.clock = later'.clock + w.clock := like.clock
  omega

theorem World.Like.viewed {past : Past} {left : Leftover} {test : Nat} {w v : World} (like : w.Like past left v)
    (settled : past.leftoverFor left test = .nothing) : v.view? test = w.view? test := by
  have cells := like.tests test
  unfold World.view?
  generalize w.test? test = ours at cells
  generalize v.test? test = theirs at cells
  cases cells with
  | none => rfl
  | @some a b cell =>
    obtain ⟨gate, outcome, cancel⟩ := cell.settled settled
    simp [TestCell.view, gate, outcome, cancel]

-- Two sites that are alike but for what was left behind for one test. When nothing of it
-- is cleared up yet, no run of that test is at work.
structure Site.Like (past : Past) (twin : Nat → Nat → Prop) (left : Leftover) (moments : List Moment)
    (s t : Site) : Prop where
  worlds : s.world.Like past left t.world
  crew : Crew past twin s.threads t.threads
  own : ∀ {i j : Nat} {watched : Bool} {p : Phase}, twin i j →
    s.threads[i]? = some (.run past.test watched p) → left.Within p.leftover
  renewed : past.Renewed left moments

namespace Crew
variable {past : Past} {twin : Nat → Nat → Prop} {ours theirs : List Thread} {i j : Nat} {a b : Thread}

theorem concat_apart {threads : List Thread} {thread : Thread} (apart : i ≠ threads.length) :
    (threads ++ [thread])[i]? = threads[i]? := by
  rcases Nat.lt_or_gt_of_ne apart with old | beyond
  · exact List.getElem?_append_left old
  · rw [List.getElem?_eq_none (by simp; omega), List.getElem?_eq_none (by omega)]

theorem push (crew : Crew past twin ours theirs) (like : a.Like past b) :
    Crew past twin (ours ++ [a]) (theirs ++ [b]) := by
  have newest : twin ours.length theirs.length := crew.fresh 0
  refine ⟨fun {i j} pair => ?_, crew.apart, fun k => ?_, fun {i thread} seat => ?_, fun {j thread} seat => ?_⟩
  · by_cases last : i = ours.length
    · obtain rfl := (crew.apart pair newest).mp last
      subst last
      rw [List.getElem?_concat_length, List.getElem?_concat_length]
      exact .some like
    · have other : j ≠ theirs.length := fun same => last ((crew.apart pair newest).mpr same)
      rw [concat_apart last, concat_apart other]
      exact crew.seats pair
  · have later := crew.fresh (k + 1)
    simpa [Nat.add_assoc, Nat.add_comm 1 k] using later
  · rcases Site.seat_concat seat with old | ⟨rfl, rfl⟩
    · exact crew.ours old
    · exact .inr ⟨_, newest⟩
  · rcases Site.seat_concat seat with old | ⟨rfl, rfl⟩
    · exact crew.theirs old
    · exact .inr ⟨_, newest⟩

theorem set (crew : Crew past twin ours theirs) (pair : twin i j) (like : a.Like past b) :
    Crew past twin (ours.set i a) (theirs.set j b) := by
  refine ⟨fun {k l} two => ?_, crew.apart, fun k => ?_, fun {k thread} seat => ?_, fun {l thread} seat => ?_⟩
  · have seats := crew.seats two
    by_cases same : i = k
    · obtain rfl := (crew.apart pair two).mp same
      subst same
      rw [List.getElem?_set_self', List.getElem?_set_self']
      generalize ours[i]? = mine at seats
      generalize theirs[j]? = yours at seats
      cases seats with
      | none => exact .none
      | some _ => exact .some like
    · have other : j ≠ l := fun equal => same ((crew.apart pair two).mpr equal)
      rwa [List.getElem?_set_ne same, List.getElem?_set_ne other]
  · simpa using crew.fresh k
  · rcases Site.seat_set seat with ⟨rfl, -⟩ | ⟨-, old⟩
    · exact .inr ⟨j, pair⟩
    · exact crew.ours old
  · rcases Site.seat_set seat with ⟨rfl, -⟩ | ⟨-, old⟩
    · exact .inr ⟨i, pair⟩
    · exact crew.theirs old

-- Whoever is still at work on one site has a partner on the other.
theorem partner (crew : Crew past twin ours theirs) (seat : ours[i]? = some a) (busy : ¬ a.Spent) :
    ∃ j b, twin i j ∧ theirs[j]? = some b ∧ a.Like past b := by
  obtain ⟨j, pair⟩ := (crew.ours seat).resolve_left busy
  have seats := crew.seats pair
  rw [seat] at seats
  generalize there : theirs[j]? = yours at seats
  cases seats with
  | @some _ b like => exact ⟨j, b, pair, there, like⟩

theorem partner_back (crew : Crew past twin ours theirs) (seat : theirs[j]? = some b) (busy : ¬ b.Spent) :
    ∃ i a, twin i j ∧ ours[i]? = some a ∧ a.Like past b := by
  obtain ⟨i, pair⟩ := (crew.theirs seat).resolve_left busy
  have seats := crew.seats pair
  rw [seat] at seats
  generalize there : ours[i]? = mine at seats
  cases seats with
  | @some a _ like => exact ⟨i, a, pair, there, like⟩

end Crew

theorem Phase.leftover_within (p : Phase) : p.leftover.Within .marks := by
  cases p <;> simp [leftover, Leftover.rank]

theorem Phase.Like.live {past : Past} {p q : Phase} (like : p.Like past q) : q.Live ↔ p.Live := by
  cases like with
  | same => exact Iff.rfl
  | waiting => exact Iff.rfl

namespace Site
variable {past : Past} {twin : Nat → Nat → Prop} {left : Leftover} {moments more history other : List Moment}
  {s t next : Site} {deed : Deed} {m : Moment} {i j test gate : Nat} {watched : Bool} {p q : Phase}

def begun (s : Site) (test : Nat) (watched : Bool) (body : List BodyStep) : Site :=
  ⟨s.world, s.threads ++ [.run test watched (.start body)]⟩

theorem since_renewed (renewed : ∃ m ∈ moments, m.restarts test = true) :
    since test (moments ++ history) = since test moments := by
  induction moments with
  | nil => simp at renewed
  | cons latest moments ih =>
    cases restarted : latest.restarts test with
    | true => rw [List.cons_append, since_restart restarted, since_restart restarted]
    | false =>
      rw [List.cons_append, since_cons restarted, since_cons restarted, ih]
      simpa [restarted] using renewed

-- A run that began since has no gate from before.
theorem renewed_gate (reached : Reached (moments ++ history) s) (renewed : ∃ m ∈ moments, m.restarts test = true)
    (last : lastGate test (moments ++ history) = some gate) : (test, gate) ∉ made history := by
  intro old
  obtain ⟨m, inside, makes⟩ := lastGate_moment last
  rw [since_renewed renewed] at inside
  have new : (test, gate) ∈ made moments := List.mem_filterMap.mpr ⟨m, since_member inside, makes⟩
  have apart := (reached_grounded reached).apart
  rw [made, List.filterMap_append] at apart
  exact Nat.lt_irrefl _ ((List.pairwise_append.mp apart).2.2 _ new _ old)

-- What a run had left to clear up is cleared up by its restart first of all.
theorem restarted {w : World} (bound : test = past.test → left.Within p.leftover)
    (renewed : past.Renewed left moments) :
    past.Renewed (past.after left test q) (⟨w, .advance i test p⟩ :: moments) := by
  intro known
  by_cases within : left.Within .request
  · exact renewed.later [_] within
  · by_cases own : test = past.test
    · cases p with
      | start body => exact fun _ _ => ⟨_, List.mem_cons_self, by simp [Moment.restarts, own]⟩
      | clear body => exact absurd (bound own) within
      | _ => exact absurd (Nat.le_succ_of_le (bound own)) within
    · rw [Past.after, if_neg own] at known
      exact absurd known within

-- A run waits for a gate of its own, and not for one of an earlier run.
theorem own_awake (reached : Reached (moments ++ past.before) s)
    (seat : s.threads[i]? = some (.run past.test watched p)) (bound : left.Within p.leftover)
    (renewed : past.Renewed left moments) :
    ∀ gate deadline waited, p = .waiting gate deadline waited → ¬ past.Spent gate := by
  rintro gate deadline waited rfl spent
  exact renewed_gate reached (renewed (Nat.le_succ_of_le bound) gate spent) (waiting_last reached seat) spent

theorem own_turn {w v : World} (worlds : w.Like past left v) (bound : left.Within p.leftover) (phases : p.Like past q)
    (awake : ∀ gate deadline waited, p = .waiting gate deadline waited → ¬ past.Spent gate) :
    Run.Progress.Like past (past.after left past.test) (Run.advance w past.test p) (Run.advance v past.test q) := by
  have cleared : past.after left past.test = fun p' => left.least p'.leftover := funext fun _ => if_pos rfl
  rw [cleared]
  exact Run.own_like worlds bound phases awake

namespace Like

theorem awake (like : s.Like past twin left moments t) (reached : Reached (moments ++ past.before) s)
    (pair : twin i j) {deadline : Nat} {waited : Duration}
    (seat : s.threads[i]? = some (.run test watched (.waiting gate deadline waited))) : ¬ past.Spent gate := by
  by_cases own : test = past.test
  · subst own
    exact own_awake reached seat (like.own pair seat) like.renewed _ _ _ rfl
  · intro spent
    have old : (past.test, gate) ∈ made (moments ++ past.before) := by
      rw [made, List.filterMap_append]
      exact List.mem_append_right _ spent
    exact own (made_alone (reached_grounded reached) (lastGate_in_made (waiting_last reached seat)) old)

theorem idle (like : s.Like past twin left moments t) (idle : s.Idle test) : t.Idle test := by
  intro watched q member live
  obtain ⟨j, seat⟩ := List.getElem?_of_mem member
  obtain ⟨i, thread, pair, there, threads⟩ := like.crew.partner_back seat (not_not_intro live)
  cases threads with
  | run phases => exact idle _ _ (List.mem_of_getElem? there) (phases.live.mp live)

theorem turn (like : s.Like past twin left moments t) (reached : Reached (moments ++ past.before) s)
    (pair : twin i j) (seat : s.threads[i]? = some (.run test watched p)) (phases : p.Like past q) :
    Run.Progress.Like past (past.after left test) (Run.advance s.world test p) (Run.advance t.world test q) := by
  have awake : ∀ gate deadline waited, p = .waiting gate deadline waited → ¬ past.Spent gate := by
    rintro gate deadline waited rfl
    exact like.awake reached pair seat
  by_cases own : test = past.test
  · subst own
    exact own_turn like.worlds (like.own pair seat) phases awake
  · have settled : past.leftoverFor left test = .nothing := if_neg own
    have kept : past.after left test = fun _ => left := funext fun _ => if_neg own
    rw [kept]
    exact Run.advance_like like.worlds settled phases awake

theorem remember (like : s.Like past twin left moments t) : s.Like past twin left (m :: moments) t :=
  { like with renewed := like.renewed.later [m] }

theorem onWorld {w v : World} (like : s.Like past twin left moments t) (worlds : w.Like past left v) :
    Like past twin left (m :: moments) ⟨w, s.threads⟩ ⟨v, t.threads⟩ :=
  { like.remember with worlds }

theorem push {w v : World} {a b : Thread} (like : s.Like past twin left moments t) (worlds : w.Like past left v)
    (threads : a.Like past b) (own : ∀ watched p, a = .run past.test watched p → left.Within p.leftover) :
    Like past twin left (m :: moments) ⟨w, s.threads ++ [a]⟩ ⟨v, t.threads ++ [b]⟩ := by
  refine { like.remember with worlds, crew := like.crew.push threads, own := ?_ }
  intro i j watched p pair seat
  rcases seat_concat seat with old | ⟨-, same⟩
  · exact like.own pair old
  · exact own watched p same.symm

theorem set {w v : World} {a b : Thread} {later : Leftover} (like : s.Like past twin left moments t)
    (worlds : w.Like past later v) (pair : twin i j) (threads : a.Like past b) (within : later.Within left)
    (own : ∀ watched p, a = .run past.test watched p → later.Within p.leftover)
    (renewed : past.Renewed later (m :: moments)) :
    Like past twin later (m :: moments) ⟨w, s.threads.set i a⟩ ⟨v, t.threads.set j b⟩ := by
  refine ⟨worlds, like.crew.set pair threads, ?_, renewed⟩
  intro k l watched p two seat
  rcases seat_set seat with ⟨-, same⟩ | ⟨-, old⟩
  · exact own watched p same.symm
  · exact Nat.le_trans within (like.own two old)

-- Where a run goes on, its partner does.
theorem run_partner (like : s.Like past twin left moments t) (seat : s.threads[i]? = some (.run test watched p))
    (live : p.Live) : ∃ j q, twin i j ∧ t.threads[j]? = some (.run test watched q) ∧ p.Like past q := by
  obtain ⟨j, thread, pair, there, threads⟩ := like.crew.partner seat (not_not_intro live)
  cases threads with
  | run phases => exact ⟨j, _, pair, there, phases⟩

-- A run that begins finds no gate, whatever else was left behind.
theorem ungated (like : s.Like past twin left moments t) (reached : Reached (moments ++ past.before) s)
    (settled : left.Within .marks ∨ ∃ other, Reached other t) (idle : s.Idle past.test) :
    s.Like past twin (left.least .marks) moments t := by
  have least : (left.least .marks).rank = min left.rank 2 := Leftover.rank_least
  refine { like with worlds := ?_, own := fun pair seat => ?_, renewed := fun known => like.renewed ?_ }
  · refine like.worlds.regrade fun a b ours theirs cell => ?_
    have same : b.gate = a.gate := by
      rcases settled with within | ⟨other, reached'⟩
      · exact cell.gate within
      · rw [(reached_gate reached ours).1 idle, (reached_gate reached' theirs).1 (like.idle idle)]
    refine { cell with
      gate := fun _ => same
      outcome := fun known => cell.outcome ?_
      cancel := fun known => cell.cancel ?_ }
    · change (left.least .marks).rank ≤ 1 at known
      change left.rank ≤ 1
      omega
    · change (left.least .marks).rank ≤ 0 at known
      change left.rank ≤ 0
      omega
  · exact Nat.le_trans (by omega) (like.own pair seat)
  · change (left.least .marks).rank ≤ 1 at known
    change left.rank ≤ 1
    omega

theorem begun {body : List BodyStep} (like : s.Like past twin left moments t)
    (reached : Reached (moments ++ past.before) s) (settled : left.Within .marks ∨ ∃ other, Reached other t)
    (idle : s.Idle past.test) : Like past twin (left.least .marks) (m :: moments) (s.begun past.test watched body)
      (t.begun past.test watched body) := by
  have none_left := like.ungated reached settled idle
  refine none_left.push none_left.worlds (.run (.same (by simp))) fun _ _ same => ?_
  cases same
  rw [Leftover.Within, Leftover.rank_least]
  exact Nat.min_le_right _ _

end Like

-- What happens on one site can happen on the other, at the same moment and done by the
-- partners of whoever did it.
theorem Step.like (reached : Reached (moments ++ past.before) s)
    (settled : left.Within .marks ∨ ∃ other, Reached other t) (like : s.Like past twin left moments t)
    (step : Step s deed next) :
    ∃ deed' next' later, Step t deed' next' ∧ deed.Like past twin deed' ∧ later.Within left ∧
      next.Like past twin later (⟨s.world, deed⟩ :: moments) next' := by
  cases step with
  | spawn =>
    exact ⟨_, _, left, .spawn, .same rfl, Nat.le_refl _, like.push like.worlds .worker fun _ _ same => by cases same⟩
  | @fire timer w popped =>
    obtain ⟨timer', v, there, due, worlds⟩ := like.worlds.popped like.worlds.clock popped
    refine ⟨_, _, left, .fire there, .same rfl, Nat.le_refl _, ?_⟩
    rw [due.owner, due.action]
    exact like.push worlds .worker fun _ _ same => by cases same
  | @begin own watched body known idle =>
    obtain ⟨cell, found⟩ := World.test?_of_known known
    obtain ⟨cell', found', -⟩ := like.worlds.found found
    have begun := @Step.begin t own watched body (World.known_of_test? found') (like.idle idle)
    by_cases same : own = past.test
    · subst same
      refine ⟨_, _, _, begun, .same rfl, ?_, like.begun reached settled idle⟩
      rw [Leftover.Within, Leftover.rank_least]
      exact Nat.min_le_left _ _
    · refine ⟨_, _, left, begun, .same rfl, Nat.le_refl _,
        like.push like.worlds (.run (.same (by simp))) fun _ _ opened => ?_⟩
      cases opened
      exact absurd rfl same
  | retime idle =>
    exact ⟨_, _, left, .retime (like.idle idle), .same rfl, Nat.le_refl _, like.onWorld (like.worlds.retime _ _)⟩
  | mark => exact ⟨_, _, left, .mark, .same rfl, Nat.le_refl _, like.onWorld (like.worlds.mark _ _)⟩
  | tell => exact ⟨_, _, left, .tell, .same rfl, Nat.le_refl _, like.onWorld (like.worlds.log _)⟩
  | listen => exact ⟨_, _, left, .listen, .same rfl, Nat.le_refl _, like.onWorld { like.worlds with signals := rfl }⟩
  | @elapse millis =>
    refine ⟨_, _, left, .elapse, .same rfl, Nat.le_refl _, like.onWorld { like.worlds with clock := ?_ }⟩
    have clock : past.Meets s.world.clock t.world.clock := like.worlds.clock
    simp only [Past.Meets] at clock ⊢
    omega
  | @work i op rest seat =>
    obtain ⟨j, thread, pair, there, threads⟩ := like.crew.partner seat (List.cons_ne_nil op rest)
    cases threads with
    | worker =>
      obtain ⟨worlds, same⟩ := Op.step_like like.worlds op
      refine ⟨_, _, left, .work there, .work pair, Nat.le_refl _, ?_⟩
      rw [same]
      exact like.set worlds pair .worker (Nat.le_refl _) (fun _ _ opened => by cases opened) like.remember.renewed
  | @advance i own watched p p' w seat turned =>
    have moved := Run.turn_moved.1 turned
    obtain ⟨j, q, pair, there, phases⟩ := like.run_partner seat (live_of_moved moved)
    obtain ⟨v, q', answered, worlds, phases'⟩ := (like.turn reached pair seat phases).of_moved moved
    refine ⟨_, _, past.after left own p', .advance there (Run.turn_moved.2 answered), .advance pair phases,
      Past.after_within, ?_⟩
    refine like.set worlds pair (.run phases') Past.after_within (fun _ _ same => ?_)
      (restarted (fun same => ?_) like.renewed)
    · cases same
      exact Past.after_own
    · subst same
      exact like.own pair seat
  | @heed i own watched p event w seat turned =>
    obtain ⟨rfl, ⟨deadline, blocked⟩, taken⟩ := Run.turn_heeded.1 turned
    obtain ⟨j, q, pair, there, phases⟩ := like.run_partner seat (live_of_blocked blocked)
    obtain ⟨deadline', answered, -⟩ := (like.turn reached pair seat phases).of_blocked blocked
    obtain ⟨v, taken', worlds⟩ := like.worlds.takeSignal taken
    refine ⟨_, _, left, .heed there (Run.turn_heeded.2 ⟨rfl, ⟨_, answered⟩, taken'⟩), .heed pair, Nat.le_refl _, ?_⟩
    refine like.set worlds pair (.run phases) (Nat.le_refl _) (fun _ _ same => ?_) like.remember.renewed
    cases same
    exact like.own pair seat
  | @rest i own deadline watched p seat turned =>
    obtain ⟨blocked, quiet⟩ := Run.turn_resting.1 turned
    obtain ⟨j, q, pair, there, phases⟩ := like.run_partner seat (live_of_blocked blocked)
    obtain ⟨deadline', answered, -⟩ := (like.turn reached pair seat phases).of_blocked blocked
    have quiet' : watched = true → t.world.takeSignal own = none := fun on => like.worlds.noSignal (quiet on)
    exact ⟨_, _, left, .rest there (Run.turn_resting.2 ⟨answered, quiet'⟩), .rest pair, Nat.le_refl _, like.remember⟩

theorem Path.like {Allowed : Site → Deed → Prop} (reached : Reached (moments ++ past.before) s)
    (settled : left.Within .marks ∨ ∃ other, Reached other t) (like : s.Like past twin left moments t)
    (path : Path Allowed s more next) :
    ∃ more' next' later, Path (fun _ _ => True) t more' next' ∧ List.Forall₂ (Moment.Like past twin) more more' ∧
      later.Within left ∧ next.Like past twin later (more ++ moments) next' := by
  induction path with
  | here => exact ⟨[], t, left, .here, .nil, Nat.le_refl _, like⟩
  | @step more s' next deed path step allowed ih =>
    obtain ⟨more', t', middle, path', alike, within, sites⟩ := ih
    have before : Reached ((more ++ moments) ++ past.before) s' := by
      rw [List.append_assoc]
      exact path.reached reached
    have settled' : middle.Within .marks ∨ ∃ other, Reached other t' := by
      rcases settled with known | ⟨other, reached'⟩
      · exact .inl (Nat.le_trans within known)
      · exact .inr ⟨_, path'.reached reached'⟩
    obtain ⟨deed', next', later, step', deeds, less, after⟩ := step.like before settled' sites
    have worlds : s'.world.Like past .everything t'.world :=
      sites.worlds.weaken (by cases middle <;> decide)
    refine ⟨_, next', later, path'.step step' trivial, .cons ⟨deeds, worlds, ?_⟩ alike, Nat.le_trans less within, after⟩
    rintro i p rfl
    cases deeds with
    | same free => cases free
    | advance pair phases =>
      obtain ⟨watched, p', seat, -, -⟩ := step.advanced
      exact sites.worlds.weaken (sites.own pair seat)

-- Nobody else runs a test while its run is left alone.
theorem Path.alone_idle (path : Path (Alone i test) s moments next)
    (alone : ∀ k watched p, k ≠ i → s.threads[k]? = some (.run test watched p) → ¬ p.Live) :
    ∀ k watched p, k ≠ i → next.threads[k]? = some (.run test watched p) → ¬ p.Live := by
  induction path with
  | here => exact alone
  | step path step allowed ih =>
    intro k watched p apart seat
    cases step.became seat with
    | kept old => exact ih k watched p apart old
    | begun vacant did =>
      subst did
      exact allowed.elim
    | advanced old did =>
      subst did
      exact absurd allowed.1 apart
    | heeded old did =>
      subst did
      exact absurd allowed.1 apart
    | rested old => exact ih k watched p apart old

end Site

structure Run.Finished.Like (past : Past) (a b : Run.Finished) : Prop where
  worlds : a.world.Like past .nothing b.world
  event : b.event = a.event
  result : b.result = a.result

namespace Site
variable {past : Past} {left : Leftover} {moments : List Moment} {threads : List Thread} {w v : World}
  {i : Nat} {watched : Bool} {p q : Phase}

-- A run that nobody else works at comes to the same end in both worlds.
theorem drive_like (reached : Reached (moments ++ past.before) ⟨w, threads⟩)
    (seat : threads[i]? = some (.run past.test watched p)) (worlds : w.Like past left v) (phases : p.Like past q)
    (bound : left.Within p.leftover) (renewed : past.Renewed left moments) :
    (Run.drive w past.test watched p).Like past (Run.drive v past.test watched q) := by
  have place : i < threads.length := (List.getElem?_eq_some_iff.mp seat).1
  fun_induction Run.drive w past.test watched p generalizing v q threads moments left with
  | case1 w watched p w' p' turned ih =>
    have progress := own_turn worlds bound phases (own_awake reached seat bound renewed)
    obtain ⟨v', q', answered, worlds', phases'⟩ := progress.of_moved (Run.turn_moved.1 turned)
    rw [Run.drive_moved (Run.turn_moved.2 answered)]
    have later := reached.step (.advance (s := ⟨w, threads⟩) seat turned)
    exact ih later (by simp [place]) worlds' phases' Past.after_own (restarted (fun _ => bound) renewed)
      (by simpa using place)
  | case2 w watched p result turned =>
    have progress := own_turn worlds bound phases (own_awake reached seat bound renewed)
    have stood := Run.turn_finished.1 turned
    have answered := progress.of_finished stood
    obtain rfl := Run.finished_done stood
    rw [Run.drive_finished (Run.turn_finished.2 answered)]
    exact ⟨worlds.weaken bound, rfl, rfl⟩
  | case3 w watched p event w' turned finished =>
    rename_i ih
    have progress := own_turn worlds bound phases (own_awake reached seat bound renewed)
    obtain ⟨rfl, ⟨deadline, blocked⟩, taken⟩ := Run.turn_heeded.1 turned
    obtain ⟨deadline', answered, -⟩ := progress.of_blocked blocked
    obtain ⟨v', taken', worlds'⟩ := worlds.takeSignal taken
    rw [Run.drive_heeded (Run.turn_heeded.2 ⟨rfl, ⟨_, answered⟩, taken'⟩)]
    have later : Reached ((⟨w, .heed i past.test event⟩ :: moments) ++ past.before) _ :=
      reached.step (.heed (s := ⟨w, threads⟩) seat turned)
    have rest := ih later (by simp [place]) worlds' phases bound (renewed.later [_]) (by simpa using place)
    exact ⟨rest.worlds, rfl, rest.result⟩
  | case4 w watched p deadline turned timer w' popped ih =>
    have progress := own_turn worlds bound phases (own_awake reached seat bound renewed)
    obtain ⟨blocked, quiet⟩ := Run.turn_resting.1 turned
    obtain ⟨deadline', answered, meets⟩ := progress.of_blocked blocked
    have resting := Run.turn_resting.2 ⟨answered, fun on => worlds.noSignal (quiet on)⟩
    obtain ⟨timer', v', there, due, worlds'⟩ := worlds.popped meets popped
    rw [Run.drive_fired resting there, due.owner, due.action]
    obtain ⟨moments', path, -⟩ := fire_path (s := ⟨w, threads⟩) seat turned popped
    have later := path.reached reached
    rw [← List.append_assoc] at later
    exact ih later (by rw [List.getElem?_append_left place]; exact seat) (Op.drain_like worlds' _) phases bound
      (renewed.later _) (by simp; omega)
  | case5 w watched p deadline turned popped ih =>
    have progress := own_turn worlds bound phases (own_awake reached seat bound renewed)
    obtain ⟨blocked, quiet⟩ := Run.turn_resting.1 turned
    obtain ⟨deadline', answered, meets⟩ := progress.of_blocked blocked
    have resting := Run.turn_resting.2 ⟨answered, fun on => worlds.noSignal (quiet on)⟩
    rw [Run.drive_lapsed resting (worlds.unpopped meets popped)]
    obtain ⟨moments', path, -⟩ := lapse_path (s := ⟨w, threads⟩) seat turned
    have later := path.reached reached
    rw [← List.append_assoc] at later
    exact ih later seat { worlds with clock := meets } phases bound (renewed.later _) place

-- How far two runs have come that began on two sites. Their tests show the same as soon
-- as the outcome was reset and the old request was dropped, which is before the body is
-- at work, and they end the same way, without a gate.
structure Agree (test : Nat) (s t later later' : Site) : Prop where
  alongside : s.world.Alongside t.world later.world later'.world
  shown : ∀ {watched : Bool} {p : Phase}, later.threads[s.threads.length]? = some (.run test watched p) →
    p.leftover = .nothing → later'.world.view? test = later.world.view? test
  result : ∀ {watched : Bool} {result : RunResult},
    later.threads[s.threads.length]? = some (.run test watched (.done result)) ↔
      later'.threads[t.threads.length]? = some (.run test watched (.done result))
  ungated : ∀ {view : View}, later.Idle test → later'.world.view? test = some view → view.hasGate = false

-- What a run makes of what was left behind for its test: nothing. Whatever happens in
-- one place can happen in the other, and a run that is left alone is the same in both.
structure Forgets (test : Nat) (past : Past) (twin : Nat → Nat → Prop) (s t : Site) (watched : Bool)
    (body : List BodyStep) : Prop where
  schedules : ∀ {Allowed : Site → Deed → Prop} {moments : List Moment} {later : Site},
    Path Allowed (s.begun test watched body) moments later →
      ∃ moments' later', Path (fun _ _ => True) (t.begun test watched body) moments' later' ∧
        List.Forall₂ (Moment.Like past twin) moments moments' ∧ Agree test s t later later'
  result : (t.world.runTest test watched body).result = (s.world.runTest test watched body).result
  event : (t.world.runTest test watched body).event = (s.world.runTest test watched body).event
  alongside : s.world.Alongside t.world (s.world.runTest test watched body).world
    (t.world.runTest test watched body).world
  shown : (t.world.runTest test watched body).world.view? test = (s.world.runTest test watched body).world.view? test
  ungated : ∀ {view : View}, (s.world.runTest test watched body).world.view? test = some view → view.hasGate = false

variable {test : Nat} {history other : List Moment} {s t later : Site} {twin : Nat → Nat → Prop}
  {body : List BodyStep}

theorem idle_ungated {view : View} (reached : Reached history s) (idle : s.Idle test)
    (shown : s.world.view? test = some view) : view.hasGate = false := by
  obtain ⟨cell, found, rfl⟩ := Option.map_eq_some_iff.mp shown
  have none_left : cell.gate = none := (reached_gate reached found).1 idle
  simp [TestCell.view, none_left]

-- Where everything is left behind that can be, no run of the test is at work.
theorem Like.untouched {moments : List Moment} (like : s.Like past twin .everything moments t) :
    s.Idle past.test := by
  intro watched p member live
  obtain ⟨i, seat⟩ := List.getElem?_of_mem member
  obtain ⟨j, q, pair, -, -⟩ := like.run_partner seat live
  exact absurd (Nat.le_trans (like.own pair seat) p.leftover_within) (by decide)

theorem Like.agree {moments moments' : List Moment} {later later' : Site}
    (pair : twin s.threads.length t.threads.length)
    (like : later.Like (.between test history s.world t.world) twin left moments later')
    (reached : Reached moments' later') : Agree test s t later later' := by
  have seats := like.crew.seats pair
  refine ⟨like.worlds.alongside, fun seat settled => ?_, ?_, fun idle => idle_ungated reached (like.idle idle)⟩
  · have bound := like.own pair seat
    rw [settled] at bound
    obtain rfl := Leftover.within_nothing.mp bound
    exact like.worlds.viewed (ite_self _)
  · intro watched result
    generalize later.threads[s.threads.length]? = ours at seats
    generalize later'.threads[t.threads.length]? = theirs at seats
    cases seats with
    | none => exact Iff.rfl
    | some threads =>
      cases threads with
      | worker => exact Iff.rfl
      | run phases =>
        cases phases with
        | same => exact Iff.rfl
        | waiting => simp

-- When a run that is left alone is done, its test is idle.
theorem runTest_idle (idle : s.Idle test) (watched : Bool) (body : List BodyStep) : ∃ moments threads,
    Path (Alone s.threads.length test) (s.begun test watched body) moments
      ⟨(s.world.runTest test watched body).world, threads⟩ ∧
    Idle ⟨(s.world.runTest test watched body).world, threads⟩ test := by
  have seat : (s.begun test watched body).threads[s.threads.length]? = some (.run test watched (.start body)) :=
    List.getElem?_concat_length
  obtain ⟨moments, threads, watched', path, resolved, -⟩ := drive_path seat
  refine ⟨moments, threads, path, fun watched p member => ?_⟩
  obtain ⟨k, place⟩ := List.getElem?_of_mem member
  by_cases own : k = s.threads.length
  · subst own
    cases place.symm.trans resolved
    exact id
  · refine path.alone_idle (fun k watched p apart seat => ?_) k watched p own place
    rcases seat_concat seat with old | ⟨newest, -⟩
    · exact idle watched p (List.mem_of_getElem? old)
    · exact absurd newest apart

-- A run forgets what was left behind for its test: the outcome of earlier runs, marks
-- from between runs, a cancel request, and releases of gates that nobody waits for.
theorem run_forgets (reached : Reached history s) (reached' : Reached other t) (known : test < s.world.tests.length)
    (alike : s.Like (.between test history s.world t.world) twin .everything [] t) :
    Forgets test (.between test history s.world t.world) twin s t watched body := by
  have idle : s.Idle test := alike.untouched
  have pair : twin s.threads.length t.threads.length := alike.crew.fresh 0
  have begins : Reached ([⟨s.world, .begin test⟩] ++ history) (s.begun test watched body) :=
    reached.step (.begin known idle)
  have sites : Like (.between test history s.world t.world) twin .marks [⟨s.world, .begin test⟩]
      (s.begun test watched body) (t.begun test watched body) := alike.begun reached (.inr ⟨other, reached'⟩) idle
  have known' : test < t.world.tests.length := by
    obtain ⟨cell, found⟩ := World.test?_of_known known
    obtain ⟨cell', found', -⟩ := alike.worlds.found found
    exact World.known_of_test? found'
  have begins' : Reached (⟨t.world, .begin test⟩ :: other) (t.begun test watched body) :=
    reached'.step (.begin known' (alike.idle idle))
  have ends : Run.Finished.Like (.between test history s.world t.world) (s.world.runTest test watched body)
      (t.world.runTest test watched body) :=
    drive_like begins List.getElem?_concat_length sites.worlds
      (.same (by simp)) (Nat.le_refl _) sites.renewed
  refine ⟨fun path => ?_, ends.result, ends.event, ends.worlds.alongside, ends.worlds.viewed (ite_self _), ?_⟩
  · obtain ⟨moments', later', left, path', same, -, after⟩ := path.like begins (.inr ⟨_, begins'⟩) sites
    exact ⟨moments', later', path', same, after.agree pair (path'.reached begins')⟩
  · obtain ⟨moments, threads, path, finally_⟩ := runTest_idle idle watched body
    exact idle_ungated (path.reached begins) finally_

-- One test was marked and canceled from outside while nobody ran it. The other one is
-- fresh.
theorem run_forgets_request : ∃ history s t twin, Reached history s ∧ Reached [] t ∧
    s.world.view? 0 = some ⟨.fail, false, true⟩ ∧ t.world.view? 0 = some ⟨.notStarted, false, false⟩ ∧
    Forgets 0 (.between 0 history s.world t.world) twin s t false [.prepare true false] := by
  have fresh := @Reached.fresh ⟨"device", "1.0"⟩ [] [("forgetful", .ofSeconds 1)]
  have hired := fresh.step (@Step.spawn _ 0 (.cancel none))
  have canceled := hired.step (.work (i := 0) rfl)
  have marked := canceled.step (@Step.mark _ 0 .fail)
  refine ⟨_, _, _, fun i j => i = j + 1, marked, fresh, rfl, rfl, run_forgets marked fresh (by decide) ?_⟩
  refine ⟨?_, ?_, ?_, fun known => absurd known (by decide)⟩
  · refine ⟨rfl, rfl, rfl, rfl, rfl, rfl, rfl, fun test => ?_, rfl, fun _ _ => rfl, rfl, .nil, .here, .here, .here⟩
    cases test with
    | zero =>
      exact .some ⟨rfl, rfl, fun _ => rfl, fun known => absurd known (by decide),
        fun known => absurd known (by decide)⟩
    | succ test => exact .none
  · refine ⟨fun {i j} pair => ?_, fun one two => by omega, fun k => by simp [Nat.add_comm],
      fun {i thread} seat => ?_, fun seat => by cases seat⟩
    · subst pair
      exact .none
    · cases i with
      | zero =>
        cases seat
        exact .inl rfl
      | succ i => cases seat
  · intro i j watched p pair seat
    subst pair
    cases seat

end Site
end TrialBench
