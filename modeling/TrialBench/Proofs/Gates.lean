import TrialBench.Proofs.Runs
namespace TrialBench

namespace Moment

def ref? (m : Moment) : Option (Nat × Nat) :=
  match m.deed with
  | .work _ op => op.ref?
  | .advance _ _ (.body (op :: _) _) => op.ref?
  | .advance _ own (.waiting gate _ _) => some (own, gate)
  | _ => none

-- A wait that ends because its gate is open uses the permit up.
def Uses (gate : Nat) (m : Moment) : Prop :=
  ∃ thread test deadline waited, m.deed = .advance thread test (.waiting gate deadline waited) ∧
    m.world.isOpen gate = true

variable {m : Moment}

theorem ref_of_op {thread : Nat} {op : Op} (did : m.op? = some (thread, op)) : m.ref? = op.ref? := by
  obtain ⟨w, deed⟩ := m
  cases deed with
  | work doer op => cases did; rfl
  | advance doer own p =>
    obtain ⟨op, there, same⟩ := Option.map_eq_some_iff.mp did
    cases same
    rcases p with _ | _ | ⟨_ | ⟨op, ops⟩, rest⟩ | _ <;> cases there
    rfl
  | _ => cases did

theorem makes_next {pair : Nat × Nat} (made : m.makes? = some pair) : pair.2 = m.world.gates.length := by
  unfold makes? at made
  split at made
  · split at made <;> cases made
    rfl
  · cases made

theorem gatesAfter_length :
    m.gatesAfter.length = m.world.gates.length + (if m.makes?.isSome then 1 else 0) := by
  obtain ⟨w, deed⟩ := m
  have flat (op : Op) : (op.gatesAfter w.gates).length = w.gates.length := by
    cases op <;> simp [Op.gatesAfter]
  cases deed with
  | work thread op => exact flat op
  | advance thread own p =>
    cases p with
    | body underway rest =>
      rcases underway with _ | ⟨op, ops⟩
      · rcases rest with _ | ⟨step, rest⟩
        · rfl
        · cases step with
          | prepare enable ignoreError =>
            cases enable with
            | true => cases made : w.newChannel.2 <;> simp [gatesAfter, Phase.gatesAfter, makes?, made]
            | false => rfl
          | _ => rfl
      · exact flat op
    | waiting awaited deadline waited =>
      simp only [gatesAfter, Phase.gatesAfter]
      split <;> simp [makes?]
    | _ => rfl
  | _ => rfl

end Moment

theorem Op.gatesAfter_open {op : Op} {gates : List Bool} {gate : Nat}
    (known : ∀ test other, op = .release test other → other < gates.length) :
    (op.gatesAfter gates).getD gate false = true ↔
      (∃ test, op = .release test gate) ∨ gates.getD gate false = true := by
  cases op with
  | release test other =>
    rw [gatesAfter, World.isOpen_set (known test other rfl)]
    by_cases same : other = gate <;> simp [same]
  | _ => simp [gatesAfter]

theorem World.isOpen_new {gates : List Bool} {gate : Nat} :
    (gates ++ [false]).getD gate false = gates.getD gate false := by
  rcases Nat.lt_trichotomy gate gates.length with old | new | beyond
  · simp [List.getD_eq_getElem?_getD, List.getElem?_append_left old]
  · subst new
    simp
  · rw [List.getD_eq_getElem?_getD, List.getElem?_eq_none (by simp; omega),
      List.getD_eq_getElem?_getD, List.getElem?_eq_none (by omega)]

namespace Site
variable {history older newer : List Moment} {s next : Site} {deed : Deed} {m : Moment}
  {test other gate i : Nat} {watched : Bool} {p : Phase}

def made (history : List Moment) : List (Nat × Nat) := history.filterMap Moment.makes?

-- Nothing speaks of a gate before it is made, and no two gates are the same.
structure Grounded (history : List Moment) (s : Site) : Prop where
  below : ∀ pair ∈ made history, pair.2 < s.world.gates.length
  apart : (made history).Pairwise fun newer older => older.2 < newer.2
  pending : ∀ {i : Nat} {thread : Thread}, s.threads[i]? = some thread →
    ∀ op ∈ thread.ops, ∀ ref, op.ref? = some ref → ref ∈ made history
  handlers : ∀ {channel test gate : Nat}, s.world.handlerAt channel = some (.verdict test gate) →
    (test, gate) ∈ made history
  past : ∀ {newer older : List Moment} {m : Moment}, history = newer ++ m :: older →
    ∀ ref, m.ref? = some ref → ref ∈ made older

theorem made_older {pair : Nat × Nat} (there : pair ∈ made history) : pair ∈ made (m :: history) := by
  simp only [made, List.filterMap_cons]
  split
  · exact there
  · exact List.mem_cons_of_mem _ there

theorem made_now {pair : Nat × Nat} (makes : m.makes? = some pair) : pair ∈ made (m :: history) := by
  simp [made, makes]

theorem lastGate_moment (last : lastGate test history = some gate) :
    ∃ m ∈ since test history, m.makes? = some (test, gate) := by
  obtain ⟨m, member, makes⟩ := List.exists_of_findSome?_eq_some last
  obtain ⟨⟨own, number⟩, there, same⟩ := Option.bind_eq_some_iff.mp makes
  refine ⟨m, member, ?_⟩
  simp only [Option.ite_none_right_eq_some, Option.some.injEq] at same
  rw [there, same.1, same.2]

theorem lastGate_in_made (last : lastGate test history = some gate) : (test, gate) ∈ made history := by
  obtain ⟨m, member, makes⟩ := lastGate_moment last
  exact List.mem_filterMap.mpr ⟨m, since_member member, makes⟩

theorem Step.ref (reached : Reached history s) (grounded : Grounded history s) (step : Step s deed next)
    {ref : Nat × Nat} (speaks : Moment.ref? ⟨s.world, deed⟩ = some ref) : ref ∈ made history := by
  cases step with
  | work seat => exact grounded.pending seat _ List.mem_cons_self ref speaks
  | @advance i test watched p p' w seat turned =>
    cases p with
    | body underway rest =>
      rcases underway with _ | ⟨op, ops⟩
      · cases speaks
      · exact grounded.pending seat _ List.mem_cons_self ref speaks
    | waiting awaited deadline waited =>
      cases speaks
      obtain ⟨cell, found⟩ := World.test?_of_known (reached_known reached seat)
      exact lastGate_in_made ((reached_gate reached found).2 i watched _ seat trivial).2
    | _ => cases speaks
  | _ => cases speaks

theorem Step.installs (step : Step s deed next) {channel : Nat}
    (there : next.world.handlerAt channel = some (.verdict test gate)) :
    s.world.handlerAt channel = some (.verdict test gate) ∨
      Moment.ref? ⟨s.world, deed⟩ = some (test, gate) := by
  rcases step.effect.handlers channel test gate there with old | ⟨thread, place, doing⟩
  · exact .inl old
  · exact .inr (Moment.ref_of_op doing)

theorem reached_grounded (reached : Reached history s) : Grounded history s := by
  induction reached with
  | fresh =>
    refine ⟨?_, .nil, ?_, ?_, ?_⟩
    · intro pair member; cases member
    · intro i thread seat; cases seat
    · intro channel test gate there; cases there
    · intro newer older m split; cases newer <;> cases split
  | @step history s next deed earlier step grounded =>
    have length : next.world.gates.length = s.world.gates.length +
        (if (Moment.makes? ⟨s.world, deed⟩).isSome then 1 else 0) := by
      rw [step.effect.gates]
      exact Moment.gatesAfter_length
    have speaks {ref : Nat × Nat} (now : Moment.ref? ⟨s.world, deed⟩ = some ref) : ref ∈ made history :=
      step.ref earlier grounded now
    refine ⟨?_, ?_, ?_, ?_, ?_⟩
    · intro pair member
      obtain ⟨m, there, makes⟩ := List.mem_filterMap.mp member
      rcases List.mem_cons.mp there with rfl | old
      · have newest := Moment.makes_next makes
        simp only [length, makes, newest]
        simp
      · have bound := grounded.below pair (List.mem_filterMap.mpr ⟨m, old, makes⟩)
        omega
    · simp only [made, List.filterMap_cons]
      split
      · exact grounded.apart
      · rename_i pair makes
        refine List.pairwise_cons.mpr ⟨fun old member => ?_, grounded.apart⟩
        rw [Moment.makes_next makes]
        exact grounded.below old member
    · intro i thread seat op member ref refers
      cases step.became seat with
      | kept place => exact made_older (grounded.pending place op member ref refers)
      | hired =>
        obtain rfl := List.mem_singleton.mp member
        cases refers
      | begun => cases member
      | worked place did =>
        rcases List.mem_append.mp member with led | left
        · rcases Op.step_refs led refers with same | ⟨channel, there⟩
          · exact made_older (grounded.pending place _ List.mem_cons_self ref same)
          · exact made_older (grounded.handlers there)
        · exact made_older (grounded.pending place op (List.mem_cons_of_mem _ left) ref refers)
      | @advanced own _ p p' place did moved =>
        generalize next.world = later at moved
        cases Run.moves_sound moved with
        | op =>
          rcases List.mem_append.mp member with led | left
          · rcases Op.step_refs led refers with same | ⟨channel, there⟩
            · exact made_older (grounded.pending place _ List.mem_cons_self ref same)
            · exact made_older (grounded.handlers there)
          · exact made_older (grounded.pending place op (List.mem_cons_of_mem _ left) ref refers)
        | gated made =>
          have makes : Moment.makes? ⟨s.world, deed⟩ = some (own, s.world.gates.length) := by
            simp [Moment.makes?, did, Run.newChannel_snd made]
          have same := (World.alike_made made).gates
          simp only [Thread.ops, List.mem_cons, List.not_mem_nil, or_false] at member
          rcases member with rfl | rfl | rfl <;> cases refers
          · rw [same]; exact made_now makes
          · rw [same]; exact made_now makes
        | fails | silent | act =>
          obtain rfl := List.mem_singleton.mp member
          cases refers
        | _ => cases member
      | heeded place did blocked =>
        obtain ⟨-, gate, waited, rfl⟩ := Run.blocked_waiting blocked
        cases member
      | rested place => exact made_older (grounded.pending place op member ref refers)
    · intro channel test gate there
      rcases step.installs there with old | now
      · exact made_older (grounded.handlers old)
      · exact made_older (speaks now)
    · intro newer older m split ref refers
      rcases List.cons_eq_append_iff.mp split with ⟨rfl, same⟩ | ⟨rest, rfl, same⟩
      · cases same
        exact speaks refers
      · exact grounded.past same ref refers

theorem alone_of_apart {pairs : List (Nat × Nat)} (apart : pairs.Pairwise fun newer older => older.2 < newer.2)
    (one : (test, gate) ∈ pairs) (two : (other, gate) ∈ pairs) : test = other := by
  induction apart with
  | nil => cases one
  | cons below _ ih =>
    rcases List.mem_cons.mp one with rfl | early
    · rcases List.mem_cons.mp two with same | late
      · exact (congrArg Prod.fst same).symm
      · exact absurd (below _ late) (Nat.lt_irrefl _)
    · rcases List.mem_cons.mp two with rfl | late
      · exact absurd (below _ early) (Nat.lt_irrefl _)
      · exact ih early late

theorem made_alone (grounded : Grounded history s) (one : (test, gate) ∈ made history)
    (two : (other, gate) ∈ made history) : test = other :=
  alone_of_apart grounded.apart one two

-- Whatever speaks of the newest gate of a run belongs to that run.
theorem ref_in_run (reached : Reached history s) (last : lastGate test history = some gate)
    (member : m ∈ history) (speaks : m.ref? = some (other, gate)) :
    m ∈ since test history ∧ other = test := by
  have grounded := reached_grounded reached
  obtain ⟨k, place, makes⟩ := lastGate_moment last
  have split : since test history ++ history.dropWhile (fun m => !m.restarts test) = history :=
    List.takeWhile_append_dropWhile
  constructor
  · rw [← split] at member
    rcases List.mem_append.mp member with inside | before
    · exact inside
    · obtain ⟨newer, older, cut⟩ := List.append_of_mem before
      have whole : history = (since test history ++ newer) ++ m :: older := by
        rw [List.append_assoc, ← cut, split]
      have early := grounded.past whole _ speaks
      have apart := grounded.apart
      rw [whole, made, List.filterMap_append, List.filterMap_append] at apart
      have first : (test, gate) ∈ (since test history).filterMap Moment.makes? ++ newer.filterMap Moment.makes? :=
        List.mem_append_left _ (List.mem_filterMap.mpr ⟨k, place, makes⟩)
      exact absurd ((List.pairwise_append.mp apart).2.2 _ first _ (made_older early)) (Nat.lt_irrefl _)
  · obtain ⟨newer, older, whole⟩ := List.append_of_mem member
    have early := grounded.past whole _ speaks
    have there : (other, gate) ∈ made history := by
      rw [whole, made, List.filterMap_append]
      exact List.mem_append_right _ (made_older early)
    exact made_alone grounded there (lastGate_in_made last)

-- A release leaves a permit until a wait uses it.
def Opened (gate : Nat) : List Moment → Prop
  | [] => False
  | m :: older => ¬ m.Uses gate ∧ (m.Releases gate ∨ Opened gate older)

theorem opened_unused (unused : ∀ m ∈ history, ¬ m.Uses gate) :
    Opened gate history ↔ ∃ m ∈ history, m.Releases gate := by
  induction history with
  | nil => simp [Opened]
  | cons m older ih =>
    have before := ih fun k member => unused k (List.mem_cons_of_mem _ member)
    simp [Opened, unused m List.mem_cons_self, before]

theorem Step.isOpen (reached : Reached history s) (step : Step s deed next) :
    next.world.isOpen gate = true ↔
      ¬ Moment.Uses gate ⟨s.world, deed⟩ ∧
        (Moment.Releases gate ⟨s.world, deed⟩ ∨ s.world.isOpen gate = true) := by
  have grounded := reached_grounded reached
  have bound (ref : Nat × Nat) (speaks : Moment.ref? ⟨s.world, deed⟩ = some ref) :
      ref.2 < s.world.gates.length := grounded.below _ (step.ref reached grounded speaks)
  have idle (unused : ¬ Moment.Uses gate ⟨s.world, deed⟩) (silent : Moment.op? ⟨s.world, deed⟩ = none) :
      (s.world.isOpen gate = true ↔ ¬ Moment.Uses gate ⟨s.world, deed⟩ ∧
        (Moment.Releases gate ⟨s.world, deed⟩ ∨ s.world.isOpen gate = true)) := by
    simp [unused, Moment.Releases, silent]
  rw [World.isOpen, step.effect.gates]
  cases deed with
  | work thread op =>
    apply (Op.gatesAfter_open fun test other same => bound (test, other) (by rw [same]; rfl)).trans
    simp [Moment.Uses, Moment.Releases, Moment.op?, World.isOpen]
  | advance thread own p =>
    rcases p with _ | _ | ⟨_ | ⟨op, ops⟩, rest⟩ | _ | ⟨awaited, deadline, waited⟩ | _ | _ | _ | _
    case body.nil =>
      refine Iff.trans ?_ (idle (by simp [Moment.Uses]) rfl)
      rcases rest with _ | ⟨_ | _ | ⟨_ | _, ignoreError⟩ | _ | _ | _, rest⟩ <;> try rfl
      simp only [Moment.gatesAfter, Phase.gatesAfter, World.isOpen]
      split
      · rw [World.isOpen_new]
      · rfl
    case body.cons =>
      apply (Op.gatesAfter_open fun test other same => bound (test, other) (by subst same; rfl)).trans
      simp [Moment.Uses, Moment.Releases, Moment.op?, Phase.op?, World.isOpen]
    case waiting =>
      have known : awaited < s.world.gates.length := bound (own, awaited) rfl
      simp only [Moment.gatesAfter, Phase.gatesAfter]
      split
      · rename_i opened
        rw [World.isOpen_set known]
        by_cases same : awaited = gate
        · subst same
          simp [Moment.Uses, opened]
        · simp [Moment.Uses, Moment.Releases, Moment.op?, Phase.op?, World.isOpen, same]
      · rename_i closed
        refine idle ?_ rfl
        rintro ⟨_, _, _, _, same, opened⟩
        cases same
        exact closed opened
    all_goals exact idle (by simp [Moment.Uses]) rfl
  | _ => exact idle (by simp [Moment.Uses]) rfl

theorem reached_open (reached : Reached history s) : s.world.isOpen gate = true ↔ Opened gate history := by
  induction reached with
  | fresh => simp [World.isOpen, World.fresh, Opened]
  | step earlier step ih => rw [step.isOpen earlier, ih, Opened]

-- A gate that a run waits for is open as soon as it was released at all.
theorem waiting_open {deadline : Nat} {waited : Duration} (reached : Reached history s)
    (seat : s.threads[i]? = some (.run test watched (.waiting gate deadline waited))) :
    s.world.isOpen gate = true ↔ ∃ m ∈ history, m.Releases gate := by
  obtain ⟨cell, found⟩ := World.test?_of_known (reached_known reached seat)
  have last : lastGate test history = some gate := ((reached_gate reached found).2 i watched _ seat trivial).2
  obtain ⟨course, -⟩ := reached_course reached seat trivial (by simp)
  obtain ⟨w, cell, before, own, -, -, -, -, working⟩ := course.waiting
  rw [reached_open reached, opened_unused]
  rintro m member ⟨thread, other, deadline, waited, did, opened⟩
  obtain ⟨inside, rfl⟩ := ref_in_run reached last member (by rw [Moment.ref?, did])
  have step : (m.world, .waiting gate deadline waited) ∈ ownSteps other history :=
    List.mem_filterMap.mpr ⟨m, inside, by rw [Moment.own?, did]; simp⟩
  rw [own] at step
  rcases List.mem_cons.mp step with same | early
  · cases same
  · exact working _ early

end Site
end TrialBench
