import TrialBench.Proofs.Gates
namespace TrialBench

-- The number of the message that brings a verdict.
def Mark.messageId : Mark → Int
  | .pass => 100
  | .fail => 101

theorem Message.verdict_exact {message : Message} {verdict : Mark} :
    message.verdict? = some verdict ↔ message.id = verdict.messageId := by
  by_cases passes : message.id = 100
  · cases verdict <;> simp [verdict?, passedId, Mark.messageId, passes]
  · by_cases fails : message.id = 101 <;>
      cases verdict <;> simp [verdict?, passedId, failedId, Mark.messageId, passes, fails]

namespace Op

-- The steps that a message asks of the handler of a gate: its verdict is noted, if it brings one,
-- and then the gate is released.
def serving (test gate : Nat) (id : Int) : List Op :=
  (if id = Mark.pass.messageId then [.note test gate .pass]
    else if id = Mark.fail.messageId then [.note test gate .fail] else []) ++ [.release test gate]

-- What a thread owes after the steps it has done, newest first: the call of a gate's
-- handler is followed by its answer and by nothing else.
def owed : List Op → List Op
  | .call (.verdict test gate) message :: _ => answer test gate message
  | .note test gate _ :: _ => [.release test gate]
  | _ => []

-- The steps of a thread, newest first, in which every call is answered before the thread
-- turns to anything else, and nothing is noted or released but as an answer.
inductive Answered : List Op → Prop where
  | nil : Answered []
  | free {op : Op} {done : List Op} (earlier : Answered done) (settled : owed done = []) (free : op.Free) :
      Answered (op :: done)
  | due {op : Op} {done rest : List Op} (earlier : Answered done) (next : owed done = op :: rest) :
      Answered (op :: done)

variable {op : Op} {done rest left later : List Op} {test gate : Nat} {message : Message} {verdict : Mark}

-- What a thread can take up of itself, and not for a message.
def Fresh : Op → Prop
  | .call _ _ | .note _ _ _ | .release _ _ => False
  | _ => True

theorem Fresh.free (fresh : op.Fresh) : op.Free := by
  cases op <;> trivial

theorem answer_of_verdict (decisive : message.verdict? = some verdict) :
    answer test gate message = [.note test gate verdict, .release test gate] := by
  rw [answer, decisive]

theorem answer_serving : answer test gate message = serving test gate message.id := by
  cases decisive : message.verdict? with
  | some verdict =>
    have named := Message.verdict_exact.mp decisive
    cases verdict <;> simp [answer, serving, decisive, named, Mark.messageId]
  | none =>
    have silent (verdict : Mark) : message.id ≠ verdict.messageId := by
      intro same
      rw [Message.verdict_exact.mpr same] at decisive
      cases decisive
    simp [answer, serving, decisive, silent]

theorem owed_cases (next : owed done = op :: rest) :
    (∃ test gate message before verdict, done = .call (.verdict test gate) message :: before ∧
      message.verdict? = some verdict ∧ op = .note test gate verdict ∧ rest = [.release test gate]) ∨
    (∃ test gate message before, done = .call (.verdict test gate) message :: before ∧
      message.verdict? = none ∧ op = .release test gate ∧ rest = []) ∨
    ∃ test gate verdict before, done = .note test gate verdict :: before ∧
      op = .release test gate ∧ rest = [] := by
  unfold owed at next
  split at next
  · rename_i test gate message before
    cases decisive : message.verdict? with
    | none =>
      rw [answer, decisive] at next
      cases next
      exact .inr (.inl ⟨_, _, _, _, rfl, decisive, rfl, rfl⟩)
    | some verdict =>
      rw [answer_of_verdict decisive] at next
      cases next
      exact .inl ⟨_, _, _, _, _, rfl, decisive, rfl, rfl⟩
  · cases next
    exact .inr (.inr ⟨_, _, _, _, rfl, rfl, rfl⟩)
  · cases next

theorem owed_due (next : owed done = op :: rest) : owed (op :: done) = rest := by
  rcases owed_cases next with ⟨_, _, _, _, _, -, -, rfl, rfl⟩ | ⟨_, _, _, _, -, -, rfl, rfl⟩ |
    ⟨_, _, _, _, -, rfl, rfl⟩ <;> rfl

theorem owed_free (free : op.Free) (silent : ∀ test gate message, op ≠ .call (.verdict test gate) message) :
    owed (op :: done) = [] := by
  unfold owed
  split
  · rename_i same; cases same; exact absurd rfl (silent _ _ _)
  · rename_i same; cases same; exact free.elim
  · rfl

theorem answered_step (w : World) (answered : Answered done) (due : op :: left = owed done ++ later)
    (free : ∀ next ∈ later, next.Free) :
    Answered (op :: done) ∧
      ∃ later', (step w op).2 ++ left = owed (op :: done) ++ later' ∧ ∀ next ∈ later', next.Free := by
  cases debt : owed done with
  | nil =>
    rw [debt] at due
    obtain rfl : op :: left = later := due
    refine ⟨.free answered debt (free op List.mem_cons_self), ?_⟩
    by_cases call : ∃ test gate message, op = .call (.verdict test gate) message
    · obtain ⟨test, gate, message, rfl⟩ := call
      refine ⟨left, ?_, fun next member => free next (List.mem_cons_of_mem _ member)⟩
      simp only [step, serve, owed]
      split <;> rfl
    · have silent : ∀ test gate message, op ≠ .call (.verdict test gate) message :=
        fun test gate message same => call ⟨test, gate, message, same⟩
      refine ⟨(step w op).2 ++ left, ?_, fun next member => ?_⟩
      · rw [owed_free (free op List.mem_cons_self) silent]
        rfl
      · rcases List.mem_append.mp member with led | old
        · exact step_free led silent
        · exact free next (List.mem_cons_of_mem _ old)
  | cons first rest =>
    rw [debt] at due
    obtain ⟨rfl, rfl⟩ := List.cons.inj due
    refine ⟨.due answered debt, later, ?_, free⟩
    rw [owed_due debt]
    rcases owed_cases debt with ⟨_, _, _, _, _, -, -, rfl, -⟩ | ⟨_, _, _, _, -, -, rfl, -⟩ |
      ⟨_, _, _, _, -, rfl, -⟩ <;> rfl

theorem Answered.suffix {newer : List Op} (answered : Answered (newer ++ done)) : Answered done := by
  induction newer with
  | nil => exact answered
  | cons op newer ih =>
    cases answered with
    | free earlier => exact ih earlier
    | due earlier => exact ih earlier

theorem Answered.noted (answered : Answered (.note test gate verdict :: done)) :
    ∃ message before, done = .call (.verdict test gate) message :: before ∧ message.verdict? = some verdict := by
  cases answered with
  | free earlier settled free => exact free.elim
  | due earlier next =>
    rcases owed_cases next with ⟨_, _, message, before, _, same, decisive, again, -⟩ |
      ⟨_, _, _, _, -, -, again, -⟩ | ⟨_, _, _, _, -, again, -⟩
    · cases again
      exact ⟨message, before, same, decisive⟩
    · cases again
    · cases again

-- The first steps after a call, done or still owed, are those that the message asks for.
theorem Answered.serves {newer : List Op} (answered : Answered (newer ++ .call (.verdict test gate) message :: done)) :
    ∃ later, newer.reverse ++ owed (newer ++ .call (.verdict test gate) message :: done) =
      serving test gate message.id ++ later := by
  induction newer with
  | nil => exact ⟨[], by rw [← answer_serving, List.append_nil]; rfl⟩
  | cons op newer ih =>
    rw [List.cons_append] at answered ⊢
    rw [List.reverse_cons, List.append_assoc, List.singleton_append]
    cases answered with
    | free earlier settled free =>
      obtain ⟨later, same⟩ := ih earlier
      rw [settled, List.append_nil] at same
      rw [same, List.append_assoc]
      exact ⟨_, rfl⟩
    | due earlier next =>
      rw [owed_due next, ← next]
      exact ih earlier

-- A release is the last step that a message asks for, after the note of its verdict.
theorem Answered.released (answered : Answered (.release test gate :: done)) :
    ∃ message noted before, done = noted ++ .call (.verdict test gate) message :: before ∧
      serving test gate message.id = noted.reverse ++ [.release test gate] := by
  cases answered with
  | free earlier settled free => exact free.elim
  | due earlier next =>
    rcases owed_cases next with ⟨_, _, _, _, _, -, -, again, -⟩ |
      ⟨_, _, message, before, same, plain, again, -⟩ | ⟨_, _, noted, before, same, again, -⟩
    · cases again
    · cases again
      refine ⟨message, [], before, same, ?_⟩
      rw [← answer_serving, answer, plain]
      rfl
    · cases again
      subst same
      obtain ⟨message, older, rfl, decisive⟩ := earlier.noted
      refine ⟨message, [.note test gate noted], older, rfl, ?_⟩
      rw [← answer_serving, answer_of_verdict decisive]
      rfl

theorem Answered.after {newer : List Op} (answered : Answered (newer ++ .call (.verdict test gate) message :: done))
    (decisive : message.verdict? = some verdict) (more : newer ≠ []) : .note test gate verdict ∈ newer := by
  obtain ⟨later, first, rfl⟩ := (List.eq_nil_or_concat newer).resolve_left more
  rw [List.concat_eq_append] at answered ⊢
  rw [List.append_assoc, List.singleton_append] at answered
  have step := answered.suffix
  have debt : owed (.call (.verdict test gate) message :: done) =
      [.note test gate verdict, .release test gate] := answer_of_verdict decisive
  cases step with
  | free earlier settled free =>
    rw [debt] at settled
    cases settled
  | due earlier next =>
    rw [debt] at next
    cases next
    exact List.mem_append_right _ List.mem_cons_self

end Op
namespace Moment

def opBy (thread : Nat) (m : Moment) : Option Op :=
  m.op?.bind fun done => if done.1 = thread then some done.2 else none

theorem opBy_exact {m : Moment} {thread : Nat} {op : Op} : m.opBy thread = some op ↔ m.op? = some (thread, op) := by
  cases did : m.op? with
  | none => simp [opBy, did]
  | some done =>
    obtain ⟨doer, done⟩ := done
    simp [opBy, did]

theorem op_thread {m : Moment} {thread : Nat} {op : Op} (did : m.op? = some (thread, op)) :
    m.deed.thread? = some thread := by
  obtain ⟨w, deed⟩ := m
  cases deed with
  | work doer op => cases did; rfl
  | advance doer test p =>
    obtain ⟨op, -, same⟩ := Option.map_eq_some_iff.mp did
    cases same
    rfl
  | _ => cases did

theorem opBy_apart {m : Moment} {thread : Nat} (apart : m.deed.thread? ≠ some thread) : m.opBy thread = none := by
  cases did : m.opBy thread with
  | none => rfl
  | some op => exact absurd (op_thread (opBy_exact.mp did)) apart

end Moment

namespace Site
variable {history older newer : List Moment} {s next : Site} {deed : Deed} {m : Moment}
  {test gate i : Nat} {thread : Thread}

def opsBy (thread : Nat) (history : List Moment) : List Op := history.filterMap (·.opBy thread)

theorem opsBy_apart (apart : m.deed.thread? ≠ some i) : opsBy i (m :: history) = opsBy i history := by
  simp [opsBy, Moment.opBy_apart apart]

theorem opsBy_cons {op : Op} (did : m.op? = some (i, op)) : opsBy i (m :: history) = op :: opsBy i history := by
  simp [opsBy, Moment.opBy_exact.mpr did]

theorem Step.thread_lt (step : Step s deed next) (doer : deed.thread? = some i) : i < s.threads.length := by
  cases step with
  | work seat | advance seat | heed seat | rest seat =>
    cases doer
    exact (List.getElem?_eq_some_iff.mp seat).1
  | _ => cases doer

theorem reached_unborn (reached : Reached history s) (vacant : s.threads.length ≤ i) : opsBy i history = [] := by
  induction reached with
  | fresh => rfl
  | step earlier step ih =>
    rw [opsBy_apart fun doer => Nat.not_lt.mpr (Nat.le_trans step.length_le vacant) (step.thread_lt doer)]
    exact ih (Nat.le_trans step.length_le vacant)

-- What a thread has done, newest first, each step with the world that it was done in.
def turns (thread : Nat) (history : List Moment) : List (World × Op) :=
  history.filterMap fun m => (m.opBy thread).map (m.world, ·)

theorem turns_ops : (turns i history).map (·.2) = opsBy i history := by
  rw [turns, opsBy, List.map_filterMap]
  congr 1
  funext m
  cases m.opBy i <;> rfl

theorem turns_apart (apart : m.deed.thread? ≠ some i) : turns i (m :: history) = turns i history := by
  simp [turns, Moment.opBy_apart apart]

theorem turns_cons {op : Op} (did : m.op? = some (i, op)) :
    turns i (m :: history) = (m.world, op) :: turns i history := by
  simp [turns, Moment.opBy_exact.mpr did]

theorem turns_silent (silent : m.op? = none) : turns i (m :: history) = turns i history := by
  simp [turns, Moment.opBy, silent]

theorem turns_unborn (reached : Reached history s) (vacant : s.threads.length ≤ i) : turns i history = [] :=
  List.map_eq_nil_iff.mp (turns_ops.trans (reached_unborn reached vacant))

-- What is true of a thread that has done nothing yet, of one that turns to something new,
-- and after each step of one, is true of every thread whatever the others do.
theorem reached_turns {Holds : List (World × Op) → List Op → Prop} (nothing : Holds [] [])
    (turning : ∀ done ops, Holds done [] → (∀ op ∈ ops, op.Fresh) → Holds done ops)
    (working : ∀ w done op left, Holds done (op :: left) → Holds ((w, op) :: done) ((Op.step w op).2 ++ left))
    (reached : Reached history s) (seat : s.threads[i]? = some thread) : Holds (turns i history) thread.ops := by
  induction reached generalizing i thread with
  | fresh => cases seat
  | @step history s next deed earlier step ih =>
    have onward {old : Thread} (place : s.threads[i]? = some old) (done : old.ops = [])
        (silent : Moment.op? ⟨s.world, deed⟩ = none) (fresh : ∀ op ∈ thread.ops, op.Fresh) :
        Holds (turns i (⟨s.world, deed⟩ :: history)) thread.ops := by
      rw [turns_silent silent]
      exact turning _ _ (done ▸ ih place) fresh
    cases step.became seat with
    | kept place apart =>
      rw [turns_apart apart]
      exact ih place
    | hired vacant did =>
      rw [turns_apart (by simp [did, Deed.thread?]), turns_unborn earlier (Nat.le_of_eq vacant.symm)]
      refine turning _ _ nothing fun op member => ?_
      obtain rfl := List.mem_singleton.mp member
      trivial
    | begun vacant did =>
      rw [turns_apart (by simp [did, Deed.thread?]), turns_unborn earlier (Nat.le_of_eq vacant.symm)]
      exact nothing
    | worked place did =>
      rw [turns_cons (by rw [did]; rfl)]
      exact working _ _ _ _ (ih place)
    | advanced place did moved =>
      generalize next.world = after at moved
      cases Run.moves_sound moved with
      | op =>
        rw [turns_cons (by rw [did]; rfl)]
        exact working _ _ _ _ (ih place)
      | gated =>
        refine onward place rfl (by rw [did]; rfl) fun op member => ?_
        simp only [Thread.ops, List.mem_cons, List.not_mem_nil, or_false] at member
        rcases member with rfl | rfl | rfl <;> trivial
      | fails | silent | act =>
        refine onward place rfl (by rw [did]; rfl) fun op member => ?_
        obtain rfl := List.mem_singleton.mp member
        trivial
      | _ => exact onward place rfl (by rw [did]; rfl) fun op member => by cases member
    | heeded place did blocked =>
      obtain ⟨-, gate, waited, rfl⟩ := Run.blocked_waiting blocked
      exact onward place rfl (by rw [did]; rfl) fun op member => by cases member
    | rested place did =>
      rw [turns_silent (by rw [did]; rfl)]
      exact ih place

theorem reached_answered (reached : Reached history s) (seat : s.threads[i]? = some thread) :
    Op.Answered (opsBy i history) ∧
      ∃ later, thread.ops = Op.owed (opsBy i history) ++ later ∧ ∀ op ∈ later, op.Free := by
  rw [← turns_ops]
  refine @reached_turns _ _ _ _ (fun done ops => Op.Answered (done.map (·.2)) ∧
    ∃ later, ops = Op.owed (done.map (·.2)) ++ later ∧ ∀ op ∈ later, op.Free) ?_ ?_ ?_ reached seat
  · exact ⟨.nil, [], rfl, nofun⟩
  · rintro done ops ⟨answered, later, split, -⟩ fresh
    have settled : Op.owed (done.map (·.2)) = [] := (List.append_eq_nil_iff.mp split.symm).1
    exact ⟨answered, ops, by rw [settled]; rfl, fun op member => (fresh op member).free⟩
  · rintro w done op left ⟨answered, later, split, free⟩
    exact Op.answered_step w answered split free

theorem reached_lawful (reached : Reached history s) : Op.Answered (opsBy i history) := by
  by_cases vacant : s.threads.length ≤ i
  · rw [reached_unborn reached vacant]
    exact .nil
  · have place : i < s.threads.length := Nat.lt_of_not_le vacant
    exact (reached_answered reached (List.getElem?_eq_getElem place)).1

theorem opsBy_split {op : Op} {done before : List Op} (split : opsBy i history = done ++ op :: before) :
    ∃ newer m older, history = newer ++ m :: older ∧ opsBy i newer = done ∧
      m.op? = some (i, op) ∧ opsBy i older = before := by
  obtain ⟨newer, late, rfl, doneBy, rest⟩ := List.filterMap_eq_append_iff.mp split
  obtain ⟨idle, m, older, rfl, silent, did, before⟩ := List.filterMap_eq_cons_iff.mp rest
  refine ⟨newer ++ idle, m, older, by simp, ?_, Moment.opBy_exact.mp did, before⟩
  rw [opsBy, List.filterMap_append, doneBy, List.filterMap_eq_nil_iff.mpr silent, List.append_nil]

-- A thread called a gate's handler with a message, and then noted the message's verdict.
def Handled (thread test gate : Nat) (message : Message) (history : List Moment) : Prop :=
  ∃ newer call older, history = newer ++ call :: older ∧
    call.op? = some (thread, .call (.verdict test gate) message) ∧
    ∀ verdict, message.verdict? = some verdict → ∃ note ∈ newer, note.op? = some (thread, .note test gate verdict)

theorem opsBy_append {newer older : List Moment} :
    opsBy i (newer ++ older) = opsBy i newer ++ opsBy i older := List.filterMap_append

theorem opsBy_member {op : Op} : op ∈ opsBy i history ↔ ∃ m ∈ history, m.op? = some (i, op) := by
  simp [opsBy, Moment.opBy_exact]

theorem released_handled (reached : Reached (newer ++ m :: older) s)
    (release : m.op? = some (i, .release test gate)) : ∃ message, Handled i test gate message older := by
  have answered := reached_lawful (i := i) reached
  rw [opsBy_append, opsBy_cons release] at answered
  obtain ⟨message, noted, before, split, steps⟩ := answered.suffix.released
  obtain ⟨late, call, early, rfl, doneBy, did, -⟩ := opsBy_split split
  refine ⟨message, late, call, early, rfl, did, fun verdict decisive => ?_⟩
  rw [← Op.answer_serving, Op.answer_of_verdict decisive] at steps
  have last : [Op.note test gate verdict] = noted.reverse := List.append_cancel_right steps
  refine opsBy_member.mp ?_
  rw [doneBy, ← List.mem_reverse, ← last]
  exact List.mem_cons_self

-- A thread that called the handler of a gate takes the steps that the message asks for before
-- any other: they are what it did since, or what it has left to do.
theorem call_served {call : Moment} (reached : Reached (newer ++ call :: older) s)
    (called : call.op? = some (i, .call (.verdict test gate) message)) :
    ∃ seat later, s.threads[i]? = some seat ∧
      (opsBy i newer).reverse ++ seat.ops = Op.serving test gate message.id ++ later := by
  have place : i < s.threads.length := by
    refine Nat.lt_of_not_le fun vacant => ?_
    have idle := reached_unborn reached vacant
    rw [opsBy_append, opsBy_cons called] at idle
    exact List.append_ne_nil_of_right_ne_nil _ (List.cons_ne_nil _ _) idle
  obtain ⟨answered, later, left, -⟩ := reached_answered reached (List.getElem?_eq_getElem place)
  rw [opsBy_append, opsBy_cons called] at answered left
  obtain ⟨further, steps⟩ := answered.serves
  refine ⟨_, further ++ later, List.getElem?_eq_getElem place, ?_⟩
  rw [left, ← List.append_assoc, steps, List.append_assoc]

end Site
end TrialBench
