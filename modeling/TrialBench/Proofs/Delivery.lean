import TrialBench.Proofs.WaitEnd
namespace TrialBench

theorem Run.Course.clear_first {test : Nat} {own : List (World × Phase)} {body : List BodyStep}
    (course : Course test own (.clear body)) : own = [] := by
  cases course with
  | restarted => rfl
  | moved earlier moves =>
    cases moves
    cases earlier with
    | moved earlier moves => cases moves

namespace Site
variable {history older newer later earlier after before : List Moment} {s next : Site} {m poll : Moment}
  {test gate deadline i : Nat} {watched : Bool} {waited : Duration} {p : Phase}

theorem since_append (going : ∀ k ∈ later, k.restarts test = false) :
    since test (later ++ earlier) = later ++ since test earlier := by
  rw [since, List.takeWhile_append_of_pos]
  · rfl
  · intro k member
    simp [going k member]

theorem sinceClear_append (held : ∀ k ∈ later, k.clears test = false) :
    sinceClear test (later ++ earlier) = later ++ sinceClear test earlier := by
  rw [sinceClear, List.takeWhile_append_of_pos]
  · rfl
  · intro k member
    simp [held k member]

theorem poll_found (reached : Reached (later ++ poll :: earlier) s)
    (polls : poll.deed = .advance i test (.waiting gate deadline waited)) :
    ∃ found left watched, Reached earlier found ∧
      found.threads[i]? = some (.run test watched (.waiting gate deadline waited)) ∧
      Step found (.advance i test (.waiting gate deadline waited)) left ∧ found.world = poll.world ∧
      Reached (poll :: earlier) left := by
  obtain ⟨found, left, reachedFound, step, same, reachedLeft⟩ := reached.before
  rw [polls] at step
  obtain ⟨watched, p', seat, -, -⟩ := step.advanced
  exact ⟨found, left, watched, reachedFound, seat, step, same, reachedLeft⟩

theorem poll_cleared (reached : Reached (later ++ poll :: earlier) s)
    (polls : poll.deed = .advance i test (.waiting gate deadline waited))
    (going : ∀ k ∈ later, k.restarts test = false) : ∀ k ∈ later ++ [poll], k.clears test = false := by
  intro k member
  rcases List.mem_append.mp member with late | last
  · obtain ⟨newer, older, rfl⟩ := List.append_of_mem late
    rw [List.append_assoc, List.cons_append] at reached
    obtain ⟨found, left, reachedFound, step, -, -⟩ := reached.before
    cases clears : k.clears test with
    | false => rfl
    | true =>
      obtain ⟨w, deed⟩ := k
      cases deed with
      | advance j own p =>
        cases p with
        | clear body =>
          obtain rfl : own = test := by simpa [Moment.clears] using clears
          obtain ⟨watched, p', seat, -, -⟩ := step.advanced
          obtain ⟨course, -⟩ := reached_course reachedFound seat trivial (by simp)
          have inside : poll ∈ since own (older ++ poll :: earlier) := by
            rw [since_append fun k there => going k (List.mem_append_right _ (List.mem_cons_of_mem _ there)),
              since_cons (by rw [Moment.restarts, polls])]
            exact List.mem_append_right _ List.mem_cons_self
          have taken := own_member polls inside
          rw [course.clear_first] at taken
          cases taken
        | _ => cases clears
      | _ => cases clears
  · obtain rfl := List.mem_singleton.mp last
    rw [Moment.clears, polls]

-- A release that comes before the deadline and before any cancel request of its run ends
-- the wait, whether the wait had begun or not.
theorem release_wins (reached : Reached (later ++ poll :: earlier) s)
    (polls : poll.deed = .advance i test (.waiting gate deadline waited))
    (going : ∀ k ∈ later, k.restarts test = false)
    (split : later ++ poll :: earlier = after ++ m :: before) (release : m.Releases gate)
    (uncanceled : ∀ r ∈ sinceClear test before, r.asksCancel test = false)
    (early : m.world.clock < deadline) :
    ∃ v, Run.advance poll.world test (.waiting gate deadline waited) = .moved v (.ended .released) := by
  obtain ⟨found, left, watched, reachedFound, seat, step, same, -⟩ := poll_found reached polls
  rw [← same]
  by_cases before_poll : ∃ m ∈ earlier, m.Releases gate
  · obtain ⟨m, member, release⟩ := before_poll
    exact ⟨_, release_wakes reachedFound seat member release⟩
  · -- Then the release came too late, after a cancel request or the deadline.
    exfalso
    obtain ⟨how, -, polled⟩ := waiting_polled reachedFound seat step
    obtain ⟨x, rfl, rfl⟩ : ∃ x, later = after ++ m :: x ∧ before = x ++ poll :: earlier := by
      rcases List.append_eq_append_iff.mp split with ⟨gap, rfl, rest⟩ | ⟨gap, rfl, rest⟩
      · rcases List.cons_eq_append_iff.mp rest with ⟨rfl, again⟩ | ⟨inner, rfl, again⟩
        · cases again
          obtain ⟨_, _, did⟩ := release
          rw [Moment.op?, polls] at did
          cases did
        · exact absurd ⟨m, by rw [again]; simp, release⟩ before_poll
      · rcases List.cons_eq_append_iff.mp rest with ⟨rfl, again⟩ | ⟨inner, rfl, again⟩
        · cases again
          obtain ⟨_, _, did⟩ := release
          rw [Moment.op?, polls] at did
          cases did
        · exact ⟨inner, rfl, again⟩
    have calm : ¬ ∃ r ∈ sinceClear test earlier, r.asksCancel test = true := by
      rintro ⟨r, member, asks⟩
      have held := poll_cleared reached polls going
      have there : r ∈ sinceClear test (x ++ poll :: earlier) := by
        rw [List.append_cons, sinceClear_append fun k inside => held k ?_]
        · exact List.mem_append_right _ member
        · rw [List.append_assoc, List.cons_append]
          exact List.mem_append_right _ (List.mem_cons_of_mem _ inside)
      rw [uncanceled r there] at asks
      cases asks
    have undecided : ¬ ∃ m, Decides test gate earlier m := by
      rintro ⟨m, ⟨member, release⟩ | ⟨member, asks⟩⟩
      · exact before_poll ⟨m, member, release⟩
      · exact calm ⟨m, member, asks⟩
    have late := polled.late (polled.timedOut.mpr undecided)
    rw [List.append_assoc, List.cons_append] at reached
    obtain ⟨there, _, reachedThere, -, again, -⟩ := reached.before
    have order : poll.world.clock ≤ there.world.clock :=
      reached_clock reachedThere (List.mem_append_right _ List.mem_cons_self)
    rw [same] at late
    rw [again] at order
    omega

theorem Handled.extend {thread : Nat} {message : Message} (handled : Handled thread test gate message earlier) :
    Handled thread test gate message (later ++ earlier) := by
  obtain ⟨newer, call, older, rfl, called, noted⟩ := handled
  refine ⟨later ++ newer, call, older, by simp, called, fun verdict decisive => ?_⟩
  obtain ⟨note, member, did⟩ := noted verdict decisive
  exact ⟨note, List.mem_append_right _ member, did⟩

theorem released_after_handling (reached : Reached (later ++ poll :: earlier) s)
    (polls : poll.deed = .advance i test (.waiting gate deadline waited))
    (released : ∃ v, Run.advance poll.world test (.waiting gate deadline waited) = .moved v (.ended .released)) :
    ∃ thread message, Handled thread test gate message earlier := by
  obtain ⟨found, left, watched, reachedFound, seat, step, same, -⟩ := poll_found reached polls
  obtain ⟨v, moved⟩ := released
  have opened : found.world.isOpen gate = true := by
    rcases (Run.moves_sound moved).polled with ⟨opened, -⟩ | ⟨-, -, other, -⟩ | ⟨-, -, -, other, -⟩
    · rwa [same]
    · cases other
    · cases other
  obtain ⟨m, member, thread, other, did⟩ := (waiting_open reachedFound seat).mp opened
  obtain ⟨-, rfl⟩ := ref_in_run reachedFound (waiting_last reachedFound seat) member (Moment.ref_of_op did)
  obtain ⟨newer, older, rfl⟩ := List.append_of_mem member
  obtain ⟨message, handled⟩ := released_handled reachedFound did
  refine ⟨thread, message, ?_⟩
  rw [List.append_cons]
  exact Handled.extend handled

theorem note_counts (reached : Reached (later ++ poll :: earlier) s)
    (polls : poll.deed = .advance i test (.waiting gate deadline waited))
    (going : ∀ k ∈ later, k.restarts test = false) {verdict : Mark} {thread : Nat}
    (member : m ∈ earlier) (noted : m.op? = some (thread, .note test gate verdict)) :
    Noted test verdict (later ++ poll :: earlier) := by
  obtain ⟨found, left, watched, reachedFound, seat, -, -, -⟩ := poll_found reached polls
  obtain ⟨inside, -⟩ := ref_in_run reachedFound (waiting_last reachedFound seat) member (Moment.ref_of_op noted)
  refine ⟨m, ?_, ?_⟩
  · rw [since_append going, since_cons (by rw [Moment.restarts, polls])]
    exact List.mem_append_right _ (List.mem_cons_of_mem _ inside)
  · rw [Moment.notedOn_op noted]
    simp [Op.markOn]

-- What the handlers of a gate are good for, once its run has polled.
structure Delivered (i test gate deadline : Nat) (waited : Duration) (later : List Moment) (poll : Moment)
    (earlier : List Moment) (s : Site) : Prop where
  wins : ∀ after m before, later ++ poll :: earlier = after ++ m :: before → m.Releases gate →
    (∀ r ∈ sinceClear test before, r.asksCancel test = false) → m.world.clock < deadline →
    ∃ v, Run.advance poll.world test (.waiting gate deadline waited) = .moved v (.ended .released)
  handled : (∃ v, Run.advance poll.world test (.waiting gate deadline waited) = .moved v (.ended .released)) →
    ∃ thread message, Handled thread test gate message earlier
  terminal : (∃ v, Run.advance poll.world test (.waiting gate deadline waited) = .moved v (.ended .released)) →
    (∀ call ∈ earlier, ∀ thread message, call.op? = some (thread, .call (.verdict test gate) message) →
      message.id = Message.passedId ∨ message.id = Message.failedId) →
    ∀ p watched next result, Step s (.advance i test p) next →
      next.threads[i]? = some (.run test watched (.done result)) →
      ∃ outcome, result = .finished outcome ∧ outcome.isTerminal = true
  fails : ∀ newer call older thread message, earlier = newer ++ call :: older →
    call.op? = some (thread, .call (.verdict test gate) message) → message.id = Message.failedId →
    (∃ m ∈ newer, ∃ op, m.op? = some (thread, op)) →
    ∀ p watched next result, Step s (.advance i test p) next →
      next.threads[i]? = some (.run test watched (.done result)) → result = .finished .fail

theorem polled_result (reached : Reached (later ++ poll :: earlier) s)
    (polls : poll.deed = .advance i test (.waiting gate deadline waited))
    (going : ∀ k ∈ later, k.restarts test = false) {result : RunResult} {verdict : Mark}
    (noted : Noted test verdict (later ++ poll :: earlier)) (step : Step s (.advance i test p) next)
    (resolved : next.threads[i]? = some (.run test watched (.done result))) :
    ∃ outcome, result = .finished outcome ∧ outcome.isTerminal = true ∧ (verdict = .fail → outcome = .fail) := by
  obtain ⟨cell, found, told⟩ := step_concluded reached step resolved
  obtain ⟨-, -, -, onward⟩ := step.finishing resolved
  have last : Moment.restarts test ⟨s.world, .advance i test p⟩ = false := restarts_going onward
  have counted : Noted test verdict (⟨s.world, .advance i test p⟩ :: (later ++ poll :: earlier)) := by
    obtain ⟨m, member, did⟩ := noted
    exact ⟨m, by rw [since_cons last]; exact List.mem_cons_of_mem _ member, did⟩
  have inside : poll ∈ since test (⟨s.world, .advance i test p⟩ :: (later ++ poll :: earlier)) := by
    rw [since_cons last, since_append going, since_cons (by rw [Moment.restarts, polls])]
    simp
  cases result with
  | failed name cause =>
    exact absurd rfl ((told.failed name cause rfl).unwaited _ (own_member polls inside) gate deadline waited)
  | finished outcome =>
    have ends := told.finished outcome rfl
    refine ⟨outcome, rfl, ?_, ?_⟩
    · by_cases failed : outcome = .fail
      · rw [failed]; rfl
      · cases verdict with
        | fail => exact absurd (ends.fail.mpr (.inl counted)) failed
        | pass =>
          rw [ends.success.mpr ⟨failed, counted⟩]
          rfl
    · rintro rfl
      exact ends.fail.mpr (.inl counted)

theorem verdict_of_id {message : Message}
    (decisive : message.id = Message.passedId ∨ message.id = Message.failedId) :
    ∃ verdict, message.verdict? = some verdict := by
  rcases decisive with same | same <;> simp [Message.verdict?, same, Message.passedId, Message.failedId]

theorem polled_delivered (reached : Reached (later ++ poll :: earlier) s)
    (polls : poll.deed = .advance i test (.waiting gate deadline waited))
    (going : ∀ k ∈ later, k.restarts test = false) :
    Delivered i test gate deadline waited later poll earlier s := by
  refine ⟨?_, ?_, ?_, ?_⟩
  · intro after m before split release uncanceled early
    exact release_wins reached polls going split release uncanceled early
  · intro released
    exact released_after_handling reached polls released
  · intro released decisive p watched next result step resolved
    obtain ⟨thread, message, newer, call, older, rfl, called, noted⟩ :=
      released_after_handling reached polls released
    obtain ⟨verdict, decided⟩ := verdict_of_id (decisive call (by simp) thread message called)
    obtain ⟨note, member, did⟩ := noted verdict decided
    have counts := note_counts reached polls going (List.mem_append_left _ member) did
    obtain ⟨outcome, ended, final, -⟩ := polled_result reached polls going counts step resolved
    exact ⟨outcome, ended, final⟩
  · rintro newer call older thread message rfl called failing ⟨m, member, op, did⟩ p watched next result step resolved
    obtain ⟨found, left, _, reachedFound, -, -, -, -⟩ := poll_found reached polls
    have answered := reached_lawful (i := thread) reachedFound
    rw [opsBy_append, opsBy_cons called] at answered
    have decided : message.verdict? = some .fail := by
      simp [Message.verdict?, failing, Message.passedId, Message.failedId]
    have more : opsBy thread newer ≠ [] := List.ne_nil_of_mem (opsBy_member.mpr ⟨m, member, did⟩)
    obtain ⟨note, place, noted⟩ := opsBy_member.mp (answered.after decided more)
    have counts := note_counts reached polls going (List.mem_append_left _ place) noted
    obtain ⟨outcome, rfl, -, failed⟩ := polled_result reached polls going counts step resolved
    rw [failed rfl]

-- A release is never lost, whether its run waits already or not, and the verdicts that
-- were noted before it count.
theorem delivery (reached : Reached history s) :
    (∀ (i test gate deadline : Nat) (watched : Bool) (waited : Duration) (m : Moment),
      s.threads[i]? = some (.run test watched (.waiting gate deadline waited)) → m ∈ history → m.Releases gate →
      Run.advance s.world test (.waiting gate deadline waited) = .moved (s.world.useGate gate) (.ended .released)) ∧
    ∀ i test gate deadline waited later poll earlier, history = later ++ poll :: earlier →
      poll.deed = .advance i test (.waiting gate deadline waited) → (∀ k ∈ later, k.restarts test = false) →
      Delivered i test gate deadline waited later poll earlier s := by
  constructor
  · intro i test gate deadline watched waited m seat member release
    exact release_wakes reached seat member release
  · rintro i test gate deadline waited later poll earlier rfl polls going
    exact polled_delivered reached polls going

theorem delivery_passing : ∃ poll earlier s, Reached (poll :: earlier) s ∧
    poll.deed = .advance 0 0 (.waiting 0 1000 (.ofSeconds 1)) ∧
    Delivered 0 0 0 1000 (.ofSeconds 1) [] poll earlier s ∧
    ∃ thread message, Handled thread 0 0 message earlier := by
  have fresh := @Reached.fresh ⟨"device", "1.0"⟩ [] [("waits", .ofSeconds 1)]
  have begun := fresh.step (@Step.begin _ 0 false [.prepare true false] (by decide) fun _ _ member => by cases member)
  have waits := (progress_path (i := 0) 8 rfl).reached begun
  have hired := waits.step (@Step.spawn _ 0 (.post none ⟨100, []⟩))
  have posted := hired.step (.work (i := 1) rfl)
  have called := posted.step (.work (i := 1) rfl)
  have noted := called.step (.work (i := 1) rfl)
  have released := noted.step (.work (i := 1) rfl)
  have polled := released.step (.advance (i := 0) rfl rfl)
  have delivered := (delivery polled).2 0 0 0 1000 (.ofSeconds 1) [] _ _ rfl rfl (fun k member => by cases member)
  exact ⟨_, _, _, polled, rfl, delivered, delivered.handled ⟨_, rfl⟩⟩

end Site
end TrialBench
