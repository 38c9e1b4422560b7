import TrialBench.Proofs.Forgetting
namespace TrialBench

namespace Moment
variable {m : Moment} {test : Nat}

-- The wait of a run ends because of a cancel request.
def cancels (test : Nat) (m : Moment) : Bool :=
  match m.deed with
  | .advance _ own (.waiting gate _ _) => own = test && !m.world.isOpen gate && m.world.pendingFor own
  | _ => false

theorem quiets_exact : m.quiets test = (m.clears test || m.cancels test) := by
  obtain ⟨w, deed⟩ := m
  cases deed with
  | advance thread own p => cases p <;> simp [quiets, clears, cancels]
  | _ => rfl

theorem quiets_unasked (quiet : m.quiets test = true) : m.asksCancel test = false := by
  obtain ⟨w, deed⟩ := m
  cases deed with
  | advance thread own p =>
    cases p with
    | body underway rest => cases quiet
    | _ => rfl
  | work thread op => cases quiet
  | heed thread own event => cases quiet
  | _ => rfl

theorem cancels_exact :
    m.cancels test = true ↔ ∃ i gate deadline waited, m.deed = .advance i test (.waiting gate deadline waited) ∧
      m.world.isOpen gate = false ∧ m.world.pendingFor test = true := by
  obtain ⟨w, deed⟩ := m
  constructor
  · intro canceled
    cases deed with
    | advance thread own p =>
      cases p with
      | waiting gate deadline waited =>
        simp only [cancels, Bool.and_eq_true, decide_eq_true_eq, Bool.not_eq_true'] at canceled
        obtain ⟨⟨rfl, closed⟩, pending⟩ := canceled
        exact ⟨thread, gate, deadline, waited, rfl, closed, pending⟩
      | _ => cases canceled
    | _ => cases canceled
  · rintro ⟨i, gate, deadline, waited, rfl, closed, pending⟩
    simp [cancels, closed, pending]

theorem clears_own (silent : m.own? test = none) : m.clears test = false := by
  obtain ⟨w, deed⟩ := m
  cases deed with
  | advance thread own p =>
    have apart : own ≠ test := by
      intro same
      simp [own?, same] at silent
    cases p <;> simp [clears, apart]
  | _ => rfl

end Moment

section
variable {α : Type} {keep : α → Bool} {first rest : List α} {stop : α}

theorem takeWhile_stop (stops : keep stop = false) :
    (first ++ stop :: rest).takeWhile keep = first.takeWhile keep := by
  induction first with
  | nil => simp [stops]
  | cons item first ih =>
    rw [List.cons_append, List.takeWhile_cons, List.takeWhile_cons, ih]

theorem length_le_flatten {lists : List (List α)} (some_ : ∀ list ∈ lists, list ≠ []) :
    lists.length ≤ lists.flatten.length := by
  induction lists with
  | nil => exact Nat.le_refl 0
  | cons list lists ih =>
    have shorter := ih fun other member => some_ other (List.mem_cons_of_mem _ member)
    have nonempty := List.length_pos_of_ne_nil (some_ list List.mem_cons_self)
    simp only [List.length_cons, List.flatten_cons, List.length_append]
    omega

end

namespace Site
variable {Allowed : Site → Deed → Prop} {history older moments : List Moment} {start s next : Site} {deed : Deed}
  {m : Moment} {test i : Nat} {watched : Bool} {p : Phase}

-- The requests that are pending together.
def pool (test : Nat) (history : List Moment) : List Moment :=
  (history.takeWhile fun m => !m.quiets test).filter (·.asksCancel test)

-- Which requests each canceled wait has used up, newest wait first.
def charges (test : Nat) : List Moment → List (List Moment)
  | [] => []
  | m :: older => if m.cancels test then pool test older :: charges test older else charges test older

theorem charges_length : (charges test history).length = history.countP (·.cancels test) := by
  induction history with
  | nil => rfl
  | cons m older ih => cases canceled : m.cancels test <;> simp [charges, canceled, ih]

theorem pool_quiet (quiet : m.quiets test = true) : pool test (m :: older) = [] := by
  simp [pool, quiet]

theorem takeWhile_quiet {newer : List Moment} (quiet : m.quiets test = true) :
    (newer ++ m :: older).takeWhile (fun k => !k.quiets test) = newer.takeWhile fun k => !k.quiets test := by
  apply takeWhile_stop
  rw [quiet]
  rfl

theorem pool_unquiet (unquiet : m.quiets test = false) :
    pool test (m :: older) = (if m.asksCancel test then [m] else []) ++ pool test older := by
  cases asks : m.asksCancel test <;> simp [pool, unquiet, asks]

-- No request is charged twice, and none that is charged is pending still.
theorem charged_sublist :
    (pool test history ++ (charges test history).flatten).Sublist (history.filter (·.asksCancel test)) := by
  induction history with
  | nil => exact .refl _
  | cons m older ih =>
    cases quiet : m.quiets test with
    | true =>
      have unasked : m.asksCancel test = false := Moment.quiets_unasked quiet
      rw [pool_quiet quiet, List.nil_append, List.filter_cons_of_neg (by simp [unasked]), charges]
      split
      · rwa [List.flatten_cons]
      · exact (List.sublist_append_right _ _).trans ih
    | false =>
      have uncanceled : m.cancels test = false := by
        rw [Moment.quiets_exact, Bool.or_eq_false_iff] at quiet
        exact quiet.2
      have uncharged : charges test (m :: older) = charges test older := if_neg (by simp [uncanceled])
      rw [pool_unquiet quiet, uncharged, List.append_assoc, List.filter_cons]
      split
      · exact ih.cons_cons m
      · exact ih

theorem pool_requested (requested : Requested test history) : pool test history ≠ [] := by
  obtain ⟨m, member, asks⟩ := requested
  exact List.ne_nil_of_mem (List.mem_filter.mpr ⟨member, asks⟩)

theorem pending_requested (reached : Reached history s) (pending : s.world.pendingFor test = true) :
    Requested test history := by
  unfold World.pendingFor at pending
  cases found : s.world.test? test with
  | none => simp [found] at pending
  | some cell => exact (reached_pending reached found).mp (by simpa [found] using pending)

theorem charged_some (reached : Reached history s) : ∀ charge ∈ charges test history, charge ≠ [] := by
  induction reached with
  | fresh =>
    intro charge member
    cases member
  | @step history s next deed earlier step ih =>
    intro charge member
    rw [charges] at member
    split at member
    · rename_i canceled
      obtain ⟨i, gate, deadline, waited, -, -, pending⟩ := Moment.cancels_exact.mp canceled
      rcases List.mem_cons.mp member with rfl | old
      · exact pool_requested (pending_requested earlier pending)
      · exact ih charge old
    · exact ih charge member

-- Since its latest restart a test's run has dropped old requests, in a step of its own.
def Cleared (i test : Nat) (moments : List Moment) : Prop :=
  ∃ newer older w body, moments = newer ++ ⟨w, .advance i test (.clear body)⟩ :: older ∧
    ∀ m ∈ newer, m.clears test = false ∧ m.restarts test = false

theorem Cleared.cons (cleared : Cleared i test moments) (held : m.clears test = false)
    (going : m.restarts test = false) : Cleared i test (m :: moments) := by
  obtain ⟨newer, older, w, body, rfl, quiet⟩ := cleared
  refine ⟨m :: newer, older, w, body, rfl, fun k member => ?_⟩
  rcases List.mem_cons.mp member with rfl | later
  · exact ⟨held, going⟩
  · exact quiet k later

theorem Cleared.foreign (cleared : Cleared i test moments) (foreign : Foreign test m) : Cleared i test (m :: moments) :=
  cleared.cons (Moment.clears_own foreign.own) foreign.restarts

-- A run that began since a test was idle has dropped old requests since then.
theorem Path.cleared (reached : Reached history start) (idle : start.Idle test) (path : Path Allowed start moments s)
    (seat : s.threads[i]? = some (.run test watched p)) (live : p.Live) (settled : p.leftover = .nothing) :
    Cleared i test moments := by
  induction path generalizing watched p with
  | here => exact absurd live (idle _ _ (List.mem_of_getElem? seat))
  | @step moments s next deed path step allowed ih =>
    have before := path.reached reached
    cases step.became seat with
    | kept old apart => exact (ih old live settled).foreign (step.foreign_kept before old live apart)
    | begun => cases settled
    | @advanced _ _ q _ old did moved =>
      subst did
      have working : q.Live := live_of_moved moved
      cases q with
      | start body =>
        obtain ⟨-, rfl⟩ := Run.Progress.moved.inj moved
        cases settled
      | clear body => exact ⟨[], moments, s.world, body, rfl, fun m member => by cases member⟩
      | _ => exact (ih old working rfl).cons rfl rfl
    | heeded old did => exact (ih old live settled).foreign (step.foreign before (by simp [did]))
    | rested old did => exact (ih old live settled).foreign (step.foreign before (by simp [did]))

theorem Cleared.pool_kept (cleared : Cleared i test moments) : pool test (moments ++ history) = pool test moments := by
  obtain ⟨newer, older, w, body, rfl, -⟩ := cleared
  have quiet : Moment.quiets test ⟨w, .advance i test (.clear body)⟩ = true := by simp [Moment.quiets]
  rw [List.append_assoc, List.cons_append, pool, takeWhile_quiet quiet, pool, takeWhile_quiet quiet]

-- What is charged from a time on at which a test is idle was requested from then on.
theorem Path.closed (reached : Reached history start) (idle : start.Idle test) (path : Path Allowed start moments s) :
    charges test (moments ++ history) = charges test moments ++ charges test history := by
  induction path with
  | here => rfl
  | @step moments s next deed path step allowed ih =>
    rw [List.cons_append, charges, charges, ih]
    split
    · rename_i canceled
      obtain ⟨i, gate, deadline, waited, did, -, -⟩ := Moment.cancels_exact.mp canceled
      subst did
      obtain ⟨watched, p', seat, -, -⟩ := step.advanced
      have cleared := path.cleared reached idle seat trivial rfl
      rw [cleared.pool_kept, List.cons_append]
    · rfl

theorem Reached.path (reached : Reached history s) :
    ∃ start, Reached [] start ∧ start.threads = [] ∧ Path (fun _ _ => True) start history s := by
  induction reached with
  | fresh => exact ⟨_, .fresh, rfl, .here⟩
  | step earlier step ih =>
    obtain ⟨start, fresh, bare, path⟩ := ih
    exact ⟨start, fresh, bare, path.step step trivial⟩

-- A canceled wait was asked to end after its own run dropped old requests.
theorem canceled_requested {newer : List Moment} (reached : Reached (newer ++ m :: older) s)
    (canceled : m.cancels test = true) :
    ∃ i gate deadline waited between before w body, m.deed = .advance i test (.waiting gate deadline waited) ∧
      older = between ++ ⟨w, .advance i test (.clear body)⟩ :: before ∧
      (∀ k ∈ between, k.clears test = false ∧ k.restarts test = false) ∧
      ∃ k ∈ between, k.asksCancel test = true := by
  obtain ⟨found, left, earlier, step, same, -⟩ := reached.before
  obtain ⟨i, gate, deadline, waited, did, -, pending⟩ := Moment.cancels_exact.mp canceled
  rw [did] at step
  obtain ⟨watched, p', seat, -, -⟩ := step.advanced
  obtain ⟨start, fresh, bare, path⟩ := earlier.path
  have idle : start.Idle test := by
    intro watched p member
    rw [bare] at member
    cases member
  obtain ⟨between, before, w, body, whole, held⟩ := path.cleared fresh idle seat trivial rfl
  refine ⟨i, gate, deadline, waited, between, before, w, body, did, whole, held, ?_⟩
  rw [← same] at pending
  obtain ⟨k, member, asks⟩ := pending_requested earlier pending
  have quiet : Moment.quiets test ⟨w, .advance i test (.clear body)⟩ = true := by simp [Moment.quiets]
  rw [whole, takeWhile_quiet quiet] at member
  exact ⟨k, (List.takeWhile_prefix _).subset member, asks⟩

theorem canceled_exact {gate deadline : Nat} {waited : Duration}
    (seat : s.threads[i]? = some (.run test watched (.waiting gate deadline waited)))
    (step : Step s (.advance i test (.waiting gate deadline waited)) next) :
    (next.threads[i]? = some (.run test watched (.ended .canceled)) ↔
      Moment.cancels test ⟨s.world, .advance i test (.waiting gate deadline waited)⟩ = true) ∧
    (next.threads[i]? = some (.run test watched (.ended .canceled)) → next.world.pendingFor test = false) := by
  obtain ⟨p', taken, moves⟩ := step.goes seat
  rw [taken]
  rcases moves.polled with ⟨free, rfl, -⟩ | ⟨shut, pending, rfl, after⟩ | ⟨shut, quiet, late, rfl, -⟩
  · simp [Moment.cancels, free]
  · simp [Moment.cancels, shut, pending, after, World.pendingFor_clearCancel]
  · simp [Moment.cancels, quiet]

end Site

def World.flagged (w : World) (test : Nat) (flag : Bool) : World :=
  w.onTest test fun cell => { cell with cancelPending := flag }

-- Two worlds with nothing different but a cancel request for one test, if that.
structure World.Twin (test : Nat) (w v : World) : Prop where
  shared : v = { w with tests := v.tests }
  others : ∀ other, other ≠ test → v.view? other = w.view? other
  outcome : v.outcomeOf test = w.outcomeOf test

-- Both worlds at one time, with the same gates and the same written.
def Past.flag (test : Nat) (w : World) : Past := ⟨test, [], 0, 0, w.harvest.2, w.harvest.2⟩

namespace Past
variable {test : Nat} {w : World} {p q : Phase} {a b : Thread}

theorem Meets.same {ours theirs : Nat} (meets : (flag test w).Meets ours theirs) : theirs = ours :=
  (Nat.add_right_cancel meets).symm

theorem flag_phase (like : p.Like (flag test w) q) : q = p := by
  cases like with
  | same => rfl
  | waiting meets => rw [meets.same]

theorem flag_thread (like : a.Like (flag test w) b) : b = a := by
  cases like with
  | worker => rfl
  | run phases => rw [flag_phase phases]

theorem flag_seat {ours theirs : Option Thread} (seats : Option.Rel (Thread.Like (flag test w)) ours theirs) :
    theirs = ours := by
  cases seats with
  | none => rfl
  | some like => rw [flag_thread like]

theorem phase_flag (p : Phase) : p.Like (flag test w) p := by
  cases p with
  | waiting gate deadline waited => exact .waiting rfl
  | _ => exact .same (by simp)

theorem thread_flag (a : Thread) : a.Like (flag test w) a := by
  cases a with
  | worker left => exact .worker
  | run test watched p => exact .run (phase_flag p)

end Past

theorem Grown.same {α : Type} {before now now' : List α} (grown : Grown before before now now') : now' = now := by
  obtain ⟨more, rfl, rfl⟩ := grown
  rfl

namespace World
variable {test : Nat} {w v start : World} {left : Leftover}

theorem Like.twin (like : w.Like (.flag test start) .request v) : Twin test w v := by
  have agenda : v.agenda = w.agenda := by
    have timers : List.Forall₂ (fun a b => a = b) w.agenda v.agenda := by
      refine like.agenda.imp fun a b due => ?_
      cases a
      cases b
      simp only [Timer.mk.injEq]
      exact ⟨due.due.same.symm, due.owner.symm, due.action.symm⟩
    exact (List.forall₂_eq_eq_eq ▸ timers : w.agenda = v.agenda).symm
  have gates : v.gates = w.gates := by
    refine List.ext_getElem like.made fun gate ours theirs => ?_
    have same := like.gates gate (by simp [Past.Spent, Past.flag, Site.made])
    simpa [isOpen, List.getD_eq_getElem?_getD, List.getElem?_eq_getElem, ours, theirs] using same
  have known : ((Past.flag test start).leftoverFor .request test).Within .request := by
    unfold Past.leftoverFor
    split <;> decide
  refine ⟨?_, fun other apart => like.viewed (if_neg apart), like.outcomeOf known⟩
  · obtain ⟨_, _, _, _, _, _, _, _, _, _, _, _, _, _⟩ := v
    simp only [World.mk.injEq]
    exact ⟨like.device, like.sessionFaults, trivial, like.channels, like.sessions, like.attempts, gates, like.followUps,
      agenda, like.clock.same, like.signals, like.logs.same, like.findings.same, like.records.same⟩

theorem flagged_like (w : World) (test : Nat) (flag : Bool) : w.Like (.flag test w) .request (w.flagged test flag) := by
  refine ⟨rfl, rfl, rfl, rfl, rfl, rfl, rfl, fun other => ?_, rfl, fun _ _ => rfl, rfl, ?_, .here, .here, .here⟩
  · rw [flagged, test?_onTest]
    generalize w.test? other = ours
    by_cases own : test = other
    · subst own
      rw [if_pos rfl]
      cases ours with
      | none => exact .none
      | some cell =>
        refine .some ⟨rfl, rfl, fun _ => rfl, fun _ => rfl, fun known => absurd known ?_⟩
        simp [Past.leftoverFor, Past.flag, Leftover.rank]
    · rw [if_neg own]
      cases ours with
      | none => exact .none
      | some cell => exact .some .refl
  · exact List.forall₂_same.mpr fun timer _ => ⟨rfl, rfl, rfl⟩

end World

namespace Site
variable {Allowed : Site → Deed → Prop} {history moments moments' : List Moment} {s later : Site}
  {test i : Nat} {watched : Bool} {p : Phase} {flag : Bool}

def flagged (s : Site) (test : Nat) (flag : Bool) : Site := ⟨s.world.flagged test flag, s.threads⟩

-- The threads of one crew, but for the runs of a test that are over.
def Same (s : Site) (test : Nat) (i j : Nat) : Prop := i = j ∧ ∀ watched p, s.threads[i]? ≠ some (.run test watched p)

theorem flagged_alike (idle : s.Idle test) (flag : Bool) :
    s.Like (.flag test s.world) (s.Same test) .request history (s.flagged test flag) := by
  refine ⟨World.flagged_like s.world test flag, ?_, ?_, ?_⟩
  · refine ⟨fun {i j} pair => ?_, fun {i j i' j'} one two => ?_, fun k => ⟨rfl, by simp⟩, fun {i thread} seat => ?_,
      fun {i thread} seat => ?_⟩
    · obtain ⟨rfl, -⟩ := pair
      change Option.Rel _ s.threads[i]? s.threads[i]?
      cases s.threads[i]? with
      | none => exact .none
      | some thread => exact .some (Past.thread_flag thread)
    · rw [one.1, two.1]
    all_goals
      by_cases own : ∃ watched p, s.threads[i]? = some (.run test watched p)
      · obtain ⟨watched, p, there⟩ := own
        cases seat.symm.trans there
        exact .inl (idle watched p (List.mem_of_getElem? there))
      · exact .inr ⟨i, rfl, fun watched p there => own ⟨watched, p, there⟩⟩
  · intro i j watched p pair seat
    exact absurd seat (pair.2 watched p)
  · intro known gate spent
    cases spent

theorem same_deed {deed deed' : Deed} (like : deed.Like (.flag test s.world) (s.Same test) deed') : deed' = deed := by
  cases like with
  | same free => rfl
  | work pair => rw [pair.1]
  | advance pair phases => rw [pair.1, Past.flag_phase phases]
  | heed pair => rw [pair.1]
  | rest pair => rw [pair.1]

theorem same_deeds (alike : List.Forall₂ (Moment.Like (.flag test s.world) (s.Same test)) moments moments') :
    moments'.map (·.deed) = moments.map (·.deed) := by
  induction alike with
  | nil => rfl
  | cons like alike ih => rw [List.map_cons, List.map_cons, ih, same_deed like.deeds]

-- Whether a request is pending while nobody runs a test makes no difference: the same
-- can happen with the same outcomes, and as soon as a later run of the test has dropped
-- old requests there is nothing different at all.
structure Indifferent (test : Nat) (s : Site) (flag : Bool) : Prop where
  schedules : ∀ {Allowed : Site → Deed → Prop} {moments : List Moment} {later : Site}, Path Allowed s moments later →
    ∃ moments' later', Path (fun _ _ => True) (s.flagged test flag) moments' later' ∧
      moments'.map (·.deed) = moments.map (·.deed) ∧ later.world.Twin test later'.world ∧
      ∀ i : Nat, (∀ watched p, s.threads[i]? ≠ some (.run test watched p)) → later'.threads[i]? = later.threads[i]? ∧
        ∀ watched p, later.threads[i]? = some (.run test watched p) → p.leftover = .nothing →
          later'.world.view? test = later.world.view? test
  alone : ∀ {watched : Bool} {body : List BodyStep}, test < s.world.tests.length →
    ((s.world.flagged test flag).runTest test watched body).result = (s.world.runTest test watched body).result ∧
    ((s.world.flagged test flag).runTest test watched body).event = (s.world.runTest test watched body).event ∧
    (s.world.runTest test watched body).world.Twin test ((s.world.flagged test flag).runTest test watched body).world ∧
    ((s.world.flagged test flag).runTest test watched body).world.view? test =
      (s.world.runTest test watched body).world.view? test

theorem idle_indifferent (reached : Reached history s) (idle : s.Idle test) (flag : Bool) :
    Indifferent test s flag := by
  have alike : s.Like (.flag test s.world) (s.Same test) .request history (s.flagged test flag) :=
    flagged_alike idle flag
  refine ⟨fun {Allowed moments later} path => ?_, fun {watched body} known => ?_⟩
  · have here : Reached (history ++ []) s := by rwa [List.append_nil]
    obtain ⟨moments', later', left, path', deeds, within, after⟩ := path.like here (.inl (by decide)) alike
    refine ⟨moments', later', path', same_deeds deeds, (after.worlds.weaken within).twin, fun i other => ⟨?_, ?_⟩⟩
    · exact Past.flag_seat (after.crew.seats ⟨rfl, other⟩)
    · intro watched p seat settled
      have bound := after.own ⟨rfl, other⟩ seat
      rw [settled] at bound
      obtain rfl := Leftover.within_nothing.mp bound
      exact after.worlds.viewed (ite_self _)
  · have begins : Reached ((⟨s.world, .begin test⟩ :: history) ++ []) (s.begun test watched body) := by
      rw [List.append_nil]
      exact reached.step (.begin known idle)
    have ends : Run.Finished.Like (.flag test s.world) (s.world.runTest test watched body)
        ((s.world.flagged test flag).runTest test watched body) :=
      drive_like begins List.getElem?_concat_length alike.worlds (.same (by simp))
        (by simp [Phase.leftover, Leftover.rank])
        (alike.renewed.later [_])
    exact ⟨ends.result, ends.event, (ends.worlds.weaken (by decide)).twin, ends.worlds.viewed (ite_self _)⟩

-- What becomes of the cancel requests for a test, in all its runs.
structure Accounted (test : Nat) (history : List Moment) (s : Site) : Prop where
  pending : ∀ cell, s.world.test? test = some cell → (cell.cancelPending = true ↔ Requested test history)
  canceled : ∀ {i : Nat} {watched : Bool} {gate deadline : Nat} {waited : Duration} {next : Site},
    s.threads[i]? = some (.run test watched (.waiting gate deadline waited)) →
    Step s (.advance i test (.waiting gate deadline waited)) next →
      (next.threads[i]? = some (.run test watched (.ended .canceled)) ↔
        Moment.cancels test ⟨s.world, .advance i test (.waiting gate deadline waited)⟩ = true) ∧
      (next.threads[i]? = some (.run test watched (.ended .canceled)) → next.world.pendingFor test = false)
  requested : ∀ newer m older, history = newer ++ m :: older → m.cancels test = true →
    ∃ i gate deadline waited between before w body, m.deed = .advance i test (.waiting gate deadline waited) ∧
      older = between ++ ⟨w, .advance i test (.clear body)⟩ :: before ∧
      (∀ k ∈ between, k.clears test = false ∧ k.restarts test = false) ∧
      ∃ k ∈ between, k.asksCancel test = true
  charged : (charges test history).length = history.countP (·.cancels test) ∧
    (∀ charge ∈ charges test history, charge ≠ []) ∧
    (charges test history).flatten.Sublist (history.filter (·.asksCancel test))
  bounded : history.countP (·.cancels test) ≤ history.countP (·.asksCancel test)
  closed : s.Idle test → ∀ {Allowed : Site → Deed → Prop} {moments : List Moment} {later : Site},
    Path Allowed s moments later → charges test (moments ++ history) = charges test moments ++ charges test history
  indifferent : s.Idle test → ∀ flag, Indifferent test s flag

-- Requests that are pending together are used up together, by one wait of the run in
-- which they were made. What is asked for between runs is dropped.
theorem cancel_accounting (reached : Reached history s) : Accounted test history s := by
  have once : (charges test history).flatten.Sublist (history.filter (·.asksCancel test)) :=
    (List.sublist_append_right _ _).trans charged_sublist
  refine ⟨fun cell found => reached_pending reached found, fun seat step => canceled_exact seat step, ?_,
    ⟨charges_length, charged_some reached, once⟩, ?_, fun idle _ _ _ path => path.closed reached idle,
    idle_indifferent reached⟩
  · rintro newer m older rfl canceled
    exact canceled_requested reached canceled
  · calc history.countP (·.cancels test) = (charges test history).length := charges_length.symm
      _ ≤ (charges test history).flatten.length := length_le_flatten (charged_some reached)
      _ ≤ (history.filter (·.asksCancel test)).length := once.length_le
      _ = history.countP (·.asksCancel test) := List.countP_eq_length_filter.symm

-- One request before the run, which is dropped, and two while it waits, which are used
-- up together.
theorem cancel_accounting_together : ∃ history s, Reached history s ∧
    history.countP (·.asksCancel 0) = 3 ∧ history.countP (·.cancels 0) = 1 ∧
    (charges 0 history).map (·.length) = [2] ∧ s.world.pendingFor 0 = false ∧ Accounted 0 history s := by
  have fresh := @Reached.fresh ⟨"device", "1.0"⟩ [] [("patient", .ofSeconds 1)]
  have hired := fresh.step (@Step.spawn _ 0 (.cancel none))
  have dropped := hired.step (.work (i := 0) rfl)
  have idle : ∀ watched p, .run 0 watched p ∈ [Thread.worker []] → ¬ p.Live := by
    intro watched p member
    cases List.mem_singleton.mp member
  have begun := dropped.step (@Step.begin _ 0 false [.prepare true false] (by decide) idle)
  have waits := (progress_path (i := 1) 8 rfl).reached begun
  have hired := waits.step (@Step.spawn _ 0 (.cancel none))
  have asked := hired.step (.work (i := 2) rfl)
  have hired := asked.step (@Step.spawn _ 0 (.cancel none))
  have asked := hired.step (.work (i := 3) rfl)
  have canceled := asked.step (.advance (i := 1) rfl rfl)
  exact ⟨_, _, canceled, rfl, rfl, rfl, rfl, cancel_accounting canceled⟩

end Site
end TrialBench
