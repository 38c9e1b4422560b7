import TrialBench.Proofs.Counters
namespace TrialBench

namespace Moment
variable {m : Moment} {test : Nat} {cell : TestCell}

-- The verdict that somebody noted on a test through a handle.
def handed (test : Nat) (m : Moment) : Option Mark :=
  match m.deed with
  | .work _ op | .advance _ _ (.body (op :: _) _) => op.markOn test
  | .mark named verdict => if named = test then some verdict else none
  | _ => none

-- A cancel request that somebody made through a handle.
def bids (test : Nat) (m : Moment) : Bool :=
  match m.deed with
  | .work _ op | .advance _ _ (.body (op :: _) _) => op.asksCancel test
  | _ => false

-- The runner does nothing for the test here.
def Elsewhere (test : Nat) (m : Moment) : Prop :=
  match m.deed with
  | .advance _ own _ | .heed _ own _ => own ≠ test
  | _ => True

theorem Elsewhere.uninvoked {body : List BodyStep} (elsewhere : m.Elsewhere test) : m.invokes? ≠ some (test, body) := by
  obtain ⟨w, deed⟩ := m
  intro called
  cases deed with
  | advance thread own p =>
    cases p with
    | clear left =>
      cases called
      exact elsewhere rfl
    | _ => cases called
  | _ => cases called

section
attribute [local simp] handed bids Elsewhere restarts markOn Phase.notedOn Phase.failureOn quiets asksCancel

theorem Elsewhere.spares (elsewhere : m.Elsewhere test) :
    m.restarts test = false ∧ m.quiets test = false ∧ m.markOn test = m.handed test ∧
      m.asksCancel test = m.bids test := by
  obtain ⟨w, deed⟩ := m
  cases deed with
  | advance thread own p =>
    have apart : own ≠ test := elsewhere
    rcases p with _ | _ | ⟨_ | ⟨op, ops⟩, _ | ⟨step, rest⟩⟩ | _ | _ | how | _ | _ | _ <;> simp [apart]
    · cases step <;> simp
    · cases how <;> simp
  | heed thread own event =>
    have apart : own ≠ test := elsewhere
    simp [apart]
  | _ => simp

end
end Moment

-- What became of a test that was left alone but for what came through its handles.
structure TestCell.Handled (test : Nat) (moments : List Moment) (before after : TestCell) : Prop where
  runs : after.runs = before.runs
  outcome : after.outcome = before.outcome.markAll (moments.reverse.filterMap (·.handed test))
  cancel : after.cancelPending = (before.cancelPending || moments.any (·.bids test))

-- The test that a suite run is at after it was announced.
def Stage.served? : Stage → Option Nat
  | .starting index _ _ | .running _ index _ _ | .closing _ index _ _ => some index
  | _ => none

-- Where a suite run stands when it has just told of something.
def Stage.Telling : Stage → Prop
  | .choosing _ _ | .starting _ _ _ | .considering _ _ _ | .ended => True
  | _ => False

namespace Scene
variable {plan : SuitePlan} {scripts : List Script} {start c next : Scene} {deed : Deed} {done : Option Deed}
  {moments rest : List Moment} {site : Site} {test call : Nat} {event : SuiteEvent} {cell : TestCell}

theorem Path.handled (path : Path plan scripts start moments c) (elsewhere : ∀ m ∈ moments, m.Elsewhere test)
    (found : start.site.world.test? test = some cell) :
    ∃ after, c.site.world.test? test = some after ∧ cell.Handled test moments after ∧
      ((∀ m ∈ moments, m.timeoutFor test = none) → after.timeout = cell.timeout) := by
  induction path with
  | here => exact ⟨cell, found, ⟨rfl, rfl, by simp⟩, fun _ => rfl⟩
  | @act moments c next deed path turn ih =>
    obtain ⟨here, earlier⟩ := List.forall_mem_cons.mp elsewhere
    obtain ⟨after, found', handled, timed⟩ := ih earlier
    obtain ⟨unstarted, uncleared, marked, asked⟩ := here.spares
    have touched : Moment.touch test ⟨c.site.world, deed⟩ after = _ := Moment.touch_told
    rw [unstarted, uncleared, marked, asked] at touched
    refine ⟨Moment.touch test ⟨c.site.world, deed⟩ after, by rw [turn.step.effect.tests, found']; rfl, ?_, ?_⟩
    · rw [touched]
      refine ⟨handled.runs, ?_, ?_⟩
      · have latest : [(⟨c.site.world, deed⟩ : Moment)].filterMap (·.handed test) =
            (Moment.handed test ⟨c.site.world, deed⟩).toList := by
          cases given : Moment.handed test ⟨c.site.world, deed⟩ <;> simp [given]
        rw [List.reverse_cons, List.filterMap_append, latest, Outcome.markAll_append, ← handled.outcome]
        rfl
      · simp [handled.cancel, Bool.or_assoc, Bool.or_comm]
    · intro untimed
      obtain ⟨now, before⟩ := List.forall_mem_cons.mp untimed
      rw [touched, now]
      exact timed before
  | pass path turn ih =>
    rw [turn.still]
    exact ih elsewhere

theorem Turn.told_once (turn : Turn plan scripts c done next) :
    next.told = c.told ∨ ∃ event, next.told = c.told ++ [event] := by
  cases turn with
  | opens | skips | introduces | concludes | cancels | finishes => exact .inr ⟨_, rfl⟩
  | _ => exact .inl rfl

-- A suite run up to where it told of an event, which is the end of it if the host returns
-- an error.
structure CutShort (plan : SuitePlan) (scripts : List Script) (start : Scene) (moments : List Moment) (c : Scene)
    (call : Nat) (shared : List Moment) (event : SuiteEvent) (mid : Scene) : Prop where
  halted : Halted plan scripts start shared event mid
  later : ∃ rest, moments = rest ++ shared ∧ Path plan scripts mid rest c
  told : mid.told = c.told.take (call + 1)

theorem CutShort.of {shared rest : List Moment} {mid : Scene} (halted : Halted plan scripts start shared event mid)
    (later : Path plan scripts mid rest c) (place : mid.told.length = call + 1) :
    CutShort plan scripts start (rest ++ shared) c call shared event mid := by
  refine ⟨halted, ⟨rest, rfl, later⟩, ?_⟩
  rw [← place]
  exact List.prefix_iff_eq_take.mp later.told_grows

theorem Turn.cut (turn : Turn plan scripts c done next) (path : Path plan scripts start moments c)
    (earlier : call < c.told.length → ∃ shared event mid, CutShort plan scripts start moments c call shared event mid)
    (place : call < next.told.length) :
    ∃ shared event mid, CutShort plan scripts start ((done.map (Moment.mk c.site.world)).toList ++ moments) next call
      shared event mid := by
  rcases Nat.lt_or_ge call c.told.length with before | after
  · obtain ⟨shared, event, mid, halted, ⟨rest, rfl, later⟩, told⟩ := earlier before
    obtain ⟨events, grown⟩ := turn.grown
    refine ⟨shared, event, mid, halted, ⟨_, (List.append_assoc ..).symm, later.trans turn.path⟩, ?_⟩
    rw [told, grown, List.take_append_of_le_length before]
  · rcases turn.told_once with same | ⟨event, told⟩
    · rw [same] at place
      omega
    · have whole : next.told.length = call + 1 := by
        rw [told, List.length_append, List.length_singleton] at place ⊢
        omega
      have cut : CutShort plan scripts start ([] ++ _) next call _ event next :=
        .of ((turn.halts told).after path) .here whole
      exact ⟨_, event, next, cut⟩

theorem Path.cut (path : Path plan scripts start moments c) (untold : start.told = []) (place : call < c.told.length) :
    ∃ shared event mid, CutShort plan scripts start moments c call shared event mid := by
  induction path with
  | here =>
    rw [untold] at place
    cases place
  | act path turn ih | pass path turn ih => exact turn.cut path ih place

def Announced (test : Nat) (c : Scene) : Prop := ∃ name, .testStarted name test ∈ c.told

-- The runner turns to a test only after it was announced, but for the deadline, which the
-- test gets just before.
structure Serving (moments : List Moment) (c : Scene) : Prop where
  current : ∀ test, c.stage.served? = some test → c.Announced test
  served : ∀ m ∈ moments, ∀ test, ¬ m.Elsewhere test → c.Announced test
  timed : ∀ m ∈ moments, ∀ test, m.timeoutFor test ≠ none →
    c.Announced test ∨ ∃ script left, c.stage = .introducing test script left

theorem Turn.announced (turn : Turn plan scripts c done next) (announced : c.Announced test) : next.Announced test := by
  obtain ⟨events, grown⟩ := turn.grown
  obtain ⟨name, member⟩ := announced
  exact ⟨name, by rw [grown]; exact List.mem_append_left _ member⟩

theorem Turn.introduced {script : Script} {left : List Script} (turn : Turn plan scripts c done next)
    (stands : c.stage = .introducing test script left) :
    next.Announced test ∨ ∃ script left, next.stage = .introducing test script left := by
  cases turn with
  | aside => exact .inr ⟨script, left, stands⟩
  | introduces here found =>
    cases stands.symm.trans here
    exact .inl ⟨_, List.mem_concat_self⟩
  | opens here | skips here | retimes here | begins here | polls here | heeds here | collects here | closes here
  | passes here | concludes here | goesOn here | cancels here | finishes here => cases stands.symm.trans here

theorem Turn.serves (turn : Turn plan scripts c done next)
    (current : ∀ test, c.stage.served? = some test → c.Announced test) :
    ∀ test, next.stage.served? = some test → next.Announced test := by
  intro test serves
  cases turn with
  | aside => exact current test serves
  | introduces =>
    cases serves
    exact ⟨_, List.mem_concat_self⟩
  | begins stands | collects stands | closes stands | passes stands =>
    apply current
    rw [stands]
    exact serves
  | polls stands | heeds stands => exact current test serves
  | _ => cases serves

-- What the runner does in a turn it does for the test that it runs, or it sets the deadline
-- of the next one.
theorem Turn.elsewhere {w : World} (turn : Turn plan scripts c (some deed) next) :
    Moment.Elsewhere test ⟨w, deed⟩ ∨ ∃ thread script left, c.stage = .running thread test script left := by
  cases turn with
  | aside step outside => cases deed <;> first | exact outside.elim | exact .inl trivial
  | retimes | introduces | begins | cancels | finishes => exact .inl trivial
  | closes stands moved step own => rcases own with rfl | rfl <;> exact .inl trivial
  | @polls thread index script left deed site stands step own =>
    rcases own with ⟨p, rfl⟩ | rfl
    · by_cases same : index = test
      · exact .inr ⟨thread, script, left, same ▸ stands⟩
      · exact .inl same
    · exact .inl trivial
  | @heeds thread index script left event site stands step =>
    by_cases same : index = test
    · exact .inr ⟨thread, script, left, same ▸ stands⟩
    · exact .inl same

theorem Turn.untimed {w : World} (turn : Turn plan scripts c (some deed) next) :
    Moment.timeoutFor test ⟨w, deed⟩ = none ∨ ∃ script left, next.stage = .introducing test script left := by
  cases turn with
  | aside step outside => cases deed <;> first | exact outside.elim | exact .inl rfl
  | @retimes index script left site stands going step =>
    by_cases same : index = test
    · subst same
      exact .inr ⟨script, left, rfl⟩
    · exact .inl (by simp [Moment.timeoutFor, same])
  | introduces | begins | heeds | cancels | finishes => exact .inl rfl
  | closes stands moved step own => rcases own with rfl | rfl <;> exact .inl rfl
  | polls stands step own => rcases own with ⟨p, rfl⟩ | rfl <;> exact .inl rfl

theorem Path.serving (path : Path plan scripts start moments c) (begins : start.stage = .opening) :
    Serving moments c := by
  induction path with
  | here =>
    refine ⟨fun test serves => ?_, fun m member => (by cases member), fun m member => (by cases member)⟩
    rw [begins] at serves
    cases serves
  | @act moments c next deed path turn ih =>
    refine ⟨turn.serves ih.current, ?_, ?_⟩
    · intro m member test here
      rcases List.mem_cons.mp member with rfl | earlier
      · obtain ⟨thread, script, left, stands⟩ := turn.elsewhere.resolve_left here
        exact turn.announced (ih.current test (by rw [stands]; rfl))
      · exact turn.announced (ih.served m earlier test here)
    · intro m member test timed
      rcases List.mem_cons.mp member with rfl | earlier
      · exact .inr (turn.untimed.resolve_left timed)
      · rcases ih.timed m earlier test timed with announced | ⟨script, left, stands⟩
        · exact .inl (turn.announced announced)
        · exact turn.introduced stands
  | pass path turn ih =>
    refine ⟨turn.serves ih.current, fun m member test here => turn.announced (ih.served m member test here), ?_⟩
    intro m member test timed
    rcases ih.timed m member test timed with announced | ⟨script, left, stands⟩
    · exact .inl (turn.announced announced)
    · exact turn.introduced stands

-- A test that has not begun was not served.
theorem Path.before_elsewhere (path : Path plan scripts start moments c) (before : c.stage.Before test) :
    ∀ m ∈ moments, m.Elsewhere test := by
  induction path with
  | here => exact fun m member => by cases member
  | act path turn ih =>
    refine List.forall_mem_cons.mpr ⟨?_, ih (turn.before before)⟩
    refine turn.elsewhere.resolve_right ?_
    rintro ⟨thread, script, left, stands⟩
    have earlier := turn.before before
    rw [stands] at earlier
    exact Nat.lt_irrefl test earlier
  | pass path turn ih => exact ih (turn.before before)

theorem told_apart {told : List SuiteEvent} : told ≠ told ++ [event] := by
  intro same
  have longer := congrArg List.length same
  simp at longer

theorem Turn.telling (turn : Turn plan scripts c done next) (told : next.told = c.told ++ [event]) :
    done.bind (fun deed => Moment.invokes? ⟨c.site.world, deed⟩) = none ∧ next.stage.Telling ∧
      ∀ name test, event = .testStarted name test → next.stage.Before test := by
  have same {first : SuiteEvent} (told : c.told ++ [first] = c.told ++ [event]) : first = event := by
    simpa using told
  cases turn with
  | opens | skips | concludes | cancels | finishes =>
    refine ⟨rfl, trivial, fun name test starts => ?_⟩
    rw [← same told] at starts
    cases starts
  | introduces =>
    refine ⟨rfl, trivial, fun name test starts => ?_⟩
    rw [← same told] at starts
    cases starts
    exact Nat.le_refl _
  | _ => exact absurd told told_apart

theorem Halted.stands (halted : Halted plan scripts start moments event c) :
    c.stage.Telling ∧ ∀ name test, event = .testStarted name test → c.stage.Before test := by
  induction halted with
  | act path turn told | pass path turn told => exact (turn.telling told).2
  | aside halted step outside ih => exact ih

theorem Halted.getLast (halted : Halted plan scripts start moments event c) : c.told.getLast? = some event := by
  induction halted with
  | act path turn told | pass path turn told => rw [told, List.getLast?_concat]
  | aside halted step outside ih => exact ih

theorem Turn.beats_telling (turn : Turn plan scripts c done next) (told : next.told = c.told ++ [event]) :
    ∃ lines, c.beats done next = lines ++ [.told event] := by
  rw [beats_of rfl rfl told, (turn.telling told).1]
  exact ⟨_, rfl⟩

theorem Turn.chronicle (turn : Turn plan scripts c done next) (told : next.told = c.told ++ [event])
    (path : Path plan scripts start moments c) :
    ∃ before, Chronicle plan scripts start ((done.map (Moment.mk c.site.world)).toList ++ moments)
      (before ++ [.told event]) next := by
  obtain ⟨seen, chronicle⟩ := path.chronicle
  obtain ⟨lines, ends⟩ := turn.beats_telling told
  refine ⟨seen ++ lines, ?_⟩
  rw [List.append_assoc, ← ends]
  cases done with
  | none => exact chronicle.pass turn
  | some deed =>
    apply chronicle.act turn
    apply turn.own.resolve_left
    rintro ⟨step, outside, same⟩
    rw [same] at told
    exact told_apart told

-- The event that a run was stopped at is the last that is seen of it.
theorem Halted.chronicle (halted : Halted plan scripts start moments event c) :
    ∃ before, Chronicle plan scripts start moments (before ++ [.told event]) c := by
  induction halted with
  | act path turn told | pass path turn told => exact turn.chronicle told path
  | aside halted step outside ih =>
    obtain ⟨before, chronicle⟩ := ih
    exact ⟨before, chronicle.aside step outside⟩

variable {bench : Bench} {outcomes : List Outcome} {told : List SuiteEvent} {seen more : List Beat} {index : Nat}
  {left : List Script} {stats : Stats}

-- When a suite run tells of something, the bodies that were invoked are those of the tests
-- whose end was told, in their order.
def Invokes (bench : Bench) (told : List SuiteEvent) (calls : List (Nat × List BodyStep)) : Prop :=
  calls = (List.range (told.filterMap SuiteEvent.finish?).length).map fun index => (index, bench.nextBody index)

theorem Finished.invokes {calls : List (Nat × List BodyStep)} (finished : Finished bench told outcomes)
    (ran : calls = (List.range outcomes.length).map fun index => (index, bench.nextBody index)) :
    Invokes bench told calls := by
  rw [Invokes, finished.2, List.length_map, List.length_range, ran]

theorem Played.invokes (played : Played bench plan index left more seen stats outcomes)
    (within : index ≤ bench.scripts.length) (unfinished : Beat.parts SuiteEvent.finish? more = [])
    (uninvoked : more.filterMap Beat.invoked? = []) :
    Invokes bench (seen.filterMap Beat.told?) (seen.filterMap Beat.invoked?) := by
  apply (played.finished within unfinished).invokes
  rw [played.seen, List.filterMap_append, uninvoked, List.append_nil]
  exact rounds_invoked (played.count ▸ within)

theorem Seen.invokes {stage : Stage} (seen_ : Seen bench plan seen c stage) (telling : stage.Telling) :
    Invokes bench (seen.filterMap Beat.told?) (seen.filterMap Beat.invoked?) := by
  cases seen_ with
  | opening | introducing | pending | invoked | closing => exact telling.elim
  | going played within => exact played.invokes within rfl rfl
  | starting played => exact played.invokes (Nat.le_of_lt (Bench.at_drop played.rest).2.2) rfl rfl
  | considering played within => exact played.invokes within rfl rfl
  | stopped held some_ early rest told =>
    apply (Finished.skipping (Nat.le_of_lt early) told).invokes
    rw [told, List.filterMap_append, skipping_invoked, List.append_nil]
    exact rounds_invoked (Nat.le_of_lt early)
  | ended within some_ held told =>
    apply (Finished.score within told).invokes
    rw [told]
    exact score_invoked within

-- What is left of a suite run that was stopped when it told of an event. Nothing was done in
-- it that is not done before that event in any run that goes on from here.
structure BrokenOff (bench : Bench) (plan : SuitePlan) (start : Scene) (moments : List Moment) (event : SuiteEvent)
    (c : Scene) : Prop where
  last : c.told.getLast? = some event
  invoked : Invokes bench c.told (moments.reverse.filterMap Moment.invokes?)
  before : ∃ before, before.filterMap Beat.invoked? = moments.reverse.filterMap Moment.invokes? ∧
    Chronicle plan bench.scripts start moments (before ++ [.told event]) c ∧
    ∀ rest last, Path plan bench.scripts c rest last → ∃ later,
      Chronicle plan bench.scripts start (rest ++ moments) (before ++ .told event :: later) last
  unbegun : ∀ test cell, bench.world.test? test = some cell →
    (¬ c.Announced test ∨ ∃ name, event = .testStarted name test) →
    (∀ body, (test, body) ∉ moments.reverse.filterMap Moment.invokes?) ∧
    ∃ after, c.site.world.test? test = some after ∧ cell.Handled test moments after ∧
      (¬ c.Announced test → after.timeout = cell.timeout)

theorem Halted.brokenOff (halted : Halted plan scripts (opening site scripts) moments event c)
    (idle : ∀ test, site.Idle test) :
    BrokenOff ⟨scripts, site.world⟩ plan (opening site scripts) moments event c := by
  obtain ⟨telling, starts⟩ := halted.stands
  obtain ⟨before, chronicle⟩ := halted.chronicle
  have calls := chronicle.calls
  have serving := halted.path.serving rfl
  refine ⟨halted.getLast, ?_, ⟨before, ?_, chronicle, ?_⟩, ?_⟩
  · rw [← chronicle.events rfl, ← calls]
    exact (chronicle.shows idle).invokes telling
  · rw [← calls, List.filterMap_append]
    exact (List.append_nil _).symm
  · intro rest last path
    obtain ⟨later, longer⟩ := chronicle.follow path
    exact ⟨later, by rwa [List.append_assoc] at longer⟩
  · intro test cell found unbegun
    have elsewhere : ∀ m ∈ moments, m.Elsewhere test := by
      rcases unbegun with silent | ⟨name, rfl⟩
      · intro m member
        by_contra here
        exact silent (serving.served m member test here)
      · exact halted.path.before_elsewhere (starts name test rfl)
    obtain ⟨after, found', handled, timed⟩ := halted.path.handled elsewhere found
    refine ⟨fun body member => ?_, after, found', handled, fun silent => timed fun m member => ?_⟩
    · obtain ⟨m, member, called⟩ := List.mem_filterMap.mp member
      exact (elsewhere m (List.mem_reverse.mp member)).uninvoked called
    · by_contra changed
      rcases serving.timed m member test changed with announced | ⟨script, left, stands⟩
      · exact silent announced
      · rw [stands] at telling
        exact telling

-- Where the first error of a host is among its answers.
theorem first_error {fresh more : List (Option ErrorChain)} {error found : ErrorChain}
    (silent : ∀ answer ∈ fresh, answer = none) (answer : (fresh ++ some error :: more)[call]? = some (some found))
    (earlier : ∀ before < call, (fresh ++ some error :: more)[before]? = some none) :
    call = fresh.length ∧ found = error := by
  rcases Nat.lt_trichotomy call fresh.length with early | rfl | late
  · rw [List.getElem?_append_left early] at answer
    cases silent _ (List.mem_of_getElem? answer)
  · rw [List.getElem?_append_right (Nat.le_refl _), Nat.sub_self] at answer
    cases answer
    exact ⟨rfl, rfl⟩
  · have passed := earlier fresh.length late
    rw [List.getElem?_append_right (Nat.le_refl _), Nat.sub_self] at passed
    cases passed

variable {σ : Type}

-- A run of the program beside the run of the same program with the lenient host: it is the
-- same run, or as much of it as there was up to the first error.
structure Replied (plan : SuitePlan) (host : Host σ) (scripts : List Script) (site : Site) (heard : σ)
    (moments : List Moment) (last : Scene) (answers : List (Option ErrorChain)) : Prop where
  path : Path plan scripts (opening site scripts) moments last
  ended : last.stage = .ended
  count : answers.length = last.told.length
  finished : ∃ heard', Suite.execute plan host.lenient ⟨scripts, site.world⟩ (heard, []) =
      (last.state (heard', answers), .finished last.stats) ∧
    ((∀ answer ∈ answers, answer = none) →
      Suite.execute plan host ⟨scripts, site.world⟩ heard = (last.state heard', .finished last.stats))
  stopped : ∀ call error, answers[call]? = some (some error) → (∀ earlier < call, answers[earlier]? = some none) →
    ∃ shared event mid stood, CutShort plan scripts (opening site scripts) moments last call shared event mid ∧
      Suite.execute plan host ⟨scripts, site.world⟩ heard = (mid.state stood, .stopped error)

theorem execute_replied {host : Host σ} {calm : σ → Prop} {heard : σ} (acting : host.Acting calm)
    (idle : ∀ test, site.Idle test) (known : scripts.length ≤ site.world.tests.length)
    (distinct : Names.check (scripts.map (·.name)) = .ok ()) (kept : calm heard) :
    ∃ moments last answers, Replied plan host scripts site heard moments last answers := by
  have leads : Leads plan scripts host _ _ _ _ _ _ := execute_leads acting.keeps idle known kept
  have ran {τ : Type} {host : Host τ} {heard : τ} {stats : Stats} {s : SuiteState τ}
      (done : Suite.runAll plan host scripts (Suite.opening ⟨scripts, site.world⟩ heard) = .ok stats s) :
      Suite.execute plan host ⟨scripts, site.world⟩ heard = (s, .finished stats) := by
    unfold Suite.execute Bench.names
    simp only [distinct, done]
  generalize strict : Suite.runAll plan host scripts _ = result at leads
  generalize lenient : Suite.runAll plan host.lenient scripts _ = other at leads
  cases leads with
  | @goes moments last _ heard' fresh path kept stands silent count =>
    obtain ⟨ended, rfl⟩ := stands
    refine ⟨moments, last, fresh, path, ended, ?_, ⟨heard', ran lenient, fun _ => ran strict⟩, ?_⟩
    · rw [count]
      exact (Nat.zero_add _).symm
    · intro call error answer
      cases silent _ (List.mem_of_getElem? answer)
  | @stops shared rest mid last _ event error fresh more stood heard' halted later kept stands silent place count =>
    obtain ⟨ended, rfl⟩ := stands
    have begins : (opening site scripts).told.length = 0 := rfl
    have spoke : some error ∈ fresh ++ some error :: more := List.mem_append_right _ List.mem_cons_self
    refine ⟨rest ++ shared, last, fresh ++ some error :: more, halted.path.trans later, ended, ?_,
      ⟨heard', ran lenient, fun none_ => absurd (none_ _ spoke) (by simp)⟩, ?_⟩
    · rw [count, place, begins, List.length_append, List.length_cons]
      omega
    · intro call found answer earlier
      obtain ⟨rfl, rfl⟩ := first_error silent answer earlier
      refine ⟨shared, event, mid, stood, .of halted later (by rw [place, begins, Nat.zero_add]), ?_⟩
      unfold Suite.execute Bench.names
      simp only [distinct, strict]

-- An error of the host stops a suite run at once: what was told and done is what any run
-- that goes on has told and done up to there, whoever acts in between. That is so at each
-- event of a run, and it is what the program does when its host returns an error.
theorem host_error_stops (idle : ∀ test, site.Idle test) :
    (∀ moments c call, Path plan scripts (opening site scripts) moments c → call < c.told.length →
      ∃ shared event mid, CutShort plan scripts (opening site scripts) moments c call shared event mid) ∧
    (∀ moments event c, Halted plan scripts (opening site scripts) moments event c →
      BrokenOff ⟨scripts, site.world⟩ plan (opening site scripts) moments event c) ∧
    ∀ (σ : Type) (host : Host σ) (calm : σ → Prop) (heard : σ), host.Acting calm → calm heard →
      scripts.length ≤ site.world.tests.length → Names.check (scripts.map (·.name)) = .ok () →
      ∃ moments last answers, Replied plan host scripts site heard moments last answers := by
  refine ⟨?_, ?_, ?_⟩
  · intro moments c call path place
    exact path.cut rfl place
  · intro moments event c halted
    exact halted.brokenOff idle
  · intro σ host calm heard acting kept known distinct
    exact execute_replied acting idle known distinct kept

def failingHost : Host HookHost := HookHost.host [⟨1, .fail (.leaf "reporter failed")⟩]

-- A host that fails at the second event stops the suite before the body of its first test.
theorem host_error_stops_started :
    ∃ shared mid stood, mid.told.length = 2 ∧
      Suite.execute (brokenPlan true) failingHost ⟨brokenScripts, brokenSite.world⟩ ⟨0, none, .fresh⟩ =
        (mid.state stood, .stopped (.leaf "reporter failed")) ∧
      BrokenOff ⟨brokenScripts, brokenSite.world⟩ (brokenPlan true) (opening brokenSite brokenScripts) shared
        (.testStarted "breaks" 0) mid := by
  obtain ⟨-, halts, runs⟩ := @host_error_stops (brokenPlan true) brokenScripts brokenSite broken_idle
  obtain ⟨moments, last, answers, replied⟩ :=
    runs _ failingHost _ ⟨0, none, .fresh⟩ HookHost.host_acting trivial (Nat.le_refl 2) rfl
  obtain ⟨heard', ended, -⟩ := replied.finished
  have noted : (Suite.execute (brokenPlan true) failingHost.lenient ⟨brokenScripts, brokenSite.world⟩
      (⟨0, none, .fresh⟩, [])).1.host.2.take 2 = [none, some (.leaf "reporter failed")] := by decide +kernel
  have told : (Suite.execute (brokenPlan true) failingHost.lenient ⟨brokenScripts, brokenSite.world⟩
      (⟨0, none, .fresh⟩, [])).1.told.take 2 = [.runStarted "suite" 2, .testStarted "breaks" 0] := by decide +kernel
  rw [ended] at noted told
  have at_ (call : Nat) (early : call < 2) :
      answers[call]? = [none, some (ErrorChain.leaf "reporter failed")][call]? := by
    rw [← noted, List.getElem?_take_of_lt early]
    rfl
  obtain ⟨shared, event, mid, stood, cut, stopped⟩ := replied.stopped 1 _ (at_ 1 (by decide)) (by
    intro earlier before
    obtain rfl : earlier = 0 := by omega
    exact at_ 0 (by decide))
  have spoken : mid.told = [.runStarted "suite" 2, .testStarted "breaks" 0] := cut.told.trans told
  obtain rfl : event = .testStarted "breaks" 0 := by
    have latest := (halts shared event mid cut.halted).last
    rw [spoken] at latest
    exact (Option.some.inj latest).symm
  exact ⟨shared, mid, stood, by rw [spoken]; rfl, stopped, halts _ _ _ cut.halted⟩

end Scene
end TrialBench
