import TrialBench.Run.Drive
namespace TrialBench

namespace World
variable {w v : World} {test other gate : Nat}

theorem test?_onTest {f : TestCell → TestCell} :
    (w.onTest other f).test? test = if other = test then (w.test? test).map f else w.test? test := by
  simp only [test?, onTest, List.getElem?_modify]
  split <;> simp

theorem known_of_test? {cell : TestCell} (found : w.test? test = some cell) : test < w.tests.length :=
  (List.getElem?_eq_some_iff.mp found).1

theorem test?_of_known (known : test < w.tests.length) : ∃ cell, w.test? test = some cell :=
  ⟨_, List.getElem?_eq_getElem known⟩

theorem isOpen_set {gates : List Bool} {value : Bool} (made : gate < gates.length) :
    (gates.set gate value).getD other false = if gate = other then value else gates.getD other false := by
  simp only [List.getD_eq_getElem?_getD, List.getElem?_set]
  split
  · simp_all
  · rfl

-- Worlds that agree in all that decides how a run goes. One of them may have lost
-- verdict handlers of the other, but has no new one.
structure Alike (w v : World) : Prop where
  tests : v.tests = w.tests
  gates : v.gates = w.gates
  clock : v.clock = w.clock
  signals : v.signals = w.signals
  handlers : ∀ channel test gate, v.handlerAt channel = some (.verdict test gate) →
    w.handlerAt channel = some (.verdict test gate)

theorem Alike.of_channels (tests : v.tests = w.tests) (gates : v.gates = w.gates)
    (clock : v.clock = w.clock) (signals : v.signals = w.signals) (channels : v.channels = w.channels) :
    Alike w v :=
  ⟨tests, gates, clock, signals, fun _ _ _ there => by rwa [handlerAt, channels] at there⟩

theorem Alike.refl : Alike w w := .of_channels rfl rfl rfl rfl rfl

theorem Alike.trans {u : World} (first : Alike w v) (second : Alike v u) : Alike w u :=
  ⟨second.tests.trans first.tests, second.gates.trans first.gates, second.clock.trans first.clock,
    second.signals.trans first.signals,
    fun channel test gate there => first.handlers _ _ _ (second.handlers channel test gate there)⟩

theorem alike_log {event : LogEvent} : Alike w (w.log event) := .of_channels rfl rfl rfl rfl rfl

theorem alike_find {finding : Finding} : Alike w (w.find finding) := .of_channels rfl rfl rfl rfl rfl

theorem alike_listSession {channel : Nat} : Alike w (w.listSession channel) :=
  .of_channels rfl rfl rfl rfl rfl

theorem alike_observe : Alike w (w.observe test) := by
  unfold observe
  split <;> exact .of_channels rfl rfl rfl rfl rfl

theorem alike_newChannel : Alike w w.newChannel.1 := by
  unfold newChannel
  split
  · exact .of_channels rfl rfl rfl rfl rfl
  · refine ⟨rfl, rfl, rfl, rfl, fun channel named made there => ?_⟩
    unfold handlerAt at there ⊢
    rcases Nat.lt_trichotomy channel w.channels.length with old | new | beyond
    · rwa [List.getElem?_append_left old] at there
    · subst new
      rw [List.getElem?_concat_length] at there
      cases there
    · rw [List.getElem?_eq_none (by simp; omega)] at there
      cases there

theorem alike_made {result : Except ErrorChain Nat} (found : w.newChannel = (v, result)) : Alike w v := by
  have alike := alike_newChannel (w := w)
  rwa [found] at alike

theorem install_handler {channel place : Nat} {handler found : Handler}
    (there : (w.install channel handler).handlerAt place = some found) :
    found = handler ∨ w.handlerAt place = some found := by
  simp only [install, handlerAt, List.getElem?_set] at there ⊢
  split at there
  · split at there
    · exact .inl (by simpa using there.symm)
    · cases there
  · exact .inr there

theorem alike_setRecorder {owner channel : Nat} {tag : String} {followUp : List Action} :
    Alike w (Op.setRecorder w owner channel tag followUp) := by
  refine ⟨rfl, rfl, rfl, rfl, fun place named made there => ?_⟩
  rcases install_handler (w := w) there with fresh | old
  · cases fresh
  · exact old

-- A change of the world, told by what it does to each test, to the gates, the clock and
-- the signals, and by the verdict handlers that it brings in.
structure Change (w : World) (touch : Nat → TestCell → TestCell) (gates : List Bool) (clock : Nat)
    (heard : List ShutdownEvent → Prop) (fresh : Nat → Nat → Prop) (v : World) : Prop where
  tests : ∀ test, v.test? test = (w.test? test).map (touch test)
  gates : v.gates = gates
  clock : v.clock = clock
  signals : heard v.signals
  handlers : ∀ channel test gate, v.handlerAt channel = some (.verdict test gate) →
    w.handlerAt channel = some (.verdict test gate) ∨ fresh test gate

section
variable {touch : Nat → TestCell → TestCell} {gates : List Bool} {clock : Nat}
  {heard : List ShutdownEvent → Prop} {fresh : Nat → Nat → Prop}

theorem tests_still (same : v.tests = w.tests) (idle : ∀ cell, touch test cell = cell) :
    v.test? test = (w.test? test).map (touch test) := by
  have ident : touch test = id := funext idle
  rw [ident, Option.map_id_fun, id, test?, test?, same]

theorem Change.of_alike (alike : w.Alike v) (idle : ∀ test cell, touch test cell = cell)
    (noGate : gates = w.gates) (noTime : clock = w.clock) (kept : heard w.signals) :
    Change w touch gates clock heard fresh v :=
  ⟨fun test => tests_still alike.tests (idle test), alike.gates.trans noGate.symm,
    alike.clock.trans noTime.symm, alike.signals ▸ kept,
    fun _ _ _ there => .inl (alike.handlers _ _ _ there)⟩

theorem Change.of_onTest {f : TestCell → TestCell} (hit : ∀ cell, touch other cell = f cell)
    (miss : ∀ test cell, other ≠ test → touch test cell = cell)
    (noGate : gates = w.gates) (noTime : clock = w.clock) (kept : heard w.signals) :
    Change w touch gates clock heard fresh (w.onTest other f) := by
  refine ⟨fun test => ?_, noGate.symm, noTime.symm, kept, fun _ _ _ there => .inl there⟩
  rw [test?_onTest]
  split
  · rename_i same
    rw [← same, funext hit]
  · rename_i differ
    have ident : touch test = id := funext fun cell => miss test cell differ
    rw [ident, Option.map_id_fun, id]

theorem Change.known (change : Change w touch gates clock heard fresh v) :
    v.tests.length = w.tests.length := by
  apply Nat.le_antisymm
  · apply Nat.le_of_not_lt
    intro more
    have beyond := change.tests w.tests.length
    rw [test?, test?, List.getElem?_eq_getElem more, List.getElem?_eq_none (Nat.le_refl _)] at beyond
    cases beyond
  · apply Nat.le_of_not_lt
    intro fewer
    have beyond := change.tests v.tests.length
    rw [test?, test?, List.getElem?_eq_getElem fewer, List.getElem?_eq_none (Nat.le_refl _)] at beyond
    cases beyond

end
end World

namespace Op
variable {w v : World} {op : Op} {test : Nat}

def markOn (test : Nat) : Op → Option Mark
  | .act owner (.mark named verdict) => if named.getD owner = test then some verdict else none
  | .mark named verdict => if named = test then some verdict else none
  | .note named _ verdict => if named = test then some verdict else none
  | _ => none

def asksCancel (test : Nat) : Op → Bool
  | .act owner (.cancel named) => named.getD owner = test
  | _ => false

def keptFor (test : Nat) : Op → Option Nat
  | .keepGate named gate => if named = test then some gate else none
  | _ => none

def touch (op : Op) (test : Nat) (cell : TestCell) : TestCell :=
  { cell with
    outcome := (op.markOn test).elim cell.outcome cell.outcome.mark
    cancelPending := cell.cancelPending || op.asksCancel test
    gate := (op.keptFor test).or cell.gate }

def gatesAfter (gates : List Bool) : Op → List Bool
  | .release _ gate => gates.set gate true
  | _ => gates

def Installs (op : Op) (test gate : Nat) : Prop := ∃ channel, op = .install channel (.verdict test gate)

abbrev Effect (w : World) (op : Op) : World → Prop :=
  w.Change op.touch (op.gatesAfter w.gates) w.clock (w.signals <+: ·) op.Installs

theorem touch_idle {cell : TestCell} (noMark : op.markOn test = none)
    (noRequest : op.asksCancel test = false) (noGate : op.keptFor test = none) :
    op.touch test cell = cell := by
  simp [touch, noMark, noRequest, noGate]

theorem effect_still (alike : w.Alike v) (noMark : ∀ test, op.markOn test = none)
    (noRequest : ∀ test, op.asksCancel test = false) (noGate : ∀ test, op.keptFor test = none)
    (shut : op.gatesAfter w.gates = w.gates) : Effect w op v :=
  .of_alike alike (fun test _ => touch_idle (noMark test) (noRequest test) (noGate test)) shut rfl
    (List.prefix_refl _)

theorem ask_effect {owner : Nat} {action : Action} :
    Effect w (.act owner action) (ask w owner action).1 := by
  cases action with
  | createSession =>
    refine effect_still ?_ (fun _ => rfl) (fun _ => rfl) (fun _ => rfl) rfl
    simp only [ask]
    split
    · exact (World.alike_made ‹_›).trans World.alike_listSession
    · exact (World.alike_made ‹_›).trans World.alike_find
  | cloneSession session =>
    refine effect_still ?_ (fun _ => rfl) (fun _ => rfl) (fun _ => rfl) rfl
    simp only [ask]
    split
    · exact World.alike_listSession
    · exact .refl
  | handle session tag followUp =>
    refine effect_still ?_ (fun _ => rfl) (fun _ => rfl) (fun _ => rfl) rfl
    simp only [ask]
    split
    · exact World.alike_setRecorder
    · exact .refl
  | post session message =>
    refine effect_still ?_ (fun _ => rfl) (fun _ => rfl) (fun _ => rfl) rfl
    simp only [ask, deliver]
    split
    · split
      · exact .refl
      · exact World.alike_log
    · exact .refl
  | describe session =>
    refine effect_still ?_ (fun _ => rfl) (fun _ => rfl) (fun _ => rfl) rfl
    simp only [ask]
    split
    · exact World.alike_find
    · exact .refl
  | mark named verdict =>
    refine .of_onTest (fun cell => ?_) (fun test cell differ => ?_) rfl rfl (List.prefix_refl _)
    · simp [touch, markOn, asksCancel, keptFor]
    · exact touch_idle (by simp [markOn, differ]) rfl rfl
  | markAll named verdicts => exact effect_still .refl (fun _ => rfl) (fun _ => rfl) (fun _ => rfl) rfl
  | cancel named =>
    refine .of_onTest (fun cell => ?_) (fun test cell differ => ?_) rfl rfl (List.prefix_refl _)
    · simp [touch, markOn, asksCancel, keptFor]
    · exact touch_idle rfl (by simp [asksCancel, differ]) rfl
  | signal event =>
    simp only [ask, World.raise]
    split
    · exact effect_still .refl (fun _ => rfl) (fun _ => rfl) (fun _ => rfl) rfl
    · exact ⟨fun test => World.tests_still rfl fun cell => touch_idle rfl rfl rfl, rfl, rfl,
        List.prefix_append _ _, fun _ _ _ there => .inl there⟩
  | schedule delay action =>
    exact effect_still (.of_channels rfl rfl rfl rfl rfl) (fun _ => rfl) (fun _ => rfl) (fun _ => rfl) rfl

theorem step_effect (w : World) (op : Op) : Effect w op (step w op).1 := by
  cases op with
  | act owner action => exact ask_effect
  | call handler message =>
    refine effect_still ?_ (fun _ => rfl) (fun _ => rfl) (fun _ => rfl) rfl
    cases handler with
    | verdict named gate =>
      simp only [step, serve]
      split
      · exact .refl
      · exact World.alike_log
    | recorder followUp tag owner => exact .of_channels rfl rfl rfl rfl rfl
  | mark named verdict =>
    refine .of_onTest (fun cell => ?_) (fun test cell differ => ?_) rfl rfl (List.prefix_refl _)
    · simp [touch, markOn, asksCancel, keptFor]
    · exact touch_idle (by simp [markOn, differ]) rfl rfl
  | note named gate verdict =>
    refine .of_onTest (fun cell => ?_) (fun test cell differ => ?_) rfl rfl (List.prefix_refl _)
    · simp [touch, markOn, asksCancel, keptFor]
    · exact touch_idle (by simp [markOn, differ]) rfl rfl
  | keepGate named gate =>
    refine .of_onTest (fun cell => ?_) (fun test cell differ => ?_) rfl rfl (List.prefix_refl _)
    · simp [touch, markOn, asksCancel, keptFor]
    · exact touch_idle rfl rfl (by simp [keptFor, differ])
  | listSession channel =>
    exact effect_still World.alike_listSession (fun _ => rfl) (fun _ => rfl) (fun _ => rfl) rfl
  | release named gate =>
    exact ⟨fun test => World.tests_still rfl fun _ => touch_idle rfl rfl rfl, rfl, rfl,
      List.prefix_refl _, fun _ _ _ there => .inl there⟩
  | install channel handler =>
    refine ⟨fun test => World.tests_still rfl fun _ => touch_idle rfl rfl rfl, rfl, rfl,
      List.prefix_refl _, ?_⟩
    intro place named gate there
    rcases World.install_handler there with fresh | old
    · exact .inr ⟨channel, by rw [fresh]⟩
    · exact .inl old

def ref? : Op → Option (Nat × Nat)
  | .call (.verdict test gate) _ | .note test gate _ | .release test gate
  | .install _ (.verdict test gate) | .keepGate test gate => some (test, gate)
  | _ => none

-- The two steps that answer a message, and the two that set a gate up.
def Free : Op → Prop
  | .note _ _ _ | .release _ _ => False
  | _ => True

def Plain : Op → Prop
  | .install _ _ | .keepGate _ _ => False
  | _ => True

theorem acts_member {owner : Nat} {actions : List Action} {next : Op} (member : next ∈ acts owner actions) :
    ∃ action, next = .act owner action := by
  obtain ⟨action, _, rfl⟩ := List.mem_map.mp member
  exact ⟨action, rfl⟩

theorem step_leads {next : Op} (member : next ∈ (step w op).2) :
    (∃ owner action, next = .act owner action) ∨ (∃ named verdict, next = .mark named verdict) ∨
    (∃ channel handler message, w.handlerAt channel = some handler ∧ next = .call handler message) ∨
    ∃ named gate message, op = .call (.verdict named gate) message ∧ next ∈ answer named gate message := by
  cases op with
  | act owner action =>
    cases action with
    | post session message =>
      simp only [step, ask, deliver] at member
      split at member
      · split at member
        · exact .inr (.inr (.inl ⟨_, _, message, ‹_›, List.mem_singleton.mp member⟩))
        · cases member
      · cases member
    | markAll named verdicts =>
      obtain ⟨verdict, _, rfl⟩ := List.mem_map.mp member
      exact .inr (.inl ⟨_, verdict, rfl⟩)
    | createSession => simp only [step, ask] at member; split at member <;> cases member
    | cloneSession session => simp only [step, ask] at member; split at member <;> cases member
    | handle session tag followUp => simp only [step, ask] at member; split at member <;> cases member
    | describe session => simp only [step, ask] at member; split at member <;> cases member
    | _ => cases member
  | call handler message =>
    cases handler with
    | verdict named gate =>
      simp only [step, serve] at member
      split at member <;> exact .inr (.inr (.inr ⟨named, gate, message, rfl, member⟩))
    | recorder followUp tag owner =>
      obtain ⟨action, rfl⟩ := acts_member member
      exact .inl ⟨owner, action, rfl⟩
  | _ => cases member

theorem answer_member {named gate : Nat} {message : Message} {next : Op}
    (member : next ∈ answer named gate message) :
    (∃ verdict, next = .note named gate verdict) ∨ next = .release named gate := by
  unfold answer at member
  split at member
  · rcases List.mem_cons.mp member with rfl | last
    · exact .inl ⟨_, rfl⟩
    · exact .inr (List.mem_singleton.mp last)
  · exact .inr (List.mem_singleton.mp member)

theorem step_refs {next : Op} {ref : Nat × Nat} (member : next ∈ (step w op).2)
    (speaks : next.ref? = some ref) :
    op.ref? = some ref ∨ ∃ channel, w.handlerAt channel = some (.verdict ref.1 ref.2) := by
  rcases step_leads member with ⟨owner, action, rfl⟩ | ⟨named, verdict, rfl⟩ |
    ⟨channel, handler, message, found, rfl⟩ | ⟨named, gate, message, rfl, part⟩
  · cases speaks
  · cases speaks
  · cases handler with
    | verdict named gate => cases speaks; exact .inr ⟨channel, found⟩
    | recorder followUp tag owner => cases speaks
  · rcases answer_member part with ⟨verdict, rfl⟩ | rfl <;> exact .inl speaks

theorem step_plain {next : Op} (member : next ∈ (step w op).2) : next.Plain := by
  rcases step_leads member with ⟨owner, action, rfl⟩ | ⟨named, verdict, rfl⟩ |
    ⟨channel, handler, message, found, rfl⟩ | ⟨named, gate, message, rfl, part⟩
  · trivial
  · trivial
  · trivial
  · rcases answer_member part with ⟨verdict, rfl⟩ | rfl <;> trivial

theorem step_free {next : Op} (member : next ∈ (step w op).2)
    (silent : ∀ named gate message, op ≠ .call (.verdict named gate) message) : next.Free := by
  rcases step_leads member with ⟨owner, action, rfl⟩ | ⟨named, verdict, rfl⟩ |
    ⟨channel, handler, message, found, rfl⟩ | ⟨named, gate, message, rfl, part⟩
  · trivial
  · trivial
  · trivial
  · exact absurd rfl (silent named gate message)

end Op
end TrialBench
