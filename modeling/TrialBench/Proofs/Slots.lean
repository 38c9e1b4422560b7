import TrialBench.Proofs.Answers
namespace TrialBench

namespace Op

-- The channel that a step makes for a new session.
def founds? (w : World) : Op → Option Nat
  | .act _ .createSession => w.newChannel.2.toOption
  | _ => none

-- The channel of the session that a step adds.
def lists? (w : World) : Op → Option Nat
  | .act _ .createSession => w.newChannel.2.toOption
  | .act _ (.cloneSession session) => w.channelOf? session
  | .listSession channel => some channel
  | _ => none

-- The handler that a step leaves in a channel.
def installsOn (w : World) (channel : Nat) : Op → Option Handler
  | .act owner (.handle session tag _) =>
    if w.channelOf? session = some channel then some (.recorder w.followUps.length tag owner) else none
  | .install place handler => if place = channel then some handler else none
  | _ => none

-- What a called recorder writes down.
def recorded? : Op → Option Record
  | .call (.recorder _ tag _) message => some ⟨tag, message⟩
  | _ => none

-- A step of a run's own sets up a channel that is there.
def Known (w : World) : Op → Prop
  | .install channel _ | .listSession channel => channel < w.channels.length
  | _ => True

end Op

namespace World
variable {w v : World} {channel place : Nat} {handler : Handler} {session : Option Nat}

-- Each session has a channel.
def Connected (w : World) : Prop := ∀ channel ∈ w.sessions, channel < w.channels.length

theorem Connected.known (connected : w.Connected) (found : w.channelOf? session = some channel) :
    channel < w.channels.length := by
  cases session with
  | none => exact connected _ (List.mem_of_getLast? found)
  | some i => exact connected _ (List.mem_of_getElem? found)

-- What a change of the world does to its channels, sessions and records.
structure Slots (w : World) (founded listed : Option Nat) (placed : Nat → Option Handler) (recorded : Option Record)
    (v : World) : Prop where
  channels : v.channels.length = w.channels.length + founded.toList.length
  founded : ∀ channel, founded = some channel → channel = w.channels.length
  sessions : v.sessions = w.sessions ++ listed.toList
  handlers : ∀ channel, v.handlerAt channel = (placed channel).or (w.handlerAt channel)
  records : v.records = w.records ++ recorded.toList

theorem Slots.still (channels : v.channels = w.channels) (sessions : v.sessions = w.sessions)
    (records : v.records = w.records) : Slots w none none (fun _ => none) none v := by
  refine ⟨by rw [channels]; rfl, nofun, by rw [sessions]; simp, fun channel => ?_, by rw [records]; simp⟩
  unfold handlerAt
  rw [channels]
  rfl

theorem handlerAt_install (known : place < w.channels.length) :
    (w.install place handler).handlerAt channel =
      (if place = channel then some handler else none).or (w.handlerAt channel) := by
  unfold handlerAt install
  rw [List.getElem?_set]
  by_cases same : place = channel
  · subst same
    simp [known]
  · simp [same]

theorem install_slots (known : place < w.channels.length) :
    Slots w none none (fun channel => if place = channel then some handler else none) none (w.install place handler) :=
  ⟨by simp [install], nofun, by simp [install], fun _ => handlerAt_install known, by simp [install]⟩

theorem newChannel_slots : Slots w w.newChannel.2.toOption none (fun _ => none) none w.newChannel.1 := by
  unfold newChannel
  dsimp only
  split
  · exact .still rfl rfl rfl
  · refine ⟨by simp [Except.toOption], ?_, by simp, fun channel => ?_, by simp⟩
    · intro channel made
      exact (Option.some.inj made).symm
    · unfold handlerAt
      rcases Nat.lt_trichotomy channel w.channels.length with old | rfl | beyond
      · rw [List.getElem?_append_left old]
        rfl
      · simp
      · rw [List.getElem?_eq_none (by simp; omega), List.getElem?_eq_none (by omega)]
        rfl

end World

namespace Op
variable {w : World} {op : Op}

theorem ask_slots {owner : Nat} {action : Action} (connected : w.Connected) :
    w.Slots (founds? w (.act owner action)) (lists? w (.act owner action))
      (fun channel => installsOn w channel (.act owner action))
      none (ask w owner action).1 := by
  cases action with
  | createSession =>
    have slots := @World.newChannel_slots w
    simp only [ask, founds?, lists?, installsOn]
    generalize w.newChannel = made at slots ⊢
    obtain ⟨v, fault | channel⟩ := made
    · exact ⟨slots.channels, slots.founded, slots.sessions, slots.handlers, slots.records⟩
    · refine ⟨slots.channels, slots.founded, ?_, slots.handlers, slots.records⟩
      simpa [World.listSession, Except.toOption] using slots.sessions
  | cloneSession session =>
    simp only [ask, founds?, lists?, installsOn]
    cases w.channelOf? session with
    | none => exact .still rfl rfl rfl
    | some channel => exact ⟨rfl, by simp, rfl, fun _ => rfl, (List.append_nil _).symm⟩
  | handle session tag followUp =>
    simp only [ask, founds?, lists?, installsOn]
    cases found : w.channelOf? session with
    | none => exact .still rfl rfl rfl
    | some channel =>
      have slots := @World.install_slots w channel (.recorder w.followUps.length tag owner) (connected.known found)
      simp only [Option.some.injEq]
      exact ⟨slots.channels, slots.founded, slots.sessions, slots.handlers, slots.records⟩
  | post session message =>
    simp only [ask, deliver]
    split
    · split <;> exact .still rfl rfl rfl
    · exact .still rfl rfl rfl
  | describe session =>
    simp only [ask]
    split <;> exact .still rfl rfl rfl
  | signal event =>
    simp only [ask, World.raise]
    split <;> exact .still rfl rfl rfl
  | _ => exact .still rfl rfl rfl

theorem step_slots (connected : w.Connected) (known : op.Known w) :
    w.Slots (op.founds? w) (op.lists? w) (fun channel => op.installsOn w channel) op.recorded?
      (step w op).1 := by
  cases op with
  | act owner action => exact ask_slots connected
  | call handler message =>
    cases handler with
    | verdict test gate =>
      simp only [step, serve]
      split <;> exact .still rfl rfl rfl
    | recorder followUp tag owner => exact ⟨rfl, by simp [founds?], by simp [step, serve, lists?], fun _ => rfl, rfl⟩
  | install channel handler => exact World.install_slots known
  | listSession channel => exact ⟨rfl, by simp [founds?], rfl, fun _ => rfl, (List.append_nil _).symm⟩
  | _ => exact .still rfl rfl rfl

end Op

namespace Phase

def founds? (w : World) : Phase → Option Nat
  | .body (op :: _) _ => op.founds? w
  | .body [] (.prepare _ _ :: _) => w.newChannel.2.toOption
  | _ => none

end Phase

namespace Moment

def founds? (m : Moment) : Option Nat :=
  match m.deed with
  | .work _ op => op.founds? m.world
  | .advance _ _ p => p.founds? m.world
  | _ => none

def lists? (m : Moment) : Option Nat := m.op?.bind fun done => done.2.lists? m.world

def installsOn (channel : Nat) (m : Moment) : Option Handler := m.op?.bind fun done => done.2.installsOn m.world channel

def recorded? (m : Moment) : Option Record := m.op?.bind fun done => done.2.recorded?

end Moment

theorem Run.Moves.slots {own : Nat} {w w' : World} {p p' : Phase} (moves : Run.Moves own w p w' p')
    (connected : w.Connected) (known : ∀ op, p.op? = some op → op.Known w) :
    w.Slots (p.founds? w) (p.op?.bind (·.lists? w)) (fun channel => p.op?.bind (·.installsOn w channel))
      (p.op?.bind (·.recorded?)) w' := by
  have made {made : World × Except ErrorChain Nat} (found : w.newChannel = made) :
      w.Slots made.2.toOption none (fun _ => none) none made.1 := found ▸ World.newChannel_slots
  cases moves with
  | op => exact Op.step_slots connected (known _ rfl)
  | silent found | refused found =>
    have slots := made found
    simp only [Phase.founds?, found]
    exact slots
  | gated found | ignored found =>
    have slots := made found
    simp only [Phase.founds?, found]
    exact ⟨slots.channels, slots.founded, slots.sessions, slots.handlers, slots.records⟩
  | observe =>
    unfold World.observe
    split <;> exact .still rfl rfl rfl
  | read => split <;> exact .still rfl rfl rfl
  | _ => exact .still rfl rfl rfl

theorem Moment.founds_op {m : Moment} {i : Nat} {op : Op} (did : m.op? = some (i, op)) :
    m.founds? = op.founds? m.world := by
  obtain ⟨w, deed⟩ := m
  cases deed with
  | work thread op =>
    cases did
    rfl
  | advance thread test p =>
    obtain ⟨op, doing, same⟩ := Option.map_eq_some_iff.mp did
    cases same
    unfold Phase.op? at doing
    split at doing
    · cases doing
      rfl
    · cases doing
  | _ => cases did

theorem Op.lists_known {w : World} {op : Op} {channel : Nat} (connected : w.Connected) (known : op.Known w)
    (listed : op.lists? w = some channel) : channel < w.channels.length ∨ op.founds? w = some channel := by
  unfold lists? at listed
  split at listed
  · exact .inr listed
  · exact .inl (connected.known listed)
  · cases listed
    exact .inl known
  · cases listed

theorem Phase.op_listed {test : Nat} {watched : Bool} {p : Phase} {op : Op} (doing : p.op? = some op) :
    op ∈ (Thread.run test watched p).ops := by
  unfold Phase.op? at doing
  split at doing
  · cases doing
    exact List.mem_cons_self
  · cases doing

theorem Op.Known.grows {w v : World} {op : Op} (known : op.Known w) (grown : w.channels.length ≤ v.channels.length) :
    op.Known v := by
  cases op with
  | install channel handler => exact Nat.lt_of_lt_of_le known grown
  | listSession channel => exact Nat.lt_of_lt_of_le known grown
  | _ => trivial

theorem World.Slots.grows {w v : World} {founded listed : Option Nat} {placed : Nat → Option Handler}
    {recorded : Option Record} (slots : w.Slots founded listed placed recorded v) :
    w.channels.length ≤ v.channels.length := by
  rw [slots.channels]
  exact Nat.le_add_right _ _

namespace Site
variable {history : List Moment} {s next : Site} {deed : Deed} {i channel : Nat} {thread : Thread}

-- Every step that is still to be done knows its channel.
def Wired (s : Site) : Prop :=
  s.world.Connected ∧ ∀ (i : Nat) (thread : Thread), s.threads[i]? = some thread → ∀ op ∈ thread.ops, op.Known s.world

theorem Step.slots (step : Step s deed next) (wired : s.Wired) :
    s.world.Slots (Moment.founds? ⟨s.world, deed⟩) (Moment.lists? ⟨s.world, deed⟩)
      (fun channel => Moment.installsOn channel ⟨s.world, deed⟩) (Moment.recorded? ⟨s.world, deed⟩) next.world := by
  obtain ⟨connected, known⟩ := wired
  cases step with
  | work seat => exact Op.step_slots connected (known _ _ seat _ List.mem_cons_self)
  | @advance i test watched p p' w seat turned =>
    have slots := (Run.moves_sound (Run.turn_moved.1 turned)).slots connected fun op doing =>
      known _ _ seat op (Phase.op_listed doing)
    have same {β : Type} (f : Op → Option β) :
        (Moment.op? ⟨s.world, .advance i test p⟩).bind (fun done => f done.2) = p.op?.bind f := Option.bind_map ..
    refine ⟨slots.channels, slots.founded, ?_, fun channel => ?_, ?_⟩
    · exact slots.sessions.trans (by rw [Moment.lists?, same])
    · exact (slots.handlers channel).trans (by rw [Moment.installsOn, same])
    · exact slots.records.trans (by rw [Moment.recorded?, same])
  | fire popped =>
    obtain ⟨others, -, -, rfl⟩ := popTimer_some popped
    exact .still rfl rfl rfl
  | heed seat turned =>
    obtain ⟨-, -, taken⟩ := Run.turn_heeded.1 turned
    unfold World.takeSignal at taken
    split at taken
    · cases taken
    · cases taken
      exact .still rfl rfl rfl
  | _ => exact .still rfl rfl rfl

theorem Step.op_known (step : Step s deed next) (wired : s.Wired) {op : Op}
    (did : Moment.op? ⟨s.world, deed⟩ = some (i, op)) : op.Known s.world := by
  cases step with
  | work seat =>
    cases did
    exact wired.2 _ _ seat _ List.mem_cons_self
  | advance seat turned =>
    obtain ⟨op, doing, same⟩ := Option.map_eq_some_iff.mp did
    cases same
    exact wired.2 _ _ seat _ (Phase.op_listed doing)
  | _ => cases did

theorem Step.connected (step : Step s deed next) (wired : s.Wired) : next.world.Connected := by
  have slots := step.slots wired
  intro channel member
  rw [slots.sessions] at member
  rcases List.mem_append.mp member with old | new
  · exact Nat.lt_of_lt_of_le (wired.1 channel old) slots.grows
  · obtain ⟨⟨i, op⟩, did, listed⟩ := Option.bind_eq_some_iff.mp (Option.mem_toList.mp new)
    rcases Op.lists_known wired.1 (step.op_known wired did) listed with old | made
    · exact Nat.lt_of_lt_of_le old slots.grows
    · have founded := (Moment.founds_op did).trans made
      rw [slots.channels, slots.founded channel founded, founded]
      exact Nat.lt_succ_self _

end Site
end TrialBench
