import TrialBench.Proofs.Alone
import TrialBench.Proofs.Scene
import TrialBench.Suite.Hosted
namespace TrialBench

-- From its calm states such a host acts on the tests as anybody else may, and returns no
-- error.
structure Host.Quiet {σ : Type} (host : Host σ) (calm : σ → Prop) : Prop where
  unfailing : ∀ event w heard, calm heard → (host.hear event w heard).2.2 = none
  stays : ∀ event w heard, calm heard → calm (host.hear event w heard).2.1
  acts : ∀ event w heard, calm heard → ∃ deeds : List (Nat × Action),
    (host.hear event w heard).1 = deeds.foldl (fun w deed => w.perform deed.1 deed.2) w

-- The same without the promise of no error.
structure Host.Acting {σ : Type} (host : Host σ) (calm : σ → Prop) : Prop where
  stays : ∀ event w heard, calm heard → calm (host.hear event w heard).2.1
  acts : ∀ event w heard, calm heard → ∃ deeds : List (Nat × Action),
    (host.hear event w heard).1 = deeds.foldl (fun w deed => w.perform deed.1 deed.2) w

theorem Host.Quiet.acting {σ : Type} {host : Host σ} {calm : σ → Prop} (quiet : host.Quiet calm) : host.Acting calm :=
  ⟨quiet.stays, quiet.acts⟩

-- What a host has made of the events that it was told, and its answers to them.
abbrev Host.Noted (σ : Type) : Type := σ × List (Option ErrorChain)

-- The same host when its errors are only noted.
def Host.lenient {σ : Type} (host : Host σ) : Host (Host.Noted σ) where
  hear event w heard :=
    let (w, state, answer) := host.hear event w heard.1
    (w, (state, heard.2 ++ [answer]), none)

-- Such a host acts as anybody else may as long as its tale holds, and the tale goes on
-- with each event.
structure Host.Keeps {σ : Type} (host : Host σ) (tale : List SuiteEvent → Host.Noted σ → Prop) : Prop where
  stays : ∀ told event w heard, tale told heard → tale (told ++ [event]) (host.lenient.hear event w heard).2.1
  acts : ∀ told event w heard, tale told heard → ∃ deeds : List (Nat × Action),
    (host.hear event w heard.1).1 = deeds.foldl (fun w deed => w.perform deed.1 deed.2) w

theorem Host.Acting.keeps {σ : Type} {host : Host σ} {calm : σ → Prop} (acting : host.Acting calm) :
    host.Keeps fun _ heard => calm heard.1 :=
  ⟨fun _ event w heard kept => acting.stays event w heard.1 kept,
    fun _ event w heard kept => acting.acts event w heard.1 kept⟩

def Host.Refuses {σ : Type} (host : Host σ) (tale : List SuiteEvent → Host.Noted σ → Prop)
    (error : ErrorChain) : Prop :=
  ∃ told event w heard, tale told heard ∧ (host.hear event w heard.1).2.2 = some error

theorem HookHost.follow_acts {w : World} {deeds : List HookDeed} : ∃ actions : List (Nat × Action),
    (follow w deeds).1 = actions.foldl (fun w deed => w.perform deed.1 deed.2) w := by
  induction deeds generalizing w with
  | nil => exact ⟨[], rfl⟩
  | cons deed rest ih =>
    cases deed with
    | fail error => exact ⟨[], rfl⟩
    | act action =>
      obtain ⟨actions, made⟩ := ih (w := w.perform 0 action)
      exact ⟨(0, action) :: actions, made⟩

theorem HookHost.follow_unfailing {w : World} {deeds : List HookDeed}
    (acting : ∀ deed ∈ deeds, ∃ action, deed = .act action) :
    (follow w deeds).2 = none := by
  induction deeds generalizing w with
  | nil => rfl
  | cons deed rest ih =>
    obtain ⟨action, rfl⟩ := acting deed List.mem_cons_self
    exact ih fun deed member => acting deed (List.mem_cons_of_mem _ member)

theorem HookHost.hear_world {hooks : List Hook} {event : SuiteEvent} {w : World} {state : HookHost} :
    ((host hooks).hear event w state).1 = (follow w (deeds hooks state.heard)).1 := by
  unfold host
  dsimp only
  split <;> rfl

theorem HookHost.host_acting {hooks : List Hook} : (host hooks).Acting fun _ => True := by
  refine ⟨fun _ _ _ _ => trivial, ?_⟩
  intro event w state _
  rw [hear_world]
  exact follow_acts

-- Hooks that only act make a quiet host, as long as no report is written.
theorem HookHost.host_quiet {hooks : List Hook} (acting : ∀ hook ∈ hooks, ∃ action, hook.deed = .act action) :
    (host hooks).Quiet fun state => state.reporter = none := by
  have unfailing (w : World) (event : Nat) := @follow_unfailing w (deeds hooks event) (by
    intro deed member
    obtain ⟨hook, chosen, rfl⟩ := List.mem_map.mp member
    exact acting hook (List.mem_filter.mp chosen).1)
  refine ⟨?_, ?_, ?_⟩
  · intro event w state silent
    simp [host, unfailing, pass, silent]
  · intro event w state silent
    simp [host, unfailing, pass, silent]
  · intro event w state silent
    rw [hear_world]
    exact follow_acts

section
variable {σ α β : Type}

theorem SuiteM.bind_apply (x : SuiteM σ α) (f : α → SuiteM σ β) (s : SuiteState σ) :
    (x >>= f) s = match x s with
      | .ok value s => f value s
      | .error e s => .error e s := by
  change EStateM.bind x f s = _
  unfold EStateM.bind
  cases x s <;> rfl

theorem SuiteM.pure_apply (value : α) (s : SuiteState σ) : (pure value : SuiteM σ α) s = .ok value s := rfl

theorem SuiteM.get_apply (s : SuiteState σ) : (get : SuiteM σ (SuiteState σ)) s = .ok s s := rfl

theorem SuiteM.set_apply (new s : SuiteState σ) : (set new : SuiteM σ PUnit) s = .ok () new := rfl

theorem SuiteM.modify_apply (f : SuiteState σ → SuiteState σ) (s : SuiteState σ) :
    (modify f : SuiteM σ PUnit) s = .ok () (f s) := rfl

end

namespace Scene
variable {σ α β : Type} {plan : SuitePlan} {scripts : List Script} {c next : Scene} {done : Option Deed}
  {moments : List Moment} {host : Host σ} {calm : σ → Prop} {index : Nat} {script : Script}
  {left : List Script} {event : SuiteEvent}

def state (c : Scene) (heard : σ) : SuiteState σ := ⟨c.site.world, heard, c.stats, c.reason, c.told⟩

-- What a part of the program does is one of the ways that a suite run can go on, and the
-- same part with the lenient host goes the same way. An error of the host stops the one
-- where it was answered, and the other goes on from there.
inductive Leads (plan : SuitePlan) (scripts : List Script) (host : Host σ)
    (tale : List SuiteEvent → Host.Noted σ → Prop)
    (c : Scene) (noted : List (Option ErrorChain)) (ends : α → Scene → Prop) :
    EStateM.Result ErrorChain (SuiteState σ) α → EStateM.Result ErrorChain (SuiteState (Host.Noted σ)) α → Prop where
  | goes {moments : List Moment} {next : Scene} {value : α} {heard : σ} {fresh : List (Option ErrorChain)}
      (path : Path plan scripts c moments next) (kept : tale next.told (heard, noted ++ fresh))
      (stands : ends value next)
      (silent : ∀ answer ∈ fresh, answer = none) (count : next.told.length = c.told.length + fresh.length) :
      Leads plan scripts host tale c noted ends (.ok value (next.state heard))
        (.ok value (next.state (heard, noted ++ fresh)))
  | stops {shared rest : List Moment} {mid next : Scene} {value : α} {event : SuiteEvent} {error : ErrorChain}
      {fresh more : List (Option ErrorChain)} {stood heard : σ} (halted : Halted plan scripts c shared event mid)
      (later : Path plan scripts mid rest next) (kept : tale next.told (heard, noted ++ (fresh ++ some error :: more)))
      (stands : ends value next) (silent : ∀ answer ∈ fresh, answer = none)
      (place : mid.told.length = c.told.length + fresh.length + 1)
      (count : next.told.length = mid.told.length + more.length) (refuses : host.Refuses tale error) :
      Leads plan scripts host tale c noted ends (.error error (mid.state stood))
        (.ok value (next.state (heard, noted ++ (fresh ++ some error :: more))))

variable {tale : List SuiteEvent → Host.Noted σ → Prop} {noted : List (Option ErrorChain)}

theorem Leads.after {strict : EStateM.Result ErrorChain (SuiteState σ) α}
    {lenient : EStateM.Result ErrorChain (SuiteState (Host.Noted σ)) α} {ends : α → Scene → Prop}
    (path : Path plan scripts c moments next) (untold : next.told = c.told)
    (leads : Leads plan scripts host tale next noted ends strict lenient) :
    Leads plan scripts host tale c noted ends strict lenient := by
  cases leads with
  | goes later kept stands silent count => exact .goes (path.trans later) kept stands silent (by rw [count, untold])
  | stops halted later kept stands silent place count refuses =>
    exact .stops (halted.after path) later kept stands silent (by rw [place, untold]) count refuses

-- The lenient run goes on in any case.
theorem Leads.lenient {strict : EStateM.Result ErrorChain (SuiteState σ) α}
    {lenient : EStateM.Result ErrorChain (SuiteState (Host.Noted σ)) α} {ends : α → Scene → Prop}
    (leads : Leads plan scripts host tale c noted ends strict lenient) :
    ∃ moments next value heard fresh, Path plan scripts c moments next ∧
      lenient = .ok value (next.state (heard, noted ++ fresh)) ∧
      tale next.told (heard, noted ++ fresh) ∧ ends value next ∧ next.told.length = c.told.length + fresh.length := by
  cases leads with
  | goes path kept stands silent count => exact ⟨_, _, _, _, _, path, rfl, kept, stands, count⟩
  | stops halted later kept stands silent place count =>
    refine ⟨_, _, _, _, _, halted.path.trans later, rfl, kept, stands, ?_⟩
    rw [count, place, List.length_append, List.length_cons]
    omega

theorem Leads.bind {x : SuiteM σ α} {f : α → SuiteM σ β} {s : SuiteState σ} {y : SuiteM (Host.Noted σ) α}
    {g : α → SuiteM (Host.Noted σ) β} {t : SuiteState (Host.Noted σ)} {middle : α → Scene → Prop}
    {later : β → Scene → Prop} (first : Leads plan scripts host tale c noted middle (x s) (y t))
    (second : ∀ moments next value heard noted, Path plan scripts c moments next → tale next.told (heard, noted) →
      middle value next →
      Leads plan scripts host tale next noted later (f value (next.state heard))
        (g value (next.state (heard, noted)))) :
    Leads plan scripts host tale c noted later ((x >>= f) s) ((y >>= g) t) := by
  rw [SuiteM.bind_apply, SuiteM.bind_apply]
  generalize x s = strict at first
  generalize y t = lenient at first
  cases first with
  | @goes _ next value heard fresh path kept stands silent count =>
    dsimp only
    generalize same : f value (next.state heard) = strict'
    generalize same' : g value (next.state (heard, noted ++ fresh)) = lenient'
    have continued := second _ _ _ _ _ path kept stands
    rw [same, same'] at continued
    cases continued with
    | @goes _ _ _ _ more path' kept stands silent' count' =>
      rw [List.append_assoc] at kept ⊢
      refine .goes (path.trans path') kept stands ?_ ?_
      · intro answer member
        exact (List.mem_append.mp member).elim (silent answer) (silent' answer)
      · rw [count', count, List.length_append, Nat.add_assoc]
    | @stops _ _ _ _ _ _ _ more others _ _ halted path' kept stands silent' place count' refuses =>
      rw [List.append_assoc, ← List.append_assoc fresh] at kept ⊢
      refine .stops (halted.after path) path' kept stands ?_ ?_ count' refuses
      · intro answer member
        exact (List.mem_append.mp member).elim (silent answer) (silent' answer)
      · rw [place, count, List.length_append]
        omega
  | @stops _ _ mid next value event error fresh more stood heard halted path kept stands silent place count refuses =>
    dsimp only
    obtain ⟨_, last, _, _, others, path', done, kept, stands, count'⟩ :=
      (second _ _ _ _ _ (halted.path.trans path) kept stands).lenient
    rw [done]
    rw [List.append_assoc, List.append_assoc, List.cons_append] at kept ⊢
    refine .stops halted (path.trans path') kept stands silent place ?_ refuses
    rw [count', count, List.length_append, Nat.add_assoc]

theorem Leads.mono {strict : EStateM.Result ErrorChain (SuiteState σ) α}
    {lenient : EStateM.Result ErrorChain (SuiteState (Host.Noted σ)) α} {ends wider : α → Scene → Prop}
    (leads : Leads plan scripts host tale c noted ends strict lenient)
    (weaker : ∀ value next, ends value next → wider value next) :
    Leads plan scripts host tale c noted wider strict lenient := by
  cases leads with
  | goes path kept stands silent count => exact .goes path kept (weaker _ _ stands) silent count
  | stops halted later kept stands silent place count refuses =>
    exact .stops halted later kept (weaker _ _ stands) silent place count refuses

theorem Leads.quietly {value : α} {ends : α → Scene → Prop} {heard : σ} (path : Path plan scripts c moments next)
    (untold : next.told = c.told) (kept : tale c.told (heard, noted)) (stands : ends value next) :
    Leads plan scripts host tale c noted ends (.ok value (next.state heard))
      (.ok value (next.state (heard, noted))) := by
  have leads : Leads plan scripts host tale c noted ends (.ok value (next.state heard))
      (.ok value (next.state (heard, noted ++ []))) :=
    .goes path (by rwa [untold, List.append_nil]) stands (fun answer member => by cases member) (by rw [untold]; rfl)
  rwa [List.append_nil] at leads

theorem Turn.path (turn : Turn plan scripts c done next) :
    Path plan scripts c (done.map (Moment.mk c.site.world)).toList next := by
  cases done with
  | none => exact Path.here.pass turn
  | some deed => exact Path.one turn

theorem Turn.halts (turn : Turn plan scripts c done next) (told : next.told = c.told ++ [event]) :
    Halted plan scripts c (done.map (Moment.mk c.site.world)).toList event next := by
  cases done with
  | none => exact .pass .here turn told
  | some deed => exact .act .here turn told

theorem aside_path {site : Site} (path : Site.Path (fun _ deed => deed.Outside) c.site moments site) :
    Path plan scripts c moments { c with site } := by
  induction path with
  | here => exact .here
  | step path step outside ih => exact ih.act (.aside step outside)

theorem aside_halted {first : List Moment} {start : Scene} {site : Site}
    (halted : Halted plan scripts start first event c)
    (path : Site.Path (fun _ deed => deed.Outside) c.site moments site) :
    Halted plan scripts start (moments ++ first) event { c with site } := by
  induction path with
  | here => exact halted
  | step path step outside ih => exact ih.aside step outside

theorem deeds_path {site : Site} (deeds : List (Nat × Action)) :
    ∃ moments threads, Site.Path (fun _ deed => deed.Outside) site moments
      ⟨deeds.foldl (fun w deed => w.perform deed.1 deed.2) site.world, threads⟩ := by
  induction deeds generalizing site with
  | nil => exact ⟨[], site.threads, .here⟩
  | cons deed rest ih =>
    have spawned := @Site.Step.spawn site deed.1 deed.2
    obtain ⟨moments, first, -⟩ : ∃ moments, Site.Path (fun _ deed => deed.Outside) site moments _ ∧ _ :=
      Site.perform_path trivial (fun _ _ => trivial) spawned
    obtain ⟨moments', threads, second⟩ := ih
    exact ⟨moments' ++ moments, threads, first.trans second⟩

-- The turn that tells of an event, and the call of the host.
theorem tell_leads (keeps : host.Keeps tale) {before : Scene} {heard : σ}
    (turn : Turn plan scripts before done { c with told := c.told ++ [event] }) (untold : c.told = before.told)
    (kept : tale before.told (heard, noted)) :
    Leads plan scripts host tale before noted (fun _ next => next.stage = c.stage ∧ next.stats = c.stats)
      (Suite.tell host event (c.state heard)) (Suite.tell host.lenient event (c.state (heard, noted))) := by
  obtain ⟨deeds, made⟩ := keeps.acts before.told event c.site.world (heard, noted) kept
  obtain ⟨moments, threads, path⟩ := @deeds_path c.site deeds
  have later := keeps.stays before.told event c.site.world (heard, noted) kept
  rw [← untold] at later
  let after : Scene :=
    { c with
      site := ⟨(host.hear event c.site.world heard).1, threads⟩
      told := c.told ++ [event] }
  rw [← made] at path
  have count : after.told.length = before.told.length + 1 := by simp [after, untold]
  cases answer : (host.hear event c.site.world heard).2.2 with
  | none =>
    have strict : Suite.tell host event (c.state heard) =
        .ok () (after.state (host.hear event c.site.world heard).2.1) := by
      unfold Suite.tell state
      simp only [answer, after]
    rw [strict]
    exact .goes (turn.path.trans (aside_path path)) later ⟨rfl, rfl⟩
      (fun other member => (List.mem_singleton.mp member).trans answer) count
  | some error =>
    have strict : Suite.tell host event (c.state heard) =
        .error error (after.state (host.hear event c.site.world heard).2.1) := by
      unfold Suite.tell state
      simp only [answer, after]
    have halted : Halted plan scripts before _ event after := aside_halted (turn.halts (by rw [untold])) path
    rw [strict]
    have lenient : Suite.tell host.lenient event (c.state (heard, noted)) =
        .ok () (after.state ((host.hear event c.site.world heard).2.1, noted ++ ([] ++ some error :: []))) := by
      rw [← answer]
      rfl
    rw [lenient]
    refine .stops halted .here ?_ ⟨rfl, rfl⟩ (fun other member => by cases member) count rfl ?_
    · change tale _ (_, noted ++ [_]) at later
      rwa [← answer]
    · exact ⟨before.told, event, c.site.world, (heard, noted), kept, answer⟩

-- A run that is left alone is polled to its end. The event that it takes is the reason
-- to stop.
theorem polls_path {thread : Nat} {site : Site} (stands : c.stage = .running thread index script left)
    (path : Site.Path (Site.Alone thread index) c.site moments site) :
    Path plan scripts c moments
      { c with site, reason := (moments.findSome? Moment.heeds?).map .signal <|> c.reason } := by
  induction path with
  | here => exact .here
  | @step moments s next deed path step alone ih =>
    cases deed with
    | advance j own p =>
      obtain ⟨rfl, rfl⟩ := alone
      exact ih.act (.polls stands step (.inl ⟨p, rfl⟩))
    | rest j own =>
      obtain ⟨rfl, rfl⟩ := alone
      exact ih.act (.polls stands step (.inr rfl))
    | heed j own event =>
      obtain ⟨rfl, rfl⟩ := alone
      exact ih.act (.heeds stands step)
    | work | hire | elapse => exact ih.act (.aside step trivial)
    | _ => exact alone.elim

theorem closing_step {rest later : Closing} {w : World} {site : Site}
    (moved : rest.advance plan.suite index site.world = .moved w later) :
    w = site.world ∨ ∃ deed, (deed = .tell ∨ deed = .mark index .fail) ∧ Site.Step site deed ⟨w, site.threads⟩ := by
  cases rest with
  | returned result =>
    cases result with
    | finished outcome =>
      cases moved
      exact .inl rfl
    | failed name cause =>
      cases moved
      exact .inr ⟨.tell, .inl rfl, .tell⟩
  | noting =>
    cases moved
    exact .inr ⟨.mark index .fail, .inr rfl, .mark⟩
  | announcing =>
    cases moved
    unfold World.logEnd
    split
    · exact .inr ⟨.tell, .inl rfl, .tell⟩
    · exact .inl rfl
  | reading => cases moved

theorem closing_path (rest : Closing) (stands : c.stage = .closing rest index script left) :
    ∃ moments w last, Path plan scripts c moments
        { c with site := ⟨w, c.site.threads⟩, stage := .closing last index script left } ∧
      last.advance plan.suite index w = .closed (rest.finish plan.suite index c.site.world).2 ∧
      w = (rest.finish plan.suite index c.site.world).1 := by
  generalize same : c.site.world = world
  fun_induction Closing.finish plan.suite index world rest generalizing c with
  | case1 w rest outcome closed =>
    subst same
    refine ⟨[], _, rest, ?_, closed, rfl⟩
    rw [← stands]
    exact .here
  | case2 w rest v later moved ih =>
    subst same
    rcases closing_step moved with rfl | ⟨deed, own, step⟩
    · obtain ⟨moments, u, last, path, ended⟩ := @ih { c with stage := .closing later index script left } rfl rfl
      exact ⟨_, u, last, (Path.here.pass (.passes stands moved)).trans path, ended⟩
    · obtain ⟨moments, u, last, path, ended⟩ :=
        @ih { c with site := ⟨v, c.site.threads⟩, stage := .closing later index script left } rfl rfl
      exact ⟨_, u, last, (Path.one (.closes stands moved step own)).trans path, ended⟩

theorem runTest_leads (standing : Standing plan c) (stands : c.stage = .starting index script left)
    (known : index < c.site.world.tests.length) {heard : σ} (kept : tale c.told (heard, noted)) :
    Leads plan scripts host tale c noted (fun result next => next.stage = .closing (.returned result) index script left)
      (Suite.runTest plan script index (c.state heard)) (Suite.runTest plan script index (c.state (heard, noted))) := by
  obtain ⟨cell, found⟩ := World.test?_of_known known
  let body := script.bodyOf cell.runs
  let begun : Scene :=
    { c with
      site := ⟨c.site.world, c.site.threads ++ [.run index plan.watched (.start body)]⟩
      stage := .running c.site.threads.length index script left }
  have begins : Turn plan scripts c (some (.begin index)) begun :=
    .begins stands found (standing.idle_at stands id index)
  obtain ⟨moments, threads, watched, path, resolved, event⟩ :=
    Site.drive_path (s := begun.site) (p := .start body) List.getElem?_concat_length
  have polls : Path plan scripts begun moments _ := polls_path rfl path
  rw [event] at polls
  have collects := ((Path.one begins).trans polls).pass (.collects rfl resolved)
  let finished := c.site.world.runTest index plan.watched body
  let after : Scene :=
    { c with
      site := ⟨finished.world, threads⟩
      reason := finished.event.map .signal <|> c.reason
      stage := .closing (.returned finished.result) index script left }
  have newest : ((c.site.world.test? index).map (·.runs)).getD 0 = cell.runs := by
    rw [found]
    rfl
  have ran (τ : Type) (heard : τ) : Suite.runTest plan script index (c.state heard) =
      .ok finished.result (after.state heard) := by
    unfold Suite.runTest state
    simp only [SuiteM.bind_apply, SuiteM.get_apply, SuiteM.set_apply, SuiteM.pure_apply, newest]
    rfl
  rw [ran, ran]
  have collected : Path plan scripts c _ after := collects
  exact .quietly collected rfl kept rfl

theorem conclude_leads (keeps : host.Keeps tale) {result : RunResult}
    (stands : c.stage = .closing (.returned result) index script left) {heard : σ} (kept : tale c.told (heard, noted)) :
    Leads plan scripts host tale c noted (fun outcome next => next.stage = .considering outcome index left)
      (Suite.conclude plan host script index result (c.state heard))
      (Suite.conclude plan host.lenient script index result (c.state (heard, noted))) := by
  obtain ⟨moments, w, last, path, closed, rfl⟩ :=
    @closing_path plan scripts c index script left (.returned result) stands
  let finish := Closing.finish plan.suite index c.site.world (.returned result)
  let counted := c.stats.finish finish.2
  let after : Scene :=
    { c with site := ⟨finish.1, c.site.threads⟩, stats := counted, stage := .considering finish.2 index left }
  let closing : Scene := { c with site := ⟨finish.1, c.site.threads⟩, stage := .closing last index script left }
  have concludes : Turn plan scripts closing none _ := .concludes rfl closed
  have told : Leads plan scripts host tale _ noted _ (Suite.tell host _ (after.state heard))
      (Suite.tell host.lenient _ (after.state (heard, noted))) := tell_leads keeps concludes rfl kept
  apply Leads.after path rfl
  exact told.bind fun _ _ _ _ _ _ kept stood => .quietly .here rfl kept stood.1

section
attribute [local simp] SuiteM.bind_apply SuiteM.pure_apply SuiteM.get_apply SuiteM.modify_apply Suite.onWorld

theorem considerStop_exact {s : SuiteState σ} {outcome : Outcome} {reason : Option CancelReason}
    (same : plan.reasonAfter s.reason outcome = reason) :
    Suite.considerStop plan host outcome s = match reason with
      | none => .ok () { s with reason }
      | some stopped =>
        if s.stats.hasRemaining then
          Suite.tell host (.runCanceled stopped)
            { s with world := s.world.log (Suite.cancelingEvent plan.suite stopped), reason }
        else .ok () { s with reason } := by
  obtain ⟨world, heard, stats, held, told⟩ := s
  unfold SuitePlan.reasonAfter at same
  unfold Suite.considerStop
  simp only [SuiteM.bind_apply, SuiteM.get_apply]
  split at same
  · rename_i stops
    subst same
    rw [if_pos stops]
    cases more : stats.hasRemaining <;> simp [more]
  · rename_i goes
    subst same
    rw [if_neg goes]
    cases held with
    | none => rfl
    | some reason => cases more : stats.hasRemaining <;> simp [more]

end

theorem visit_skips {s : SuiteState σ} {reason : CancelReason} (held : s.reason = some reason) :
    Suite.visit plan host script index s =
      Suite.tell host (.testSkipped script.name reason) { s with stats := s.stats.skip } := by
  obtain ⟨world, heard, stats, _, told⟩ := s
  cases held
  rfl

theorem visit_runs {s : SuiteState σ} {w : World} (held : s.reason = none)
    (logged : (s.world.onTest index fun cell => { cell with timeout := plan.timeout }).logStart index
      Closing.logTag plan.suite = w) :
    Suite.visit plan host script index s =
      (do
        Suite.tell host (.testStarted script.name index)
        let result ← Suite.runTest plan script index
        Suite.considerStop plan host (← Suite.conclude plan host script index result) : SuiteM σ Unit)
      { s with world := w } := by
  obtain ⟨world, heard, stats, _, told⟩ := s
  cases held
  subst logged
  rfl

theorem considerStop_leads (keeps : host.Keeps tale) {outcome : Outcome}
    (stands : c.stage = .considering outcome index left) {heard : σ} (kept : tale c.told (heard, noted)) :
    Leads plan scripts host tale c noted (fun _ next => next.stage = .choosing (index + 1) left)
      (Suite.considerStop plan host outcome (c.state heard))
      (Suite.considerStop plan host.lenient outcome (c.state (heard, noted))) := by
  cases stopped : plan.reasonAfter c.reason outcome with
  | none =>
    have goesOn : Turn plan scripts c none _ := .goesOn stands (.inl stopped)
    rw [stopped] at goesOn
    rw [considerStop_exact stopped, considerStop_exact stopped]
    exact .quietly (Path.here.pass goesOn) rfl kept rfl
  | some reason =>
    rw [considerStop_exact stopped, considerStop_exact stopped]
    cases more : c.stats.hasRemaining with
    | false =>
      have goesOn : Turn plan scripts c none _ := .goesOn stands (.inr more)
      rw [stopped] at goesOn
      simp only [state, more, Bool.false_eq_true, if_false]
      exact .quietly (Path.here.pass goesOn) rfl kept rfl
    | true =>
      have cancels : Turn plan scripts c (some .tell) _ := .cancels stands stopped more
      let after : Scene :=
        { c with
          site := ⟨c.site.world.log (Suite.cancelingEvent plan.suite reason), c.site.threads⟩
          reason := some reason
          stage := .choosing (index + 1) left }
      have told : Leads plan scripts host tale c noted _ (Suite.tell host _ (after.state heard))
          (Suite.tell host.lenient _ (after.state (heard, noted))) := tell_leads keeps cancels rfl kept
      simp only [state, more, if_true]
      exact told.mono fun _ _ stood => stood.1

theorem Path.known (path : Path plan scripts c moments next) :
    next.site.world.tests.length = c.site.world.tests.length := by
  induction path with
  | here => rfl
  | act path turn ih => exact turn.step.known.trans ih
  | pass path turn ih => rwa [turn.still]

theorem visit_leads (keeps : host.Keeps tale) (standing : Standing plan c)
    (stands : c.stage = .choosing index (script :: left)) (known : index < c.site.world.tests.length) {heard : σ}
    (kept : tale c.told (heard, noted)) :
    Leads plan scripts host tale c noted (fun _ next => next.stage = .choosing (index + 1) left)
      (Suite.visit plan host script index (c.state heard))
      (Suite.visit plan host.lenient script index (c.state (heard, noted))) := by
  cases held : c.reason with
  | some reason =>
    have skips : Turn plan scripts c none _ := .skips stands held
    let after : Scene := { c with stats := c.stats.skip, stage := .choosing (index + 1) left }
    have told : Leads plan scripts host tale c noted _ (Suite.tell host _ (after.state heard))
        (Suite.tell host.lenient _ (after.state (heard, noted))) := tell_leads keeps skips rfl kept
    rw [visit_skips held, visit_skips held]
    exact told.mono fun _ _ stood => stood.1
  | none =>
    have retimes : Turn plan scripts c (some (.retime index plan.timeout)) _ :=
      .retimes stands held (.retime (standing.idle_at stands id index))
    obtain ⟨cell, found⟩ := World.test?_of_known (by rw [retimes.step.known]; exact known)
    have introduces : Turn plan scripts _ (some .tell) _ := .introduces rfl found
    have path := (Path.one retimes).act introduces
    let timed := c.site.world.onTest index fun cell => { cell with timeout := plan.timeout }
    let after : Scene :=
      { c with
        site := ⟨timed.log (World.startEvent cell timed.device Closing.logTag plan.suite), c.site.threads⟩
        stage := .starting index script left }
    have told : Leads plan scripts host tale _ noted _ (Suite.tell host _ (after.state heard))
        (Suite.tell host.lenient _ (after.state (heard, noted))) := tell_leads keeps introduces rfl kept
    have logged : timed.logStart index Closing.logTag plan.suite = after.site.world := by
      unfold World.logStart
      simp only [timed, found, after]
    rw [visit_runs (s := c.state heard) held logged, visit_runs (s := c.state (heard, noted)) held logged]
    apply Leads.after (Path.one retimes) rfl
    refine Leads.bind told ?_
    intro moments started _ heard noted later kept stood
    have whole := later.known.trans (Path.one retimes).known
    have ran : Leads plan scripts host tale started noted _ _ _ :=
      runTest_leads (later.standing ((Path.one retimes).standing standing)) stood.1 (by rwa [whole]) kept
    apply ran.bind
    intro moments closing result heard noted _ kept stands
    apply (conclude_leads keeps stands kept).bind
    intro moments considering outcome heard noted _ kept stands
    exact considerStop_leads keeps stands kept

theorem visitAll_leads (keeps : host.Keeps tale) (standing : Standing plan c) (stands : c.stage = .choosing index left)
    (known : index + left.length ≤ c.site.world.tests.length) {heard : σ} (kept : tale c.told (heard, noted)) :
    Leads plan scripts host tale c noted (fun _ next => next.stage = .choosing (index + left.length) [])
      (Suite.visitAll plan host index left (c.state heard))
      (Suite.visitAll plan host.lenient index left (c.state (heard, noted))) := by
  induction left generalizing c index heard noted with
  | nil => exact .quietly .here rfl kept stands
  | cons script left ih =>
    rw [List.length_cons] at known
    have first : Leads plan scripts host tale c noted _ _ _ := visit_leads keeps standing stands (by omega) kept
    apply first.bind
    intro moments next _ heard noted path kept stands
    have rest := ih (path.standing standing) stands (by rw [path.known]; omega) kept
    rwa [Nat.add_right_comm, Nat.add_assoc] at rest

theorem runAll_leads (keeps : host.Keeps tale) (standing : Standing plan c) (stands : c.stage = .opening)
    (known : scripts.length ≤ c.site.world.tests.length) {heard : σ} (kept : tale c.told (heard, noted)) :
    Leads plan scripts host tale c noted (fun stats next => next.stage = .ended ∧ next.stats = stats)
      (Suite.runAll plan host scripts (c.state heard))
      (Suite.runAll plan host.lenient scripts (c.state (heard, noted))) := by
  have opens : Turn plan scripts c none _ := .opens stands
  let begun : Scene := { c with stage := .choosing 0 scripts }
  have told : Leads plan scripts host tale c noted _ (Suite.tell host _ (begun.state heard))
      (Suite.tell host.lenient _ (begun.state (heard, noted))) := tell_leads keeps opens rfl kept
  refine Leads.bind told ?_
  intro moments started _ heard noted path kept stood
  have visits : Leads plan scripts host tale started noted _ _ _ :=
    visitAll_leads keeps (path.standing standing) stood.1 (by rw [path.known]; omega) kept
  apply visits.bind
  intro moments visited _ heard noted _ kept stands
  have finishes : Turn plan scripts visited (some .tell) _ := .finishes stands
  let after : Scene :=
    { visited with
      site := ⟨visited.site.world.log (Suite.finishedEvent plan.suite visited.stats), visited.site.threads⟩
      stage := .ended }
  have told : Leads plan scripts host tale visited noted _ (Suite.tell host _ (after.state heard))
      (Suite.tell host.lenient _ (after.state (heard, noted))) := tell_leads keeps finishes rfl kept
  have ended : Leads plan scripts host tale visited noted (fun stats next => next.stage = .ended ∧ next.stats = stats)
      ((Suite.tell host (.runFinished plan.suite plan.runSpan visited.stats) >>= fun _ =>
        pure visited.stats : SuiteM σ Stats) (after.state heard))
      ((Suite.tell host.lenient (.runFinished plan.suite plan.runSpan visited.stats) >>= fun _ =>
        pure visited.stats : SuiteM (Host.Noted σ) Stats) (after.state (heard, noted))) :=
    told.bind fun _ _ _ _ _ _ kept stood => .quietly .here rfl kept stood
  exact ended

theorem execute_leads (keeps : host.Keeps tale) {site : Site} (idle : ∀ test, site.Idle test)
    (known : scripts.length ≤ site.world.tests.length) {heard : σ} (kept : tale [] (heard, [])) :
    Leads plan scripts host tale (opening site scripts) [] (fun stats next => next.stage = .ended ∧ next.stats = stats)
      (Suite.runAll plan host scripts (Suite.opening ⟨scripts, site.world⟩ heard))
      (Suite.runAll plan host.lenient scripts (Suite.opening ⟨scripts, site.world⟩ (heard, []))) :=
  runAll_leads keeps (opening_standing idle) rfl known kept

-- A suite run that nobody disturbs, with a host that returns no error, is one of the
-- ways that its scenes can go, and it comes to its end.
theorem execute_path (quiet : host.Quiet calm) {site : Site} (idle : ∀ test, site.Idle test)
    (known : scripts.length ≤ site.world.tests.length)
    (distinct : Names.check (scripts.map (·.name)) = .ok ()) {heard : σ} (kept : calm heard) :
    ∃ moments last heard', Path plan scripts (opening site scripts) moments last ∧ last.stage = .ended ∧
      Suite.execute plan host ⟨scripts, site.world⟩ heard = (last.state heard', .finished last.stats) := by
  have leads : Leads plan scripts host _ _ _ _ _ _ := execute_leads quiet.acting.keeps idle known kept
  unfold Suite.execute Bench.names
  simp only [distinct]
  generalize Suite.runAll plan host scripts _ = strict at leads ⊢
  generalize Suite.runAll plan host.lenient scripts _ = lenient at leads
  cases leads with
  | goes path kept stands =>
    obtain ⟨stands, rfl⟩ := stands
    exact ⟨_, _, _, path, stands, rfl⟩
  | stops _ _ _ _ _ _ _ refuses =>
    obtain ⟨told, event, w, before, calm, answer⟩ := refuses
    cases (quiet.unfailing event w before.1 calm).symm.trans answer

end Scene
end TrialBench
