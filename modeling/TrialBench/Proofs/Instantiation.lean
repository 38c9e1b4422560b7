import TrialBench.Proofs.Registrations
namespace TrialBench

namespace Registry
variable {φ γ τ : Type} {registry : Registry φ} {calls : List (Registration φ)} {name : String}
  {names before : List String} {factories : List φ} {failure : DiscoveryError}

-- The factory of the last registration of a name.
def lastFactory (calls : List (Registration φ)) (name : String) : Option φ := (lastOf calls name).bind (·.factory)

-- A factory for each name, in the same order.
def Supplies (factoryOf : String → Option φ) (names : List String) (factories : List φ) : Prop :=
  List.Forall₂ (fun name factory => factoryOf name = some factory) names factories

-- The names up to the first one without a factory.
structure Lacks (factoryOf : String → Option φ) (names before : List String) (name : String) : Prop where
  place : ∃ after, names = before ++ name :: after
  earlier : ∀ other ∈ before, factoryOf other ≠ none
  missing : factoryOf name = none

theorem built_factory : (built calls).factoryOf = lastFactory calls := by
  funext name
  rw [factoryOf, built_lookup, lastFactory]

theorem Supplies.factories_ok (supplies : Supplies registry.factoryOf names factories) :
    registry.factories names = .ok factories := by
  induction supplies with
  | nil => rfl
  | cons found rest ih => simp only [Registry.factories, found, ih, Except.map]

theorem Supplies.known {factoryOf : String → Option φ} (supplies : Supplies factoryOf names factories) :
    ∀ name ∈ names, factoryOf name ≠ none := by
  induction supplies with
  | nil => exact List.forall_mem_nil _
  | cons found rest ih => exact List.forall_mem_cons.mpr ⟨by simp [found], ih⟩

theorem Lacks.factories_error (lacks : Lacks registry.factoryOf names before name) :
    registry.factories names = .error (.notInstantiable name) := by
  obtain ⟨⟨after, rfl⟩, earlier, missing⟩ := lacks
  induction before with
  | nil => simp only [List.nil_append, Registry.factories, missing]
  | cons first rest ih =>
    obtain ⟨known, others⟩ := List.forall_mem_cons.mp earlier
    obtain ⟨factory, found⟩ := Option.ne_none_iff_exists'.mp known
    simp only [List.cons_append, Registry.factories, found, ih others, Except.map]

theorem Lacks.unknown {factoryOf : String → Option φ} (lacks : Lacks factoryOf names before name) :
    ¬ ∀ other ∈ names, factoryOf other ≠ none := by
  obtain ⟨after, rfl⟩ := lacks.place
  intro known
  exact known name (by simp) lacks.missing

theorem supplies_or_lacks (factoryOf : String → Option φ) (names : List String) :
    (∃ factories, Supplies factoryOf names factories) ∨ ∃ before name, Lacks factoryOf names before name := by
  induction names with
  | nil => exact .inl ⟨[], .nil⟩
  | cons first rest ih =>
    cases found : factoryOf first with
    | none => exact .inr ⟨[], first, ⟨rest, rfl⟩, List.forall_mem_nil _, found⟩
    | some factory =>
      rcases ih with ⟨factories, supplies⟩ | ⟨before, name, ⟨after, place⟩, earlier, missing⟩
      · exact .inl ⟨factory :: factories, .cons found supplies⟩
      · refine .inr ⟨first :: before, name, ⟨after, by rw [place, List.cons_append]⟩, ?_, missing⟩
        exact List.forall_mem_cons.mpr ⟨by simp [found], earlier⟩

-- Why there are no tests: there is no list of classes, or a class of the list has no factory.
inductive Fails (calls : List (Registration φ)) : DiscoveryError → Prop where
  | undiscovered {failure : DiscoveryError} (fails : (built calls).discover.2 = .error failure) : Fails calls failure
  | lacking {names before : List String} {name : String} (discovers : (built calls).discover.2 = .ok names)
      (lacks : Lacks (lastFactory calls) names before name) : Fails calls (.notInstantiable name)

theorem instantiate_factories (discovers : registry.discover.2 = .ok names) :
    registry.instantiate.2 = registry.factories names := by
  simp only [instantiate, discovers, Except.bind]

theorem Fails.instantiate (fails : Fails calls failure) : (built calls).instantiate.2 = .error failure := by
  cases fails with
  | undiscovered fails => simp only [Registry.instantiate, fails, Except.bind]
  | lacking discovers lacks =>
    rw [← built_factory] at lacks
    rw [instantiate_factories discovers, lacks.factories_error]

theorem Supplies.instantiate (discovers : (built calls).discover.2 = .ok names)
    (supplies : Supplies (lastFactory calls) names factories) : (built calls).instantiate.2 = .ok factories := by
  rw [← built_factory] at supplies
  rw [instantiate_factories discovers, supplies.factories_ok]

theorem Fails.unique {other : DiscoveryError} (fails : Fails calls failure) (fails' : Fails calls other) :
    failure = other := by
  have same := fails.instantiate.symm.trans fails'.instantiate
  exact Except.error.inj same

theorem fails_or_supplied (calls : List (Registration φ)) : (∃ failure, Fails calls failure) ∨
    ∃ names factories, (built calls).discover.2 = .ok names ∧ Supplies (lastFactory calls) names factories := by
  cases discovers : (built calls).discover.2 with
  | error failure => exact .inl ⟨failure, .undiscovered discovers⟩
  | ok names =>
    rcases supplies_or_lacks (lastFactory calls) names with ⟨factories, supplies⟩ | ⟨before, name, lacks⟩
    · exact .inr ⟨names, factories, rfl, supplies⟩
    · exact .inl ⟨.notInstantiable name, .lacking discovers lacks⟩

theorem Fails.unsupplied (fails : Fails calls failure) : ¬ ∃ names, (built calls).discover.2 = .ok names ∧
    ∀ name ∈ names, lastFactory calls name ≠ none := by
  rintro ⟨names, discovers, known⟩
  cases fails with
  | undiscovered fails => cases fails.symm.trans discovers
  | lacking discovers' lacks =>
    cases discovers'.symm.trans discovers
    exact lacks.unknown known

section Effects
variable {m : Type → Type} [Monad m] {call : φ → γ → m τ} {context : γ}

theorem Fails.createTests (fails : Fails calls failure) :
    (built calls).createTests call context = pure ((built calls).discover.1, .error failure) := by
  have same : (built calls).instantiate = ((built calls).discover.1, .error failure) := Prod.ext rfl fails.instantiate
  rw [Registry.createTests, same]

theorem Supplies.createTests (discovers : (built calls).discover.2 = .ok names)
    (supplies : Supplies (lastFactory calls) names factories) : (built calls).createTests call context = do
      let tests ← factories.mapM fun factory => call factory context
      return ((built calls).discover.1, .ok tests) := by
  have same : (built calls).instantiate = ((built calls).discover.1, .ok factories) :=
    Prod.ext rfl (supplies.instantiate discovers)
  rw [Registry.createTests, same]

end Effects

-- A factory that leaves behind that it was called, and with which context.
def recording (make : φ → γ → τ) (factory : φ) (context : γ) : StateM (List (φ × γ)) τ :=
  fun earlier => (make factory context, earlier ++ [(factory, context)])

theorem recording_all {make : φ → γ → τ} {context : γ} (earlier : List (φ × γ)) :
    (factories.mapM fun factory => recording make factory context).run earlier =
      (factories.map (make · context), earlier ++ factories.map (·, context)) := by
  induction factories generalizing earlier with
  | nil => exact congrArg (Prod.mk []) (List.append_nil earlier).symm
  | cons first rest ih =>
    have called :
        (recording make first context).run earlier = (make first context, earlier ++ [(first, context)]) := rfl
    rw [List.mapM_cons, StateT.run_bind, called]
    change (do
      let later ← (rest.mapM fun factory => recording make factory context).run (earlier ++ [(first, context)])
      (pure (make first context :: later.1, later.2) : Id _)) = _
    rw [ih, List.map_cons, List.map_cons, List.append_assoc]
    rfl

-- What comes of the calls of the factories, and which calls there are: one for each class if each has a factory,
-- and none at all otherwise.
structure AllOrNothing (calls : List (Registration φ)) (make : φ → γ → τ) (context : γ) (earlier : List (φ × γ))
    (said : List LogEvent) (result : Except DiscoveryError (List τ)) (called : List (φ × γ)) : Prop where
  said : said = (built calls).discover.1
  succeeds : (∃ tests, result = .ok tests) ↔ ∃ names, (built calls).discover.2 = .ok names ∧
    ∀ name ∈ names, lastFactory calls name ≠ none
  made : ∀ tests, result = .ok tests → ∃ names factories, (built calls).discover.2 = .ok names ∧
    Supplies (lastFactory calls) names factories ∧ tests = factories.map (make · context) ∧
    called = earlier ++ factories.map (·, context)
  fails : ∀ failure, result = .error failure ↔ Fails calls failure
  uncalled : ∀ failure, result = .error failure → called = earlier

variable {make : φ → γ → τ} {context : γ} {earlier : List (φ × γ)}

theorem Fails.allOrNothing (fails : Fails calls failure) :
    AllOrNothing calls make context earlier (built calls).discover.1 (.error failure) earlier := by
  constructor
  case said => rfl
  case succeeds =>
    apply iff_of_false _ fails.unsupplied
    rintro ⟨tests, made⟩
    cases made
  case made =>
    intro tests made
    cases made
  case fails =>
    intro other
    constructor
    · intro same
      cases same
      exact fails
    · intro fails'
      exact congrArg Except.error (fails.unique fails')
  case uncalled => exact fun _ _ => rfl

theorem Supplies.allOrNothing (discovers : (built calls).discover.2 = .ok names)
    (supplies : Supplies (lastFactory calls) names factories) :
    AllOrNothing calls make context earlier (built calls).discover.1 (.ok (factories.map (make · context)))
      (earlier ++ factories.map (·, context)) := by
  have known : ∃ names, (built calls).discover.2 = .ok names ∧ ∀ name ∈ names, lastFactory calls name ≠ none :=
    ⟨names, discovers, supplies.known⟩
  constructor
  case said => rfl
  case succeeds => exact iff_of_true ⟨_, rfl⟩ known
  case made =>
    intro tests made
    cases made
    exact ⟨names, factories, discovers, supplies, rfl, rfl⟩
  case fails =>
    intro failure
    apply iff_of_false nofun
    intro fails
    exact fails.unsupplied known
  case uncalled =>
    intro failure same
    cases same

-- Whatever a call of a factory does, it is made only once all factories are known, and then for each discovered
-- class in turn.
theorem instantiation_exact (calls : List (Registration φ)) :
    (∀ (m : Type → Type) [Monad m] (γ τ : Type) (call : φ → γ → m τ) (context : γ),
      (∃ failure, Fails calls failure ∧
        (built calls).createTests call context = pure ((built calls).discover.1, .error failure)) ∨
      ∃ names factories, (built calls).discover.2 = .ok names ∧ Supplies (lastFactory calls) names factories ∧
        (built calls).createTests call context = do
          let tests ← factories.mapM fun factory => call factory context
          return ((built calls).discover.1, .ok tests)) ∧
    ∀ (γ τ : Type) (make : φ → γ → τ) (context : γ) (earlier : List (φ × γ)), ∃ said result called,
      ((built calls).createTests (recording make) context).run earlier = ((said, result), called) ∧
      AllOrNothing calls make context earlier said result called := by
  rcases fails_or_supplied calls with ⟨failure, fails⟩ | ⟨names, factories, discovers, supplies⟩
  · constructor
    · intro m _ γ τ call context
      exact .inl ⟨failure, fails, fails.createTests⟩
    · intro γ τ make context earlier
      refine ⟨_, _, _, ?_, fails.allOrNothing⟩
      rw [fails.createTests]
      rfl
  · constructor
    · intro m _ γ τ call context
      exact .inr ⟨names, factories, discovers, supplies, supplies.createTests discovers⟩
    · intro γ τ make context earlier
      refine ⟨_, _, _, ?_, supplies.allOrNothing discovers⟩
      rw [supplies.createTests discovers, StateT.run_bind, recording_all]
      rfl

-- A kernel test below a class without a factory, which is collected in its place.
def abstractCalls : List (Registration String) :=
  [.test "kernel_add" "add", .plain "kernel_base" (some baseClass), .subtest "kernel_copy" "kernel_base" "copy"]

example :
    let made := ((built abstractCalls).createTests (recording fun factory (_ : Unit) => factory) ()).run []
    made.1.2 = .error (.notInstantiable "kernel_base") ∧ made.2 = [] := by decide +kernel

end Registry
end TrialBench
