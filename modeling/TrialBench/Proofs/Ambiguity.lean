import Mathlib.Data.List.Forall2
import Mathlib.Data.List.Nodup
import Mathlib.Data.List.Pairwise
import Mathlib.Data.Set.Card
import TrialBench.Proofs.Lineage
import TrialBench.Proofs.Truncation
import TrialBench.Registry.Classes
namespace TrialBench

namespace Catalog
variable {catalog : Catalog} {names collected : List String} {found : String → Option String}

theorem collect_fine (complete : (catalog.collect names).2 = .ok collected) :
    ∀ listed ∈ names, ∃ ancestor, catalog.directChild listed = .ok ancestor := by
  induction names generalizing collected with
  | nil => exact fun listed member => by cases member
  | cons first rest ih =>
    cases decided : catalog.directChild first with
    | error failure =>
      simp only [collect, decided] at complete
      cases complete
    | ok ancestor =>
      refine List.forall_mem_cons.mpr ⟨⟨ancestor, decided⟩, ?_⟩
      cases ancestor with
      | none =>
        simp only [collect, decided] at complete
        exact ih complete
      | some found =>
        simp only [collect, decided] at complete
        cases later : (catalog.collect rest).2 with
        | error failure => rw [later] at complete; cases complete
        | ok others => exact ih later

theorem collect_warns (fine : ∀ listed ∈ names, catalog.directChild listed = .ok (found listed)) :
    List.Forall₂ (fun listed event =>
        ∃ ancestor, found listed = some ancestor ∧ event = ancestorWarning listed ancestor)
      (names.filter fun listed => (found listed).any (· ≠ listed)) (catalog.collect names).1 := by
  induction names with
  | nil => exact .nil
  | cons first rest ih =>
    obtain ⟨decided, others⟩ := List.forall_mem_cons.mp fine
    cases ancestor : found first with
    | none => simpa [collect, decided, ancestor] using ih others
    | some collected =>
      by_cases same : collected = first
      · simpa [collect, decided, ancestor, same] using ih others
      · simpa [collect, decided, ancestor, same] using ih others

end Catalog

-- One call that tells a registry of a class.
inductive Registration (φ : Type) where
  | test (name : String) (factory : φ)
  | subtest (name parent : String) (factory : φ)
  | plain (name : String) (parent : Option String)

namespace Registry
variable {φ : Type} {registry : Registry φ} {calls : List (Registration φ)} {name parent ancestor other : String}
  {info : ClassInfo} {collected : List String} {factories : List φ}

def enter (registry : Registry φ) : Registration φ → Registry φ
  | .test name factory => registry.registerTest name factory
  | .subtest name parent factory => registry.registerSubtest name parent factory
  | .plain name parent => registry.registerClass name parent

def built (calls : List (Registration φ)) : Registry φ := calls.foldl enter empty

-- What a registered class derives from by its last registration.
def parentOf (registry : Registry φ) (name : String) : Option String := (registry.lookup name).bind (·.parent)

-- A registered class comes to the base class by way of registered classes, the last of which
-- is its ancestor.
inductive Descends (registry : Registry φ) : String → String → Prop where
  | direct {name : String} (derives : registry.parentOf name = some baseClass) : Descends registry name name
  | through {name parent ancestor : String} (derives : registry.parentOf name = some parent)
    (apart : parent ≠ baseClass)
      (above : Descends registry parent ancestor) : Descends registry name ancestor

-- A class that comes to the base class only through another one.
def Deep (registry : Registry φ) (name : String) : Prop :=
  ∃ ancestor, registry.Descends name ancestor ∧ ancestor ≠ name

theorem mem_put {entry : Registered φ} {classes : List (String × Registered φ)}
    (member : other ∈ (put name entry classes).map (·.1)) :
    other = name ∨ other ∈ classes.map (·.1) := by
  induction classes with
  | nil => exact .inl (by simpa [put] using member)
  | cons first rest ih =>
    obtain ⟨known, old⟩ := first
    unfold put at member
    split at member
    · exact .inr (by simpa using member)
    · simp only [List.map_cons, List.mem_cons] at member ⊢
      rcases member with rfl | later
      · exact .inr (.inl rfl)
      · exact (ih later).imp_right .inr

theorem put_nodup {entry : Registered φ} {classes : List (String × Registered φ)}
    (distinct : (classes.map (·.1)).Nodup) :
    ((put name entry classes).map (·.1)).Nodup := by
  induction classes with
  | nil => simp [put]
  | cons first rest ih =>
    obtain ⟨known, old⟩ := first
    obtain ⟨fresh, distinct'⟩ := List.nodup_cons.mp distinct
    unfold put
    split
    · exact distinct
    · rename_i apart
      refine List.nodup_cons.mpr ⟨fun again => ?_, ih distinct'⟩
      rcases mem_put again with same | later
      · exact apart same
      · exact fresh later

theorem built_nodup : (built calls).names.Nodup := by
  suffices kept : ∀ registry : Registry φ, registry.names.Nodup → (calls.foldl enter registry).names.Nodup from
    kept empty List.nodup_nil
  induction calls with
  | nil => exact fun registry distinct => distinct
  | cons call rest ih =>
    intro registry distinct
    refine ih _ ?_
    cases call <;> exact put_nodup distinct

theorem lookup_mem (derives : registry.parentOf name = some parent) : name ∈ registry.names := by
  obtain ⟨entry, known, -⟩ := Option.bind_eq_some_iff.mp derives
  obtain ⟨⟨key, _⟩, hit, -⟩ := Option.map_eq_some_iff.mp known
  have same : key = name := by simpa using List.find?_some hit
  exact List.mem_map.mpr ⟨_, List.mem_of_find?_eq_some hit, same⟩

-- The entry for the base class that is always there says nothing of a parent.
theorem resolve_parent (found : registry.resolve name = some info) : info = ⟨name, registry.parentOf name⟩ := by
  unfold resolve Catalog.resolve catalog at found
  obtain ⟨entry, hit, rfl⟩ := Option.map_eq_some_iff.mp found
  have key : entry.key = name := by simpa using List.find?_some hit
  rw [List.find?_append, List.find?_map] at hit
  unfold parentOf lookup
  change (Option.map _ (registry.classes.find? (·.1 == name))).or _ = _ at hit
  cases known : registry.classes.find? (·.1 == name) with
  | none =>
    rw [known, Option.map_none, Option.none_or] at hit
    cases List.mem_singleton.mp (List.mem_of_find?_eq_some hit)
    exact congrArg (ClassInfo.mk · none) key
  | some first =>
    rw [known] at hit
    cases hit
    exact congrArg (ClassInfo.mk · first.2.parent) key

theorem faithful : registry.catalog.Faithful := by
  intro name info found
  rw [resolve_parent found]

variable {verdict : Option String}

theorem Descends.of_direct (derives : registry.parentOf name = some baseClass) :
    registry.Descends name ancestor ↔ ancestor = name := by
  constructor
  · intro descends
    cases descends with
    | direct => rfl
    | through derives' apart => exact absurd (Option.some.inj (derives'.symm.trans derives)) apart
  · rintro rfl
    exact .direct derives

theorem Descends.of_through (derives : registry.parentOf name = some parent) (apart : parent ≠ baseClass) :
    registry.Descends name ancestor ↔ registry.Descends parent ancestor := by
  constructor
  · intro descends
    cases descends with
    | direct derives' => exact absurd (Option.some.inj (derives.symm.trans derives')) apart
    | through derives' _ above =>
      cases derives.symm.trans derives'
      exact above
  · exact .through derives apart

theorem Descends.of_root (derives : registry.parentOf name = none) : ¬ registry.Descends name ancestor := by
  intro descends
  cases descends with
  | direct derives' | through derives' => cases derives.symm.trans derives'

-- The ancestor is a registered class that is its own ancestor.
theorem Descends.at_base (descends : registry.Descends name ancestor) :
    registry.parentOf ancestor = some baseClass := by
  induction descends with
  | direct derives => exact derives
  | through _ _ _ ih => exact ih

-- A climb that comes to an end has found the ancestor, if there is one.
theorem climb_descends {seen : List String} {current : ClassInfo} (known : current ∈ registry.catalog.infos)
    (stands : registry.resolve current.name = some current)
    (climbed : registry.catalog.climb name seen current known = .ok verdict) :
    verdict = some ancestor ↔ registry.Descends current.name ancestor := by
  have parent_ := congrArg ClassInfo.parent (resolve_parent stands)
  fun_induction Catalog.climb registry.catalog name seen current known with
  | case1 => cases climbed
  | case2 seen current known fresh derives =>
    cases climbed
    exact iff_of_false (by simp) (Descends.of_root (parent_.symm.trans derives))
  | case3 seen current known fresh derives =>
    cases climbed
    rw [Descends.of_direct (parent_.symm.trans derives), Option.some.injEq, eq_comm]
  | case4 => cases climbed
  | case5 seen current known fresh parent derives apart next found ih =>
    have own : next.name = parent := faithful parent next found
    rw [Descends.of_through (parent_.symm.trans derives) apart, ← own]
    rw [← own] at found
    exact ih found climbed (congrArg ClassInfo.parent (resolve_parent found))

theorem directChild_descends (complete : registry.catalog.directChild name = .ok verdict) :
    verdict = some ancestor ↔ registry.Descends name ancestor := by
  unfold Catalog.directChild at complete
  split at complete
  · cases complete
  · rename_i info found
    have own : info.name = name := faithful name info found
    rw [← own] at found ⊢
    exact climb_descends _ found complete

-- What is collected when no listed class has an error: the ancestor of each, if it has one.
structure Collects (registry : Registry φ) (ancestorOf : String → Option String) (collected : List String) : Prop where
  descends : ∀ name ∈ registry.names, ∀ ancestor, ancestorOf name = some ancestor ↔ registry.Descends name ancestor
  collected : collected = registry.names.filterMap ancestorOf
  warned : List.Forall₂ (fun name event =>
      ∃ ancestor, ancestorOf name = some ancestor ∧ event = ancestorWarning name ancestor)
    (registry.names.filter fun name => (ancestorOf name).any (· ≠ name)) registry.discover.1

theorem discover_collects (discovers : registry.discover.2 = .ok collected) :
    ∃ ancestorOf, registry.Collects ancestorOf collected := by
  have same : registry.discover = registry.catalog.collect registry.names := Catalog.discover_listed rfl
  rw [same] at discovers
  have fine := Catalog.collect_fine discovers
  choose! ancestorOf fine using fine
  refine ⟨ancestorOf, ?_, ?_, ?_⟩
  · intro name member ancestor
    exact directChild_descends (fine name member)
  · exact Except.ok.inj (discovers.symm.trans (Catalog.collect_collects fine))
  · rw [same]
    exact Catalog.collect_warns fine

variable {ancestorOf : String → Option String}

-- A class below another one is collected as its ancestor, and the ancestor once more as itself.
theorem Collects.twice (collects : registry.Collects ancestorOf collected) (distinct : registry.names.Nodup) :
    ¬ collected.Nodup ↔ ∃ name ∈ registry.names, registry.Deep name := by
  rw [collects.collected, List.Nodup, List.pairwise_filterMap, not_iff_comm]
  constructor
  · intro shallow
    have own {name ancestor : String} (member : name ∈ registry.names) (found : ancestorOf name = some ancestor) :
        ancestor = name := by
      by_contra apart
      exact shallow ⟨name, member, ancestor, (collects.descends name member ancestor).mp found, apart⟩
    apply distinct.imp_of_mem
    intro one two first second apart above found above' found'
    rw [own first found, own second found']
    exact apart
  · rintro once ⟨name, member, ancestor, descends, apart⟩
    have base := descends.at_base
    have listed := lookup_mem base
    have itself := (collects.descends ancestor listed ancestor).mpr (.direct base)
    have found := (collects.descends name member ancestor).mpr descends
    have : Std.Symm fun one two => ∀ above, ancestorOf one = some above → ∀ above', ancestorOf two = some above' →
        above ≠ above' := ⟨fun one two differ above found above' found' => (differ above' found' above found).symm⟩
    exact once.forall listed member apart ancestor itself ancestor found rfl

-- There is one warning for each class that comes to the base class through another one, in
-- the order of registration.
def Warns (registry : Registry φ) (deep : List String) (said : List LogEvent) : Prop :=
  List.Forall₂ (fun name event => ∃ ancestor, registry.Descends name ancestor ∧ event = ancestorWarning name ancestor)
    deep said

theorem Collects.warns (collects : registry.Collects ancestorOf collected) :
    ∃ deep : List String, deep.Sublist registry.names ∧
      (∀ name, name ∈ deep ↔ name ∈ registry.names ∧ registry.Deep name) ∧
      registry.Warns deep registry.discover.1 := by
  refine ⟨registry.names.filter fun name => (ancestorOf name).any (· ≠ name), List.filter_sublist, ?_, ?_⟩
  · intro name
    rw [List.mem_filter, and_congr_right_iff]
    intro member
    simp only [Option.any_eq_true, decide_eq_true_eq, Deep, collects.descends name member]
  · have listed : ∀ name ∈ registry.names.filter fun name => (ancestorOf name).any (· ≠ name),
        name ∈ registry.names := fun name member => (List.mem_filter.mp member).1
    apply List.Forall₂.imp _ ((List.forall₂_and_left _ _).mpr ⟨listed, collects.warned⟩)
    rintro name event ⟨member, ancestor, found, same⟩
    exact ⟨ancestor, (collects.descends name member ancestor).mp found, same⟩

theorem Warns.counted {deep : List String} {said : List LogEvent} (warns : registry.Warns deep said)
    (distinct : deep.Nodup) (exactly : ∀ name, name ∈ deep ↔ name ∈ registry.names ∧ registry.Deep name) :
    said.length = {name | name ∈ registry.names ∧ registry.Deep name}.ncard := by
  have same : {name | name ∈ registry.names ∧ registry.Deep name} = (deep.toFinset : Set String) := by
    ext name
    simp [exactly]
  rw [same, Set.ncard_coe_finset, List.toFinset_card_of_nodup distinct, warns.length_eq]

variable {creates : φ → Script → Prop} {scripts : List Script}

-- Whatever a registered factory creates has the one name of that factory.
def Fixed (registry : Registry φ) (creates : φ → Script → Prop) : Prop :=
  ∀ name factory, registry.factoryOf name = some factory → ∃ own, ∀ script, creates factory script → script.name = own

-- The factory of a registered class creates tests that are named after the class.
def Eponymous (registry : Registry φ) (creates : φ → Script → Prop) : Prop :=
  ∀ name factory, registry.factoryOf name = some factory → ∀ script, creates factory script → script.name = name

theorem factories_found (complete : registry.factories collected = .ok factories) :
    List.Forall₂ (fun name factory => registry.factoryOf name = some factory) collected factories := by
  induction collected generalizing factories with
  | nil =>
    cases complete
    exact .nil
  | cons name rest ih =>
    unfold Registry.factories at complete
    cases found : registry.factoryOf name with
    | none => simp [found] at complete
    | some factory =>
      cases later : registry.factories rest with
      | error failure => simp [found, later, Except.map] at complete
      | ok others =>
        simp only [found, later, Except.map, Except.ok.injEq] at complete
        subst complete
        exact .cons found (ih later)

-- The tests are named by the classes that they were collected for.
theorem created_named
    (found : List.Forall₂ (fun name factory => registry.factoryOf name = some factory) collected factories)
    (created : List.Forall₂ creates factories scripts) {named : String → String}
    (names : ∀ name factory, registry.factoryOf name = some factory →
      ∀ script, creates factory script → script.name = named name) :
    scripts.map (·.name) = collected.map named := by
  induction found generalizing scripts with
  | nil =>
    cases created
    rfl
  | cons first rest ih =>
    cases created with
    | cons head tail => rw [List.map_cons, List.map_cons, ih tail, names _ _ first _ head]

theorem Fixed.named (fixed : registry.Fixed creates) : ∃ named : String → String, ∀ name factory,
    registry.factoryOf name = some factory → ∀ script, creates factory script → script.name = named name := by
  have each (name : String) : ∃ own, ∀ factory, registry.factoryOf name = some factory →
      ∀ script, creates factory script → script.name = own := by
    cases found : registry.factoryOf name with
    | none => exact ⟨name, fun factory known => by cases known⟩
    | some factory =>
      obtain ⟨own, names⟩ := fixed name factory found
      refine ⟨own, fun other known => ?_⟩
      cases known
      exact names
  choose named names using each
  exact ⟨named, names⟩

-- What is collected from a registry, by how its classes come to the base class.
structure Discloses (registry : Registry φ) (collected : List String) : Prop where
  twice : ¬ collected.Nodup ↔ ∃ name ∈ registry.names, registry.Deep name
  warned : ∃ deep : List String, deep.Sublist registry.names ∧
    (∀ name, name ∈ deep ↔ name ∈ registry.names ∧ registry.Deep name) ∧ registry.Warns deep registry.discover.1
  counted : registry.discover.1.length = {name | name ∈ registry.names ∧ registry.Deep name}.ncard

-- A suite of tests that were created for the collected classes is refused because of its
-- names, and nothing at all has happened then.
structure Refuses (registry : Registry φ) (creates : φ → Script → Prop) {σ : Type} (plan : SuitePlan) (host : Host σ)
    (bench : Bench) (heard : σ) : Prop where
  deep : registry.Fixed creates → (∃ name ∈ registry.names, registry.Deep name) → ∃ repeated,
    Suite.execute plan host bench heard =
      (⟨{ bench.world with signals := [] }, heard, .start bench.scripts.length, none, []⟩, .repeated repeated)
  eponymous : registry.Eponymous creates →
    ∀ s repeated, Suite.execute plan host bench heard = (s, .repeated repeated) →
      ∃ name ∈ registry.names, registry.Deep name

theorem execute_usable {σ : Type} {plan : SuitePlan} {host : Host σ} {bench : Bench} {heard : σ} {s : SuiteState σ}
    {repeated : List String} (refused : Suite.execute plan host bench heard = (s, .repeated repeated)) :
    ¬ bench.names.Nodup := by
  intro distinct
  have usable := Names.check_ok.mpr distinct
  simp only [Suite.execute, usable] at refused
  split at refused <;> cases refused

theorem execute_refuses {σ : Type} {plan : SuitePlan} {host : Host σ} {bench : Bench} {heard : σ}
    (twice : ¬ bench.names.Nodup) : ∃ repeated, Suite.execute plan host bench heard =
      (⟨{ bench.world with signals := [] }, heard, .start bench.scripts.length, none, []⟩, .repeated repeated) := by
  cases checked : Names.check bench.names with
  | ok => exact absurd (Names.check_ok.mp checked) twice
  | error repeated =>
    refine ⟨repeated, ?_⟩
    simp only [Suite.execute, checked]
    rfl

theorem Discloses.refuses {σ : Type} {plan : SuitePlan} {host : Host σ} {bench : Bench} {heard : σ}
    (discloses : registry.Discloses collected)
    (found : List.Forall₂ (fun name factory => registry.factoryOf name = some factory) collected factories)
    (created : List.Forall₂ creates factories bench.scripts) : registry.Refuses creates plan host bench heard := by
  constructor
  · intro fixed deep
    obtain ⟨named, names⟩ := fixed.named
    apply execute_refuses
    intro distinct
    rw [Bench.names, created_named found created names] at distinct
    exact discloses.twice.mpr deep distinct.of_map
  · intro eponymous s repeated refused
    apply discloses.twice.mp
    have names : bench.scripts.map (·.name) = collected.map id := created_named found created eponymous
    intro distinct
    apply execute_usable refused
    rwa [Bench.names, names, List.map_id]

-- Classes below other ones are exactly what makes a suite ambiguous: whoever is collected
-- as its ancestor is warned of, the ancestor is collected once more for itself, and the
-- tests of both have one name.
theorem ambiguity_exact (discovers : (built calls).discover.2 = .ok collected) :
    (built calls).names.Nodup ∧ (built calls).Discloses collected ∧
    ∀ (creates : φ → Script → Prop) (factories : List φ) (σ : Type) (plan : SuitePlan) (host : Host σ)
      (bench : Bench) (heard : σ), (built calls).instantiate.2 = .ok factories →
      List.Forall₂ creates factories bench.scripts →
      (built calls).Refuses creates plan host bench heard := by
  have distinct := @built_nodup φ calls
  obtain ⟨ancestorOf, collects⟩ := discover_collects discovers
  obtain ⟨deep, within, exactly, warns⟩ := collects.warns
  have discloses : (built calls).Discloses collected :=
    ⟨collects.twice distinct, ⟨deep, within, exactly, warns⟩, warns.counted (distinct.sublist within) exactly⟩
  refine ⟨distinct, discloses, ?_⟩
  intro creates factories σ plan host bench heard complete created
  have found : (built calls).factories collected = .ok factories := by
    simpa [instantiate, discovers, Except.bind] using complete
  exact discloses.refuses (factories_found found) created

-- A copy of a kernel test, and a special case that derives from it. A factory is the name
-- of the tests that it makes.
def copyCalls : List (Registration String) :=
  [.test "kernel_copy" "kernel_copy", .plain "helper" none, .subtest "kernel_copy_2d" "kernel_copy" "kernel_copy_2d"]

def copyBench : Bench where
  scripts := [⟨"kernel_copy", []⟩, ⟨"kernel_copy", []⟩]
  world := .fresh ⟨"device", "1.0"⟩ [] (["kernel_copy", "kernel_copy"].map fun name => .fresh name (.ofSeconds 1))

theorem ambiguity_exact_copy :
    (built copyCalls).discover.2 = .ok ["kernel_copy", "kernel_copy"] ∧
    (∃ name ∈ (built copyCalls).names, (built copyCalls).Deep name) ∧
    {name | name ∈ (built copyCalls).names ∧ (built copyCalls).Deep name}.ncard = 1 ∧
    ∃ repeated, Suite.execute (Scene.brokenPlan true) (HookHost.host []) copyBench ⟨0, none, .fresh⟩ =
      (⟨copyBench.world, ⟨0, none, .fresh⟩, .start 2, none, []⟩, .repeated repeated) := by
  have discovers : (built copyCalls).discover.2 = .ok ["kernel_copy", "kernel_copy"] := by decide +kernel
  obtain ⟨-, discloses, refuses⟩ := ambiguity_exact discovers
  have deep := discloses.twice.mp (by decide)
  have warnings : (built copyCalls).discover.1.length = 1 := by decide +kernel
  refine ⟨discovers, deep, discloses.counted.symm.trans warnings, ?_⟩
  have instantiated : (built copyCalls).instantiate.2 = .ok ["kernel_copy", "kernel_copy"] := by decide +kernel
  have created : List.Forall₂ (fun factory script => script.name = factory) ["kernel_copy", "kernel_copy"]
      copyBench.scripts := .cons rfl (.cons rfl .nil)
  have fixed : (built copyCalls).Fixed fun factory script => script.name = factory :=
    fun name factory known => ⟨factory, fun script made => made⟩
  have refusing := refuses _ _ _ (Scene.brokenPlan true) (HookHost.host []) copyBench ⟨0, none, .fresh⟩ instantiated
    created
  exact refusing.deep fixed deep

end Registry
end TrialBench
