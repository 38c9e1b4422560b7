import Mathlib.Logic.Relation
import TrialBench.Proofs.Registrations
namespace TrialBench

theorem ancestorWarning_inj {name ancestor other found : String}
    (same : ancestorWarning name ancestor = ancestorWarning other found) : name = other ∧ ancestor = found := by
  simpa [ancestorWarning] using congrArg LogEvent.fields same

namespace Registry
variable {φ : Type} {registry : Registry φ} {calls : List (Registration φ)} {name parent ancestor : String}
  {collected : List String} {ancestorOf : String → Option String}

-- What the last registration of a name says that it derives from.
def lastParent (calls : List (Registration φ)) (name : String) : Option String := (lastOf calls name).bind (·.parent)

def Derives (registry : Registry φ) (name parent : String) : Prop := registry.parentOf name = some parent

-- A class above another one, by way of any number of registered classes.
def Above (registry : Registry φ) : String → String → Prop := Relation.TransGen registry.Derives

theorem built_parent : (built calls).parentOf = lastParent calls := by
  funext name
  rw [parentOf, built_lookup, lastParent]

theorem Descends.above (descends : registry.Descends name ancestor) : registry.Above name baseClass := by
  induction descends with
  | direct derives => exact .single derives
  | through derives _ _ ih => exact .head derives ih

theorem Above.descends (above : registry.Above name baseClass) : ∃ ancestor, registry.Descends name ancestor := by
  induction above using Relation.TransGen.head_induction_on with
  | single derives => exact ⟨_, .direct derives⟩
  | @head name parent derives _ ih =>
    by_cases base : parent = baseClass
    · exact ⟨name, .direct (derives.trans (congrArg some base))⟩
    · obtain ⟨ancestor, descends⟩ := ih
      exact ⟨ancestor, .through derives base descends⟩

-- Whoever comes to the base class by way of other classes comes to it for the first time.
theorem Descends.base_only (descends : registry.Descends name ancestor) (base : ancestor = baseClass) :
    name = baseClass := by
  induction descends with
  | direct => exact base
  | through _ apart _ ih => exact absurd (ih base) apart

theorem resolve_derives (derives : registry.Derives name parent) :
    registry.resolve name = some ⟨name, some parent⟩ := by
  obtain ⟨entry, known, derives⟩ := Option.bind_eq_some_iff.mp derives
  rw [resolve_lookup, known, Option.map_some, derives, Option.some_or]

-- A loop of classes that never comes to the base class has no end.
theorem Above.endless (loop : registry.Above name name) (apart : ¬ registry.Above name baseClass) :
    registry.catalog.Endless name := by
  have stays (i : Nat) : ∃ current, registry.Above current current ∧ ¬ registry.Above current baseClass ∧
      registry.catalog.asked name i = some current := by
    induction i with
    | zero => exact ⟨name, loop, apart, rfl⟩
    | succ i ih =>
      obtain ⟨current, loop, apart, asks⟩ := ih
      obtain ⟨parent, derives, back⟩ := Relation.TransGen.head'_iff.mp loop
      refine ⟨parent, .tail' back derives, fun above => apart (.head derives above), ?_⟩
      have stands : registry.catalog.lineage name i = some ⟨current, some parent⟩ := by
        rw [Catalog.lineage_asked, asks]
        exact resolve_derives derives
      exact Catalog.asked_next stands
  intro i
  obtain ⟨current, loop, apart, asks⟩ := stays i
  obtain ⟨parent, derives, -⟩ := Relation.TransGen.head'_iff.mp loop
  refine ⟨⟨current, some parent⟩, parent, ?_, rfl, ?_⟩
  · rw [Catalog.lineage_asked, asks]
    exact resolve_derives derives
  · intro base
    exact apart (.single (derives.trans (congrArg some base)))

theorem Above.listed {other : String} (above : registry.Above name other) : name ∈ registry.names := by
  obtain ⟨parent, derives, -⟩ := Relation.TransGen.head'_iff.mp above
  exact lookup_mem derives

-- The loops that discovery gets past go through the base class.
theorem discover_loops (discovers : registry.discover.2 = .ok collected) (loop : registry.Above name name) :
    registry.Above name baseClass := by
  by_contra apart
  unfold discover at discovers
  rw [Catalog.discover_listed rfl] at discovers
  obtain ⟨verdict, fine⟩ := Catalog.collect_fine discovers name loop.listed
  obtain ⟨place, -, first⟩ := @Catalog.directChild_decides registry.catalog name
  cases fine.symm.trans ((loop.endless apart).cycle first)

theorem Collects.said (collects : registry.Collects ancestorOf collected) :
    ancestorWarning name ancestor ∈ registry.discover.1 ↔
      name ∈ registry.names ∧ registry.Descends name ancestor ∧ ancestor ≠ name := by
  have listed : (registry.names.filter fun name => (ancestorOf name).any (· ≠ name)).map
      (fun name => ancestorWarning name ((ancestorOf name).getD name)) = registry.discover.1 := by
    rw [← List.forall₂_eq_eq_eq, List.forall₂_map_left_iff]
    apply collects.warned.imp
    rintro name event ⟨ancestor, found, rfl⟩
    rw [found, Option.getD_some]
  rw [← listed, List.mem_map]
  constructor
  · rintro ⟨other, member, same⟩
    obtain ⟨member, deep⟩ := List.mem_filter.mp member
    obtain ⟨rfl, found⟩ := ancestorWarning_inj same
    obtain ⟨above, known, apart⟩ := (Option.any_eq_true ..).mp deep
    rw [known, Option.getD_some] at found
    subst found
    exact ⟨member, (collects.descends _ member _).mp known, by simpa using apart⟩
  · rintro ⟨member, descends, apart⟩
    have found := (collects.descends name member ancestor).mpr descends
    exact ⟨name, List.mem_filter.mpr ⟨member, by simp [found, apart]⟩, by rw [found, Option.getD_some]⟩

theorem Collects.found (collects : registry.Collects ancestorOf collected) :
    ancestor ∈ collected ↔ ∃ name, registry.Descends name ancestor := by
  rw [collects.collected, List.mem_filterMap]
  constructor
  · rintro ⟨name, member, found⟩
    exact ⟨name, (collects.descends name member ancestor).mp found⟩
  · rintro ⟨name, descends⟩
    have member := descends.above.listed
    exact ⟨name, member, (collects.descends name member ancestor).mpr descends⟩

-- Only the base class itself can be collected as the base class.
theorem Collects.base_once (collects : registry.Collects ancestorOf collected) (distinct : registry.names.Nodup) :
    collected.count baseClass ≤ 1 := by
  rw [collects.collected, List.count_filterMap]
  calc
    _ ≤ registry.names.count baseClass := by
      apply List.countP_mono_left
      intro name member found
      have descends := (collects.descends name member baseClass).mp (by simpa using found)
      exact beq_iff_eq.mpr (descends.base_only rfl)
    _ ≤ 1 := List.nodup_iff_count_le_one.mp distinct baseClass

-- What discovery makes of a base class that is above itself. Its own direct child is collected in silence; on a
-- longer way round it is the last class before it that is collected, with a warning.
structure BaseLoops (calls : List (Registration φ)) (collected : List String) (said : List LogEvent) : Prop where
  found : baseClass ∈ collected ↔ lastParent calls baseClass = some baseClass
  once : collected.count baseClass ≤ 1
  silent : lastParent calls baseClass = some baseClass → ∀ ancestor, ancestorWarning baseClass ancestor ∉ said
  warned : (built calls).Above baseClass baseClass → lastParent calls baseClass ≠ some baseClass →
    ∃ ancestor ∈ collected, ancestor ≠ baseClass ∧ ancestorWarning baseClass ancestor ∈ said
  others : ∀ name, (built calls).Above name name → (built calls).Above name baseClass

-- A class is collected as the base class only if the base class was last registered as deriving from itself.
theorem base_class_exact (discovers : (built calls).discover.2 = .ok collected) :
    BaseLoops calls collected (built calls).discover.1 := by
  obtain ⟨ancestorOf, collects⟩ := discover_collects discovers
  constructor
  case found =>
    rw [collects.found, ← built_parent]
    constructor
    · rintro ⟨name, descends⟩
      exact descends.at_base
    · intro derives
      exact ⟨baseClass, .direct derives⟩
  case once => exact collects.base_once built_nodup
  case silent =>
    rw [← built_parent]
    intro derives ancestor said
    obtain ⟨-, descends, apart⟩ := collects.said.mp said
    exact apart ((Descends.of_direct derives).mp descends)
  case warned =>
    rw [← built_parent]
    intro above apart
    obtain ⟨ancestor, descends⟩ := above.descends
    have other : ancestor ≠ baseClass := by
      rintro rfl
      exact apart descends.at_base
    exact ⟨ancestor, collects.found.mpr ⟨_, descends⟩, other, collects.said.mpr ⟨above.listed, descends, other⟩⟩
  case others => exact fun name loop => discover_loops discovers loop

-- A base class that is registered as its own subclass becomes a test that nobody is warned of.
def rootedCalls : List (Registration String) := [.subtest baseClass baseClass "base"]

theorem base_class_collected : (built rootedCalls).discover = ([], .ok [baseClass]) ∧
    (built rootedCalls).instantiate = ([], .ok ["base"]) := by
  have silent : (built rootedCalls).discover.1 = [] := by decide +kernel
  have collected : (built rootedCalls).discover.2 = .ok [baseClass] := by decide +kernel
  have made : (built rootedCalls).instantiate.2 = .ok ["base"] := by decide +kernel
  exact ⟨Prod.ext silent collected, Prod.ext silent made⟩

-- The base class below one of its own children.
def ringCalls : List (Registration String) := [.subtest baseClass "kernel_add" "base", .test "kernel_add" "add"]

theorem base_class_exact_ring : baseClass ∉ ["kernel_add", "kernel_add"] ∧
    ∃ ancestor ∈ ["kernel_add", "kernel_add"], ancestor ≠ baseClass ∧
      ancestorWarning baseClass ancestor ∈ (built ringCalls).discover.1 := by
  have discovers : (built ringCalls).discover.2 = .ok ["kernel_add", "kernel_add"] := by decide +kernel
  have loops := base_class_exact discovers
  have apart : lastParent ringCalls baseClass ≠ some baseClass := by decide +kernel
  have above : (built ringCalls).Above baseClass baseClass := by
    have below : (built ringCalls).Derives baseClass "kernel_add" := by
      unfold Derives
      decide +kernel
    have back : (built ringCalls).Derives "kernel_add" baseClass := by
      unfold Derives
      decide +kernel
    exact .head below (.single back)
  exact ⟨mt loops.found.mp apart, loops.warned above apart⟩

end Registry
end TrialBench
