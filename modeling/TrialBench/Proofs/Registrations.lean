import Mathlib.Data.List.Perm.Basic
import TrialBench.Proofs.Ambiguity
namespace TrialBench

namespace Catalog
variable {one two : Catalog} {listed name : String} {i : Nat} {verdict : Verdict} {names others collected : List String}

theorem lineage_same (same : one.resolve = two.resolve) : one.lineage listed i = two.lineage listed i := by
  induction i with
  | zero => simp only [lineage, same]
  | succ i ih => simp only [lineage, ih, same]

theorem asked_same (same : one.resolve = two.resolve) : one.asked listed i = two.asked listed i := by
  cases i with
  | zero => rfl
  | succ i => simp only [asked, lineage_same same]

theorem metBefore_same (same : one.resolve = two.resolve) :
    one.MetBefore listed i name ↔ two.MetBefore listed i name := by
  simp only [MetBefore, lineage_same same]

theorem DecidedAt.same (same : one.resolve = two.resolve) (decided : one.DecidedAt listed i verdict) :
    two.DecidedAt listed i verdict := by
  cases decided with
  | unresolved asks lost => exact .unresolved (asked_same same ▸ asks) (same ▸ lost)
  | cycle stands met => exact .cycle (lineage_same same ▸ stands) ((metBefore_same same).mp met)
  | collected stands fresh derives =>
    exact .collected (lineage_same same ▸ stands) (mt (metBefore_same same).mpr fresh) derives
  | root stands fresh derives =>
    exact .root (lineage_same same ▸ stands) (mt (metBefore_same same).mpr fresh) derives

-- What becomes of a class depends on nothing but what each name resolves to.
theorem directChild_same (same : one.resolve = two.resolve) : one.directChild listed = two.directChild listed := by
  obtain ⟨place, -, decided, undecided⟩ := @directChild_decides one listed
  have decides : two.Decides listed (one.directChild listed) :=
    ⟨place, decided.same same, fun j before other there => undecided j before other (there.same same.symm)⟩
  exact (decides_exact.mp decides).symm

theorem collect_same (same : one.resolve = two.resolve) : one.collect names = two.collect names := by
  induction names with
  | nil => rfl
  | cons first rest ih => simp only [collect, directChild_same same, ih]

-- A listing in another order comes to an end as well, with the same classes in another order.
theorem collect_perm (perm : names.Perm others) (complete : (one.collect names).2 = .ok collected) :
    ∃ found, (one.collect others).2 = .ok found ∧ collected.Perm found := by
  have fine := collect_fine complete
  choose! ancestorOf fine using fine
  have whole : collected = names.filterMap ancestorOf := Except.ok.inj (complete.symm.trans (collect_collects fine))
  have fine' : ∀ listed ∈ others, one.directChild listed = .ok (ancestorOf listed) :=
    fun listed member => fine listed (perm.mem_iff.mpr member)
  refine ⟨_, collect_collects fine', ?_⟩
  rw [whole]
  exact perm.filterMap ancestorOf

end Catalog

namespace Registration
variable {φ : Type}

def name : Registration φ → String
  | .test name _ | .subtest name _ _ | .plain name _ => name

def entry : Registration φ → Registered φ
  | .test _ factory => ⟨some baseClass, some factory⟩
  | .subtest _ parent factory => ⟨some parent, some factory⟩
  | .plain _ parent => ⟨parent, none⟩

end Registration

namespace Registry
variable {φ : Type} {registry : Registry φ} {call : Registration φ} {calls one two : List (Registration φ)}
  {name other : String} {entry : Registered φ} {classes : List (String × Registered φ)}

-- What a name was registered as by the last call for it, if there was one.
def lastOf (calls : List (Registration φ)) (name : String) : Option (Registered φ) :=
  (calls.reverse.find? (·.name == name)).map (·.entry)

-- The registered names, each at the place of the first call for it.
def firstNames (calls : List (Registration φ)) : List String := (calls.map (·.name)).eraseDups

theorem lastOf_concat :
    lastOf (calls ++ [call]) name = if call.name = name then some call.entry else lastOf calls name := by
  unfold lastOf
  rw [List.reverse_concat]
  split
  · rename_i same
    rw [List.find?_cons_of_pos (by simp [same])]
    rfl
  · rename_i apart
    rw [List.find?_cons_of_neg (by simp [apart])]

theorem firstNames_concat : firstNames (calls ++ [call]) =
    if call.name ∈ firstNames calls then firstNames calls else firstNames calls ++ [call.name] := by
  unfold firstNames
  rw [List.map_append, List.eraseDups_append]
  generalize calls.map (·.name) = names
  by_cases known : call.name ∈ names <;> simp [known, List.removeAll, List.eraseDups_cons]

theorem enter_exact : registry.enter call = registry.register call.name call.entry := by
  cases call <;> rfl

theorem built_concat : built (calls ++ [call]) = (built calls).register call.name call.entry := by
  rw [built, List.foldl_concat, enter_exact, ← built]

theorem find_put : (put name entry classes).find? (·.1 == other) =
    if name = other then some (name, entry) else classes.find? (·.1 == other) := by
  induction classes with
  | nil => by_cases same : name = other <;> simp [put, same]
  | cons first rest ih =>
    obtain ⟨known, old⟩ := first
    unfold put
    split
    · rename_i there
      subst there
      by_cases same : known = other <;> simp [same]
    · rename_i apart
      by_cases same : known = other
      · have differ : name ≠ other := fun same' => apart (same.trans same'.symm)
        simp [same, differ]
      · rw [List.find?_cons_of_neg (by simp [same]), List.find?_cons_of_neg (by simp [same]), ih]

theorem names_put : (put name entry classes).map (·.1) =
    if name ∈ classes.map (·.1) then classes.map (·.1) else classes.map (·.1) ++ [name] := by
  induction classes with
  | nil => rfl
  | cons first rest ih =>
    obtain ⟨known, old⟩ := first
    unfold put
    by_cases same : known = name
    · simp [same]
    · rw [if_neg same, List.map_cons, ih]
      by_cases later : name ∈ rest.map (·.1) <;> simp [later, Ne.symm same]

theorem built_lookup : (built calls).lookup name = lastOf calls name := by
  induction calls using List.reverseRecOn with
  | nil => rfl
  | append_singleton calls call ih =>
    rw [built_concat, lastOf_concat, ← ih]
    unfold lookup register
    rw [find_put]
    split <;> rfl

theorem built_names : (built calls).names = firstNames calls := by
  induction calls using List.reverseRecOn with
  | nil => rfl
  | append_singleton calls call ih =>
    rw [built_concat, firstNames_concat, ← ih]
    exact names_put

theorem mem_names : name ∈ registry.names ↔ registry.lookup name ≠ none := by
  simp [names, lookup]

theorem find_member (distinct : (classes.map (·.1)).Nodup) (member : (name, entry) ∈ classes) :
    classes.find? (·.1 == name) = some (name, entry) := by
  induction classes with
  | nil => cases member
  | cons first rest ih =>
    obtain ⟨fresh, distinct'⟩ := List.nodup_cons.mp distinct
    rcases List.mem_cons.mp member with rfl | later
    · simp
    · have apart : first.1 ≠ name := by
        rintro rfl
        exact fresh (List.mem_map.mpr ⟨_, later, rfl⟩)
      rw [List.find?_cons_of_neg (by simp [apart]), ih distinct' later]

-- A registry holds the last registration of each name, at the place of the first.
theorem built_classes :
    (built calls).classes = (firstNames calls).filterMap fun name => (lastOf calls name).map (name, ·) := by
  rw [← built_names, names, List.filterMap_map]
  symm
  calc
    _ = (built calls).classes.filterMap some := by
      apply List.filterMap_congr
      rintro ⟨name, entry⟩ member
      have found := find_member built_nodup member
      simp only [Function.comp_apply, ← built_lookup, lookup, found, Option.map_some]
    _ = (built calls).classes := List.filterMap_some

theorem resolve_lookup : registry.resolve name =
    ((registry.lookup name).map fun entry => ⟨name, entry.parent⟩).or
      (if name = baseClass then some ⟨baseClass, none⟩ else none) := by
  unfold resolve Catalog.resolve catalog lookup
  rw [List.find?_append, List.find?_map, Option.map_or]
  congr 1
  · change Option.map _ (Option.map _ (registry.classes.find? (·.1 == name))) = _
    cases found : registry.classes.find? (·.1 == name) with
    | none => rfl
    | some first =>
      have own : first.1 = name := by simpa using List.find?_some found
      exact congrArg (fun name => some (ClassInfo.mk name first.2.parent)) own
  · by_cases base : name = baseClass <;> simp [base, Ne.symm]

-- Two registries that know the same of every name resolve every name alike, whatever the order of their entries.
theorem resolve_same (same : ∀ name, lastOf one name = lastOf two name) :
    (built one).catalog.resolve = (built two).catalog.resolve := by
  funext name
  change (built one).resolve name = (built two).resolve name
  rw [resolve_lookup, resolve_lookup, built_lookup, built_lookup, same]

theorem names_perm (same : ∀ name, lastOf one name = lastOf two name) : (built one).names.Perm (built two).names := by
  rw [List.perm_ext_iff_of_nodup built_nodup built_nodup]
  intro name
  rw [mem_names, mem_names, built_lookup, built_lookup, same]

theorem discover_perm {names : List String} (same : ∀ name, lastOf one name = lastOf two name)
    (complete : (built one).discover.2 = .ok names) :
    ∃ others, (built two).discover.2 = .ok others ∧ names.Perm others := by
  unfold discover at complete ⊢
  rw [Catalog.discover_listed rfl] at complete ⊢
  rw [← Catalog.collect_same (resolve_same same)]
  exact Catalog.collect_perm (names_perm same) complete

theorem built_same (same : ∀ name, lastOf one name = lastOf two name) (order : firstNames one = firstNames two) :
    built one = built two := by
  have classes : (built one).classes = (built two).classes := by
    simp only [built_classes, order, same]
  exact congrArg Registry.mk classes

-- What is discovered and made depends on no more of the calls than the last one for each name and the order in
-- which the names came first, and that order decides about nothing but the order of what is discovered.
theorem calls_order (same : ∀ name, lastOf one name = lastOf two name) :
    ((∃ names, (built one).discover.2 = .ok names) ↔ ∃ others, (built two).discover.2 = .ok others) ∧
    (∀ names others, (built one).discover.2 = .ok names → (built two).discover.2 = .ok others → names.Perm others) ∧
    (firstNames one = firstNames two → (built one).discover = (built two).discover ∧
      (built one).instantiate = (built two).instantiate ∧
      ∀ (m : Type → Type) [Monad m] (γ τ : Type) (call : φ → γ → m τ) (context : γ),
        (built one).createTests call context = (built two).createTests call context) := by
  refine ⟨⟨?_, ?_⟩, ?_, ?_⟩
  · rintro ⟨names, complete⟩
    obtain ⟨others, complete', -⟩ := discover_perm same complete
    exact ⟨others, complete'⟩
  · rintro ⟨others, complete⟩
    obtain ⟨names, complete', -⟩ := discover_perm (fun name => (same name).symm) complete
    exact ⟨names, complete'⟩
  · intro names others complete complete'
    obtain ⟨found, there, perm⟩ := discover_perm same complete
    cases complete'.symm.trans there
    exact perm
  · intro order
    rw [built_same same order]
    exact ⟨rfl, rfl, fun m _ γ τ call context => rfl⟩

-- A kernel test that was first registered below a class that nobody knows, and the same classes told of only once,
-- in the same order and in another one.
def revisedCalls : List (Registration String) :=
  [.plain "kernel_copy" (some "gone"), .test "kernel_add" "add", .test "kernel_copy" "copy",
    .subtest "kernel_copy_2d" "kernel_copy" "copy_2d"]

def settledCalls : List (Registration String) :=
  [.test "kernel_copy" "copy", .test "kernel_add" "add", .subtest "kernel_copy_2d" "kernel_copy" "copy_2d"]

def reorderedCalls : List (Registration String) :=
  [.test "kernel_add" "add", .subtest "kernel_copy_2d" "kernel_copy" "copy_2d", .test "kernel_copy" "copy"]

theorem calls_order_revised :
    ((∀ name, lastOf revisedCalls name = lastOf settledCalls name) ∧ firstNames revisedCalls = firstNames settledCalls ∧
      (built revisedCalls).discover = (built settledCalls).discover) ∧
    (∀ name, lastOf revisedCalls name = lastOf reorderedCalls name) ∧
      (built revisedCalls).discover.2 = .ok ["kernel_copy", "kernel_add", "kernel_copy"] ∧
      (built reorderedCalls).discover.2 = .ok ["kernel_add", "kernel_copy", "kernel_copy"] ∧
      ["kernel_copy", "kernel_add", "kernel_copy"].Perm ["kernel_add", "kernel_copy", "kernel_copy"] := by
  have same (name : String) : lastOf revisedCalls name = lastOf settledCalls name ∧
      lastOf revisedCalls name = lastOf reorderedCalls name := by
    simp only [lastOf, revisedCalls, settledCalls, reorderedCalls, List.reverse_cons, List.reverse_nil,
      List.nil_append, List.cons_append, List.find?_cons, List.find?_nil, Registration.name]
    grind
  have settled : ∀ name, lastOf revisedCalls name = lastOf settledCalls name := fun name => (same name).1
  have reordered : ∀ name, lastOf revisedCalls name = lastOf reorderedCalls name := fun name => (same name).2
  have order : firstNames revisedCalls = firstNames settledCalls := by decide +kernel
  have first : (built revisedCalls).discover.2 = .ok ["kernel_copy", "kernel_add", "kernel_copy"] := by decide +kernel
  have second : (built reorderedCalls).discover.2 = .ok ["kernel_add", "kernel_copy", "kernel_copy"] := by
    decide +kernel
  exact ⟨⟨settled, order, ((calls_order settled).2.2 order).1⟩, reordered, first, second,
    (calls_order reordered).2.1 _ _ first second⟩

end Registry
end TrialBench
