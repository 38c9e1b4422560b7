import Mathlib.Data.List.Induction
import Mathlib.Data.List.Nodup
import TrialBench.Names
namespace TrialBench.Names

-- A place at which a name comes for the second time.
def Second (names : List String) (name : String) (place : Nat) : Prop :=
  names[place]? = some name ∧ (names.take place).count name = 1

def secondAt (names : List String) (place : Nat) : Option String :=
  names[place]?.filter fun name => (names.take place).count name = 1

variable {names seen listed before rest repeated : List String} {name other : String} {place later least : Nat}

theorem secondAt_exact : secondAt names place = some name ↔ Second names name place := by
  simp [secondAt, Second, Option.filter_eq_some_iff]

theorem secondAt_last : secondAt (before ++ name :: rest) before.length =
    if before.count name = 1 then some name else none := by
  have found : (before ++ name :: rest)[before.length]? = some name := by simp
  have earlier : (before ++ name :: rest).take before.length = before := List.take_left
  rw [secondAt, found, earlier]
  split <;> simp_all [Option.filter]

-- What a pass over the names keeps of those it has read.
structure Kept (before seen listed : List String) : Prop where
  met : ∀ name, name ∈ seen ↔ 1 ≤ before.count name
  told : ∀ name, name ∈ listed ↔ 2 ≤ before.count name

theorem count_next : (before ++ [name]).count other = before.count other + if name = other then 1 else 0 := by
  simp [List.count_singleton]

-- One name more brings only itself to a number, and only from just below it.
theorem count_reaches (reaches : before.count name + 1 = least) :
    least ≤ (before ++ [name]).count other ↔ other = name ∨ least ≤ before.count other := by
  rw [count_next]
  split
  · subst other
    simp [reaches]
  · simp_all [eq_comm]

theorem count_misses (misses : before.count name + 1 ≠ least) :
    least ≤ (before ++ [name]).count other ↔ least ≤ before.count other := by
  rw [count_next]
  split
  · subst other
    omega
  · rfl

theorem Kept.fresh (kept : Kept before seen listed) (new : name ∉ seen) :
    before.count name = 0 ∧ Kept (before ++ [name]) (name :: seen) listed := by
  have absent : before.count name = 0 := by
    have few := mt (kept.met name).mpr new
    omega
  refine ⟨absent, fun other => ?_, fun other => ?_⟩
  · rw [List.mem_cons, kept.met, count_reaches (by omega)]
  · rw [kept.told, count_misses (by omega)]

theorem Kept.second (kept : Kept before seen listed) (old : name ∈ seen) (new : name ∉ listed) :
    before.count name = 1 ∧ Kept (before ++ [name]) seen (name :: listed) := by
  have single : before.count name = 1 := by
    have some_ := (kept.met name).mp old
    have few := mt (kept.told name).mpr new
    omega
  refine ⟨single, fun other => ?_, fun other => ?_⟩
  · rw [kept.met, count_misses (by omega)]
  · rw [List.mem_cons, kept.told, count_reaches (by omega)]

theorem Kept.again (kept : Kept before seen listed) (old : name ∈ listed) :
    2 ≤ before.count name ∧ Kept (before ++ [name]) seen listed := by
  have twice := (kept.told name).mp old
  refine ⟨twice, fun other => ?_, fun other => ?_⟩
  · rw [kept.met, count_misses (by omega)]
  · rw [kept.told, count_misses (by omega)]

-- From any place on, the pass lists the names whose second places are still to come.
theorem repeatsFrom_exact (kept : Kept before seen listed) :
    repeatsFrom seen listed rest = (List.range' before.length rest.length).filterMap (secondAt (before ++ rest)) := by
  induction rest generalizing seen listed before with
  | nil => rfl
  | cons name rest ih =>
    have next {seen listed : List String} (kept : Kept (before ++ [name]) seen listed) := ih kept
    simp only [List.length_append, List.length_singleton, List.append_assoc, List.singleton_append] at next
    rw [List.length_cons, List.range'_succ, List.filterMap_cons, secondAt_last, repeatsFrom]
    by_cases old : name ∈ seen
    · by_cases again : name ∈ listed
      · obtain ⟨twice, later⟩ := kept.again again
        rw [if_pos old, if_pos again, if_neg (by omega), next later]
      · obtain ⟨single, later⟩ := kept.second old again
        rw [if_pos old, if_neg again, if_pos single, next later]
    · obtain ⟨absent, later⟩ := kept.fresh old
      rw [if_neg old, if_neg (by omega), next later]

theorem repeats_exact : repeats names = (List.range names.length).filterMap (secondAt names) := by
  rw [List.range_eq_range']
  have nothing : Kept [] [] [] := ⟨by simp, by simp⟩
  exact repeatsFrom_exact nothing

theorem Second.place_lt (second : Second names name place) : place < names.length :=
  (List.getElem?_eq_some_iff.mp second.1).1

-- Up to any later place the name is met once more.
theorem Second.again (second : Second names name place) (late : place < later) :
    2 ≤ (names.take later).count name := by
  have now : (names.take (place + 1)).count name = 2 := by
    rw [List.take_add_one, second.1]
    simp [second.2]
  rw [← now]
  exact (List.take_sublist_take_left late).count_le name

theorem Second.alone (one : Second names name place) (two : Second names name later) : place = later := by
  rcases Nat.lt_trichotomy place later with early | same | late
  · have twice := one.again early
    have once := two.2
    omega
  · exact same
  · have twice := two.again late
    have once := one.2
    omega

theorem second_exists : (∃ place, Second names name place) ↔ 2 ≤ names.count name := by
  constructor
  · rintro ⟨place, second⟩
    have whole := second.again second.place_lt
    rwa [List.take_length] at whole
  · intro twice
    induction names using List.reverseRecOn with
    | nil => simp at twice
    | append_singleton names last ih =>
      by_cases early : 2 ≤ names.count name
      · obtain ⟨place, second⟩ := ih early
        have inside := second.place_lt
        refine ⟨place, ?_, ?_⟩
        · rw [List.getElem?_append_left inside, second.1]
        · rw [List.take_append_of_le_length (Nat.le_of_lt inside), second.2]
      · rw [count_next] at twice
        split at twice
        · rename_i same
          refine ⟨names.length, ?_, ?_⟩
          · simp [same]
          · rw [List.take_left]
            omega
        · omega

theorem mem_repeats : name ∈ repeats names ↔ 2 ≤ names.count name := by
  rw [repeats_exact, List.mem_filterMap, ← second_exists]
  constructor
  · rintro ⟨place, _, found⟩
    exact ⟨place, secondAt_exact.mp found⟩
  · rintro ⟨place, second⟩
    exact ⟨place, List.mem_range.mpr second.place_lt, secondAt_exact.mpr second⟩

-- One name comes for the second time before another does.
def Sooner (names : List String) (first second : String) : Prop :=
  ∃ place later, Second names first place ∧ Second names second later ∧ place < later

theorem repeats_sooner : (repeats names).Pairwise (Sooner names) := by
  rw [repeats_exact, List.pairwise_filterMap]
  apply List.pairwise_lt_range.imp
  intro place later early first found second found'
  exact ⟨place, later, secondAt_exact.mp found, secondAt_exact.mp found', early⟩

theorem Sooner.asymm {first second : String} (sooner : Sooner names first second) : ¬ Sooner names second first := by
  rintro ⟨place, later, one, two, late⟩
  obtain ⟨place', later', one', two', early⟩ := sooner
  obtain rfl := one.alone two'
  obtain rfl := two.alone one'
  omega

theorem Sooner.ne {first second : String} (sooner : Sooner names first second) : first ≠ second := by
  rintro rfl
  exact sooner.asymm sooner

theorem repeats_nil : repeats names = [] ↔ names.Nodup := by
  rw [List.eq_nil_iff_forall_not_mem, List.nodup_iff_count_le_one]
  simp only [mem_repeats]
  exact forall_congr' fun name => by omega

theorem check_ok : check names = .ok () ↔ names.Nodup := by
  rw [← repeats_nil, check]
  split <;> simp_all

theorem check_error : check names = .error repeated ↔ repeats names = repeated ∧ repeated ≠ [] := by
  rw [check]
  split <;> simp_all
  rintro rfl
  assumption

-- A list of the names that come more than once, each listed once, by their second places.
structure Lists (names repeated : List String) : Prop where
  exact : ∀ name, name ∈ repeated ↔ 2 ≤ names.count name
  once : repeated.Nodup
  ordered : repeated.Pairwise (Sooner names)

theorem repeats_lists : Lists names (repeats names) :=
  ⟨fun _ => mem_repeats, repeats_sooner.imp Sooner.ne, repeats_sooner⟩

theorem Lists.unique {one two : List String} (first : Lists names one) (second : Lists names two) : one = two := by
  have same : one.Perm two := (List.perm_ext_iff_of_nodup first.once second.once).mpr fun name => by
    rw [first.exact, second.exact]
  exact same.eq_of_pairwise (fun _ _ _ _ before after => absurd after before.asymm) first.ordered second.ordered

-- Names are refused exactly when two of them are the same, and the error lists those that
-- come more than once and nothing else.
theorem check_exact (names : List String) :
    (check names = .ok () ↔ names.Nodup) ∧
    ∀ repeated, check names = .error repeated ↔ ¬ names.Nodup ∧ Lists names repeated := by
  refine ⟨check_ok, fun repeated => ?_⟩
  rw [check_error, ← repeats_nil]
  constructor
  · rintro ⟨rfl, some_⟩
    exact ⟨some_, repeats_lists⟩
  · rintro ⟨some_, lists⟩
    obtain rfl := lists.unique repeats_lists
    exact ⟨rfl, some_⟩

-- The order is that of the second places, so a name that comes first may be listed last.
example : check ["B", "A", "A", "B", "A"] = .error ["A", "B"] := by decide

end TrialBench.Names
