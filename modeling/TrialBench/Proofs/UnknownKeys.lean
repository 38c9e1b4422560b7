import TrialBench.Proofs.Resolution
namespace TrialBench.Settings

-- A key that the schema does not know, in a table that it does.
def Strange : Schema → List String → Prop
  | .record fields, key :: rest =>
    match fields.lookup key with
    | none => rest = []
    | some sub => Strange sub rest
  | .profiles base, key :: rest => key = baseName ∧ Strange base rest
  | _, _ => False

-- A place that the schema knows and looks no further into.
def Settled : Schema → List String → Prop
  | .value, [] => True
  | .record fields, key :: rest => ∃ sub, fields.lookup key = some sub ∧ Settled sub rest
  | .profiles base, key :: rest => key = baseName → Settled base rest
  | _, _ => False

-- No list stands in a tree where the schema has a record.
inductive Clear : Schema → Tree → Prop where
  | value {tree : Tree} : Clear .value tree
  | record {fields : List (String × Schema)} {tree : Tree} (alone : ¬ tree.IsList)
      (under : ∀ key sub value, fields.lookup key = some sub → tree.get? key = some value → Clear sub value) :
      Clear (.record fields) tree
  | profiles {base : Schema} {tree : Tree}
      (under : ∀ value, tree.get? baseName = some value → Clear base value) : Clear (.profiles base) tree

-- The unknown keys of a tree, each listed once with the path before it.
structure Finds (found : List (List String)) (schema : Schema) (path : List String) (tree : Tree) : Prop where
  exact : ∀ key, key ∈ found ↔ ∃ rest, key = path ++ rest ∧ Strange schema rest ∧ (tree.at? rest).isSome
  once : found.Nodup

section
variable {schema : Schema} {tree : Tree} {path one other : List String}

-- No unknown key stands under another one, and none above or under a place that is known.
theorem Strange.apart (here : Strange schema one) (there : Strange schema other) (prefixed : one <+: other) :
    one = other := by
  induction one generalizing schema other with
  | nil => cases schema <;> exact here.elim
  | cons key one ih =>
    obtain ⟨rest, rfl⟩ := prefixed
    cases schema with
    | value => exact here.elim
    | record fields =>
      unfold Strange at here there
      split at here
      · cases here
        rename_i absent
        simp only [List.cons_append, List.nil_append, absent] at there
        rw [there]
        rfl
      · rename_i sub found
        simp only [List.cons_append, found] at there
        exact congrArg _ (ih here there (List.prefix_append _ _))
    | profiles base => exact congrArg _ (ih here.2 there.2 (List.prefix_append _ _))

theorem Settled.apart (settled : Settled schema path) (strange : Strange schema one) :
    ¬ one <+: path ∧ ¬ path <+: one := by
  induction one generalizing schema path with
  | nil => cases schema <;> exact strange.elim
  | cons key one ih =>
    cases path with
    | nil =>
      cases schema with
      | value => exact strange.elim
      | record | profiles => exact settled.elim
    | cons first path =>
      rw [List.cons_prefix_cons, List.cons_prefix_cons]
      by_cases same : key = first
      · subst same
        have under : ¬ one <+: path ∧ ¬ path <+: one := by
          cases schema with
          | value => exact strange.elim
          | record fields =>
            obtain ⟨sub, found, settled⟩ := settled
            simp only [Strange, found] at strange
            exact ih settled strange
          | profiles base => exact ih (settled strange.1) strange.2
        exact under.imp (mt And.right) (mt And.right)
      · exact ⟨fun both => same both.1, fun both => same both.1.symm⟩

theorem unknownEntries_exact {fields : List (String × Schema)} {items : Entries} :
    unknownEntries fields path items = items.flatMap fun entry =>
      match fields.lookup entry.1 with
      | none => [path ++ [entry.1]]
      | some sub => unknownKeys sub (path ++ [entry.1]) entry.2 := by
  induction items with
  | nil => simp only [unknownEntries, List.flatMap_nil]
  | cons entry rest ih =>
    cases known : fields.lookup entry.1 <;> simp only [unknownEntries, List.flatMap_cons, known, ih]

theorem unknownBase_exact {base : Schema} {items : Entries} :
    unknownBase base path items = items.flatMap fun entry =>
      if entry.1 = baseName then unknownKeys base (path ++ [entry.1]) entry.2 else [] := by
  induction items with
  | nil => simp only [unknownBase, List.flatMap_nil]
  | cons entry rest ih => rw [unknownBase, ih, List.flatMap_cons]

-- A table is gone through entry by entry, and what is found under one entry starts with its
-- name.
theorem Finds.table {asWritten : Bool} {items : Entries} {part : String × Tree → List (List String)}
    (distinct : (items.map (·.1)).Nodup) (top : ¬ Strange schema [])
    (each : ∀ name value, (name, value) ∈ items → (part (name, value)).Nodup ∧ ∀ key, key ∈ part (name, value) ↔
      ∃ rest, key = path ++ name :: rest ∧ Strange schema (name :: rest) ∧ (value.at? rest).isSome) :
    Finds (items.flatMap part) schema path (.table asWritten items) := by
  constructor
  · intro key
    rw [List.mem_flatMap]
    constructor
    · rintro ⟨⟨name, value⟩, member, found⟩
      obtain ⟨rest, same, strange, there⟩ := ((each name value member).2 key).mp found
      refine ⟨name :: rest, same, strange, ?_⟩
      have looked : Tree.get? (.table asWritten items) name = some value := lookup_of_member distinct member
      rwa [Tree.at?, looked, Option.bind_some]
    · rintro ⟨rest, same, strange, there⟩
      cases rest with
      | nil => exact absurd strange top
      | cons name rest =>
        obtain ⟨inner, there⟩ := Option.isSome_iff_exists.mp there
        obtain ⟨value, found, there⟩ := at_section there
        have member : (name, value) ∈ items := lookup_member found
        exact ⟨_, member, ((each name value member).2 key).mpr ⟨rest, same, strange, by rw [there]; rfl⟩⟩
  · refine List.nodup_flatMap.mpr ⟨fun entry member => (each _ _ member).1, ?_⟩
    refine (List.pairwise_map.mp distinct).imp_of_mem ?_
    rintro ⟨name, value⟩ ⟨name', value'⟩ member member' apart key found found'
    obtain ⟨rest, same, -⟩ := ((each _ _ member).2 key).mp found
    obtain ⟨rest', same', -⟩ := ((each _ _ member').2 key).mp found'
    exact apart (List.cons.inj (List.append_cancel_left (same.symm.trans same'))).1

theorem Finds.none (bare : ∀ rest, Strange schema rest → tree.at? rest = none) : Finds [] schema path tree := by
  refine ⟨fun key => ⟨fun found => (List.not_mem_nil found).elim, ?_⟩, List.nodup_nil⟩
  rintro ⟨rest, -, strange, there⟩
  rw [bare rest strange] at there
  cases there

theorem strange_inside {rest : List String} (alone : ¬ tree.IsTable) (strange : Strange schema rest) :
    tree.at? rest = none := by
  cases rest with
  | nil => cases schema <;> exact strange.elim
  | cons key rest =>
    cases tree with
    | table => exact absurd trivial alone
    | nothing | scalar | list => rfl

theorem unknownKeys_exact (tidy : Tidy tree) (clear : Clear schema tree) :
    Finds (unknownKeys schema path tree) schema path tree := by
  induction clear generalizing path with
  | @value tree =>
    have silent : unknownKeys .value path tree = [] := by cases tree <;> simp only [unknownKeys]
    rw [silent]
    exact .none fun rest strange => by cases rest <;> exact strange.elim
  | @record fields tree alone under ih =>
    cases tidy with
    | list => exact absurd trivial alone
    | nothing | scalar =>
      rw [unknownKeys]
      · exact .none fun rest => strange_inside id
      all_goals simp
    | @table asWritten items distinct given tidy =>
      rw [unknownKeys, unknownEntries_exact]
      refine .table distinct id fun name value member => ?_
      dsimp only
      split
      · rename_i absent
        refine ⟨List.nodup_singleton _, fun key => ?_⟩
        simp only [List.mem_singleton, Strange, absent]
        constructor
        · rintro rfl
          exact ⟨[], rfl, rfl, rfl⟩
        · rintro ⟨_, same, rfl, -⟩
          exact same
      · rename_i sub known
        have found : Tree.get? (.table asWritten items) name = some value := lookup_of_member distinct member
        have finds : Finds (unknownKeys sub (path ++ [name]) value) sub (path ++ [name]) value :=
          ih name sub value known found (tidy _ member)
        refine ⟨finds.once, fun key => ?_⟩
        rw [finds.exact]
        simp only [Strange, known, List.append_assoc, List.singleton_append]
  | @profiles base tree under ih =>
    cases tidy with
    | list | nothing | scalar =>
      rw [unknownKeys]
      · exact .none fun rest => strange_inside id
      all_goals simp
    | @table asWritten items distinct given tidy =>
      rw [unknownKeys, unknownBase_exact]
      refine .table distinct id fun name value member => ?_
      dsimp only
      split
      · rename_i named
        subst named
        have finds : Finds (unknownKeys base (path ++ [baseName]) value) base (path ++ [baseName]) value :=
          ih value (lookup_of_member distinct member) (tidy _ member)
        refine ⟨finds.once, fun key => ?_⟩
        rw [finds.exact]
        simp only [Strange, true_and, List.append_assoc, List.singleton_append]
      · rename_i apart
        refine ⟨List.nodup_nil, fun key => ?_⟩
        simp only [Strange, apart, false_and, and_false, exists_false, List.not_mem_nil]

theorem Finds.listed {found : List (List String)} (finds : Finds found schema [] tree) :
    path ∈ found ↔ Strange schema path ∧ (tree.at? path).isSome := by
  rw [finds.exact]
  exact ⟨fun ⟨_, same, found⟩ => same ▸ found, fun found => ⟨path, rfl, found⟩⟩

end

section
variable {tree : Tree} {path : List String}

theorem schema_field {name : String} {sub : Schema}
    (known : List.lookup name [("store", .record [("dir", .value)]), ("profile", .profiles baseSchema)] = some sub) :
    name = "store" ∧ sub = .record [("dir", .value)] ∨ name = "profile" ∧ sub = .profiles baseSchema := by
  simpa using lookup_member known

theorem base_field {name : String} {sub : Schema}
    (known : List.lookup name [("message-timeout", .value), ("fail-fast", .value), ("junit", reportSchema)] =
      some sub) :
    name = "message-timeout" ∧ sub = .value ∨ name = "fail-fast" ∧ sub = .value ∨
      name = "junit" ∧ sub = reportSchema := by
  simpa using lookup_member known

theorem clear_values {fields : List (String × Schema)} (alone : ¬ tree.IsList)
    (single : ∀ entry ∈ fields, entry.2 = .value) : Clear (.record fields) tree := by
  refine .record alone fun key sub value known _ => ?_
  cases single _ (lookup_member known)
  exact .value

theorem clear_of_tabular (top : ¬ tree.IsList) (tabular : Tabular tree baseName) : Clear schema tree := by
  have table {path : List String} (listed : path ∈ tables baseName) {value : Tree}
      (found : tree.at? path = some value) : ¬ value.IsList := (tabular path listed value found).not_list
  refine .record top fun name sub value known found => ?_
  rcases schema_field known with ⟨rfl, rfl⟩ | ⟨rfl, rfl⟩
  · exact clear_values (table (by simp [tables]) (at_key.trans found)) (by simp)
  refine .profiles fun base baseAt => ?_
  have within (path : List String) : tree.at? ("profile" :: baseName :: path) = base.at? path := by
    rw [Tree.at?, found, Option.bind_some, Tree.at?, baseAt, Option.bind_some]
  refine .record (table (by simp [tables]) (within [])) fun name sub report known reportAt => ?_
  rcases base_field known with ⟨rfl, rfl⟩ | ⟨rfl, rfl⟩ | ⟨rfl, rfl⟩
  · exact .value
  · exact .value
  · exact clear_values (table (by simp [tables]) ((within _).trans (at_key.trans reportAt))) (by simp)

end

end TrialBench.Settings
