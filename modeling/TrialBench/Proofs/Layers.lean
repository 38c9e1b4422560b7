import Mathlib.Data.List.Basic
import TrialBench.Settings.Load
namespace TrialBench.Settings

section
variable {α : Type} {name other : String} {value : α} {rest named : List (String × α)}

theorem lookup_named :
    ((name, value) :: rest).lookup other = if other = name then some value else rest.lookup other := by
  rw [List.lookup_cons]
  by_cases same : other = name
  · simp [same]
  · simp [same, beq_false_of_ne same]

theorem lookup_member (found : named.lookup name = some value) : (name, value) ∈ named := by
  obtain ⟨before, after, rfl, -⟩ := List.lookup_eq_some_iff.mp found
  simp

end

namespace Tree
variable {key other : String} {g : Tree → Tree} {items : Entries} {tree value under : Tree}

def IsTable : Tree → Prop
  | .table _ _ => True
  | _ => False

def IsList : Tree → Prop
  | .list _ _ => True
  | _ => False

theorem IsTable.not_list (table : tree.IsTable) : ¬ tree.IsList := by
  cases tree <;> first | exact id | exact table.elim

theorem IsTable.asTable (table : tree.IsTable) : tree.asTable = tree := by
  cases tree <;> first | rfl | exact table.elim

-- What stands at a path of keys.
def at? : List String → Tree → Option Tree
  | [], tree => some tree
  | key :: path, tree => (tree.get? key).bind (at? path)

theorem lookup_change : (change key g items).lookup other =
    if other = key then some (g ((items.lookup key).getD .nothing)) else items.lookup other := by
  induction items with
  | nil => exact lookup_named
  | cons entry rest ih =>
    obtain ⟨name, old⟩ := entry
    unfold change
    by_cases named : name = key
    · subst named
      rw [if_pos rfl, lookup_named, lookup_named, lookup_named, if_pos rfl]
      by_cases same : other = name
      · rw [if_pos same, if_pos same]
        rfl
      · rw [if_neg same, if_neg same, if_neg same]
    · rw [if_neg named, lookup_named, lookup_named, lookup_named, ih, if_neg (Ne.symm named)]
      by_cases same : other = name
      · subst same
        rw [if_pos rfl, if_neg named, if_pos rfl]
      · rw [if_neg same, if_neg same]

theorem get?_changeKey : (changeKey key g tree).get? other =
    if other = key then some (g ((tree.get? key).getD .nothing)) else tree.get? other := by
  cases tree with
  | table asWritten items => exact lookup_change
  | nothing | scalar | list => exact lookup_change

theorem changeKey_table : (changeKey key g tree).IsTable := by
  cases tree <;> trivial

end Tree

-- Settings without lists, under which a file may be layered in any way.
inductive Listless : Tree → Prop where
  | nothing : Listless .nothing
  | scalar {value : Scalar} : Listless (.scalar value)
  | table {asWritten : Bool} {items : Entries} (under : ∀ entry ∈ items, Listless entry.2) :
      Listless (.table asWritten items)

-- What stands at one place in the lower layer, in the upper layer by itself, and in the
-- two of them merged. The upper layer is silent, or it covers the lower one, or both are
-- tables that are merged key by key.
inductive Layered : Option Tree → Option Tree → Option Tree → Prop where
  | silent {low : Option Tree} : Layered low none low
  | covered {low up : Option Tree} : Layered low up up
  | merged {low up both : Tree} (lower : low.IsTable) (upper : up.IsTable) (table : both.IsTable)
      (under : ∀ key, Layered (low.get? key) (up.get? key) (both.get? key)) :
      Layered (some low) (some up) (some both)

-- A change of a tree that keeps a layer in its place above another.
def Follows (g : Tree → Tree) : Prop :=
  ∀ low up both, (∀ tree, low = some tree → Listless tree) → Layered low up both →
    Layered low (some (g (up.getD .nothing))) (some (g (both.getD .nothing)))

namespace Layered
variable {low up both : Option Tree} {g : Tree → Tree} {key : String} {path : List String}

theorem bind (layered : Layered low up both) :
    Layered (low.bind (·.get? key)) (up.bind (·.get? key)) (both.bind (·.get? key)) := by
  cases layered with
  | silent => exact .silent
  | covered => exact .covered
  | merged _ _ _ under => exact under key

theorem at_path (layered : Layered low up both) :
    Layered (low.bind (Tree.at? path)) (up.bind (Tree.at? path)) (both.bind (Tree.at? path)) := by
  induction path generalizing low up both with
  | nil =>
    have same (tree : Option Tree) : tree.bind (Tree.at? []) = tree := by cases tree <;> rfl
    rwa [same, same, same]
  | cons key path ih =>
    have step (tree : Option Tree) :
        tree.bind (Tree.at? (key :: path)) = (tree.bind (·.get? key)).bind (Tree.at? path) := by
      cases tree <;> rfl
    rw [step, step, step]
    exact ih layered.bind

end Layered

theorem Listless.get? {tree value : Tree} {key : String} (listless : Listless tree)
    (found : tree.get? key = some value) : Listless value := by
  cases listless with
  | nothing | scalar => cases found
  | table under => exact under _ (lookup_member found)

theorem Listless.not_list {tree : Tree} (listless : Listless tree) : ¬ tree.IsList := by
  cases listless <;> exact id

namespace Follows
variable {g : Tree → Tree} {key : String}

theorem under_key {low up both : Tree} (follows : Follows g) (listless : Listless low)
    (under : ∀ other, Layered (low.get? other) (up.get? other) (both.get? other)) (other : String) :
    Layered (low.get? other) ((up.changeKey key g).get? other) ((both.changeKey key g).get? other) := by
  rw [Tree.get?_changeKey, Tree.get?_changeKey]
  by_cases same : other = key
  · subst same
    rw [if_pos rfl, if_pos rfl]
    exact follows _ _ _ (fun tree found => listless.get? found) (under other)
  · rw [if_neg same, if_neg same]
    exact under other

theorem changeKey (follows : Follows g) : Follows (Tree.changeKey key g) := by
  intro low up both listless layered
  cases layered with
  | covered => exact .covered
  | @merged low up both lower upper table under =>
    exact .merged lower Tree.changeKey_table Tree.changeKey_table (under_key follows (listless low rfl) under)
  | silent =>
    cases low with
    | none => exact .covered
    | some low =>
      cases listless low rfl with
      | nothing | scalar => exact .covered
      | table under =>
        refine .merged trivial Tree.changeKey_table Tree.changeKey_table ?_
        exact under_key follows (.table under) fun other => .silent

-- Where a tree that is no list is replaced as a whole, the file covers what is under it.
theorem replace (blind : ∀ tree other : Tree, ¬ tree.IsList → ¬ other.IsList → g tree = g other) : Follows g := by
  intro low up both listless layered
  cases layered with
  | covered => exact .covered
  | @merged low up both _ upper table =>
    rw [Option.getD_some, Option.getD_some, blind up both upper.not_list table.not_list]
    exact .covered
  | silent =>
    cases low with
    | none => exact .covered
    | some low =>
      rw [Option.getD_none, Option.getD_some, blind .nothing low id (listless low rfl).not_list]
      exact .covered

theorem changeAt (follows : Follows g) {path : List KeyStep} : Follows (Tree.changeAt g path) := by
  induction path with
  | nil => exact follows
  | cons step path ih =>
    cases step with
    | key name => exact ih.changeKey
    | index index =>
      apply replace
      intro tree other alone apart
      cases tree <;> cases other <;> first | rfl | exact absurd trivial alone | exact absurd trivial apart

theorem asTable : Follows Tree.asTable := by
  intro low up both listless layered
  cases layered with
  | covered => exact .covered
  | @merged low up both lower upper table under =>
    rw [Option.getD_some, Option.getD_some, upper.asTable, table.asTable]
    exact .merged lower upper table under
  | silent =>
    cases low with
    | none => exact .covered
    | some low =>
      cases listless low rfl with
      | nothing | scalar => exact .covered
      | table => exact .merged trivial trivial trivial fun key => .silent

end Follows

-- The same for a change of what is already there.
def Keeps (g : Tree → Tree) : Prop :=
  ∀ low up both, (∀ tree, low = some tree → Listless tree) → Layered low (some up) (some both) →
    Layered low (some (g up)) (some (g both))

theorem Follows.keeps {g : Tree → Tree} (follows : Follows g) : Keeps g :=
  fun low up both listless layered => follows low (some up) (some both) listless layered

theorem Keeps.after {g h : Tree → Tree} (keeps : Keeps g) (follows : Follows h) : Follows fun tree => g (h tree) :=
  fun low up both listless layered => keeps _ _ _ listless (follows low up both listless layered)

mutual
theorem merge_follows : (value : Tree) → Follows value.merge
  | .nothing | .scalar _ | .list _ _ => .replace fun _ _ _ _ => by simp only [Tree.merge]
  | .table asWritten entries => by
    have same : Tree.merge (.table asWritten entries) = fun under => Tree.mergeEntries entries under.asTable := by
      funext under
      rw [Tree.merge]
    rw [same]
    exact (mergeEntries_keeps entries).after .asTable
theorem mergeEntries_keeps : (entries : Entries) → Keeps (Tree.mergeEntries entries)
  | [] => fun low up both listless layered => by simpa only [Tree.mergeEntries] using layered
  | (key, value) :: rest => fun low up both listless layered => by
    rw [Tree.mergeEntries, Tree.mergeEntries]
    exact mergeEntries_keeps rest _ _ _ listless ((merge_follows value).changeKey.keeps _ _ _ listless layered)
end

theorem addLayer_keeps {layer : Entries} : Keeps fun tree => tree.addLayer layer := by
  intro low up both listless layered
  unfold Tree.addLayer
  induction layer generalizing up both with
  | nil => exact layered
  | cons entry layer ih =>
    apply ih
    exact (merge_follows entry.2).changeAt.keeps _ _ _ listless layered

theorem builtin_exact : builtinTree = .table false
    [("store", .table false [("dir", .scalar (.text "target/outcome-harness"))]),
      ("profile", .table false [("default", .table false [
        ("message-timeout", .scalar (.text "5m")),
        ("fail-fast", .scalar (.boolean false)),
        ("junit", .table false [("report-name", .scalar (.text "outcome-harness-run"))])])])] := by
  rfl

theorem Listless.all_of {asWritten : Bool} {items : Entries} (under : items.Forall fun entry => Listless entry.2) :
    Listless (.table asWritten items) := .table (List.forall_iff_forall_mem.mp under)

theorem builtin_listless : Listless builtinTree := by
  rw [builtin_exact]
  refine .all_of ⟨.all_of .scalar, .all_of (.all_of ⟨.scalar, .scalar, .all_of .scalar⟩)⟩

-- What a file says by itself, its top-level paths expanded.
def fileTree (layer : Entries) : Tree := Tree.empty.addLayer layer

-- A file's settings over the built-in ones.
theorem layered_file {layer : Entries} {path : List String} :
    Layered (builtinTree.at? path) ((fileTree layer).at? path) ((builtinTree.addLayer layer).at? path) := by
  have start : Layered (some builtinTree) (some Tree.empty) (some builtinTree) :=
    .merged trivial trivial trivial fun key => .silent
  have listless (tree : Tree) (same : some builtinTree = some tree) : Listless tree := by
    cases same
    exact builtin_listless
  exact (addLayer_keeps _ _ _ listless start).at_path

-- Settings whose tables name each key once and give it a value. What stands inside of a
-- list may be anything.
inductive Tidy : Tree → Prop where
  | nothing : Tidy .nothing
  | scalar {value : Scalar} : Tidy (.scalar value)
  | list {asWritten : Bool} {items : List Tree} : Tidy (.list asWritten items)
  | table {asWritten : Bool} {items : Entries} (distinct : (items.map (·.1)).Nodup)
      (given : ∀ entry ∈ items, entry.2 ≠ .nothing) (under : ∀ entry ∈ items, Tidy entry.2) :
      Tidy (.table asWritten items)

-- A value as a file can give it.
inductive Written : Tree → Prop where
  | scalar {value : Scalar} : Written (.scalar value)
  | list {asWritten : Bool} {items : List Tree} : Written (.list asWritten items)
  | table {asWritten : Bool} {items : Entries} (under : ∀ entry ∈ items, Written entry.2) :
      Written (.table asWritten items)

def Tidies (g : Tree → Tree) : Prop := ∀ tree, Tidy tree → Tidy (g tree) ∧ g tree ≠ .nothing

section
variable {key : String} {g : Tree → Tree} {items : Entries} {entry : String × Tree} {tree : Tree}

theorem change_keys : (Tree.change key g items).map (·.1) =
    if key ∈ items.map (·.1) then items.map (·.1) else items.map (·.1) ++ [key] := by
  induction items with
  | nil => rfl
  | cons first rest ih =>
    obtain ⟨name, old⟩ := first
    unfold Tree.change
    by_cases named : name = key
    · subst named
      rw [if_pos rfl, if_pos (by simp)]
      rfl
    · have apart : key ≠ name := Ne.symm named
      rw [if_neg named, List.map_cons, ih, List.map_cons]
      by_cases later : key ∈ rest.map (·.1)
      · rw [if_pos later, if_pos (List.mem_cons_of_mem _ later)]
      · rw [if_neg later, if_neg (List.not_mem_cons_of_ne_of_not_mem apart later)]
        rfl

theorem change_member (member : entry ∈ Tree.change key g items) :
    entry ∈ items ∨ ∃ old, (old = .nothing ∨ (key, old) ∈ items) ∧ entry = (key, g old) := by
  induction items with
  | nil =>
    obtain rfl := List.mem_singleton.mp member
    exact .inr ⟨.nothing, .inl rfl, rfl⟩
  | cons first rest ih =>
    obtain ⟨name, old⟩ := first
    unfold Tree.change at member
    split at member
    · rename_i named
      subst named
      rcases List.mem_cons.mp member with rfl | later
      · exact .inr ⟨old, .inr List.mem_cons_self, rfl⟩
      · exact .inl (List.mem_cons_of_mem _ later)
    · rcases List.mem_cons.mp member with rfl | later
      · exact .inl List.mem_cons_self
      · refine (ih later).imp (List.mem_cons_of_mem _) ?_
        rintro ⟨old, from_, same⟩
        exact ⟨old, from_.imp id (List.mem_cons_of_mem _), same⟩

theorem change_tidy {asWritten : Bool} (tidies : Tidies g) (tidy : Tidy (.table asWritten items)) {later : Bool} :
    Tidy (.table later (Tree.change key g items)) := by
  cases tidy with
  | table distinct given under =>
    have changed (entry : String × Tree) (member : entry ∈ Tree.change key g items) :
        entry.2 ≠ .nothing ∧ Tidy entry.2 := by
      rcases change_member member with old | ⟨old, absent | there, rfl⟩
      · exact ⟨given entry old, under entry old⟩
      · subst absent
        exact (tidies _ .nothing).symm
      · exact (tidies _ (under _ there)).symm
    refine .table ?_ (fun entry member => (changed entry member).1) (fun entry member => (changed entry member).2)
    rw [change_keys]
    split
    · exact distinct
    · rename_i fresh
      exact List.nodup_append.mpr ⟨distinct, by simp, fun name member other last same =>
        fresh (List.mem_singleton.mp last ▸ same ▸ member)⟩

theorem Tidies.changeKey (tidies : Tidies g) : Tidies (Tree.changeKey key g) := by
  intro tree tidy
  refine ⟨?_, fun same => ?_⟩
  · have empty : Tidy (.table false []) := .table List.nodup_nil (by simp) (by simp)
    cases tree with
    | table => exact change_tidy tidies tidy
    | nothing | scalar | list => exact change_tidy tidies empty
  · have table := @Tree.changeKey_table key g tree
    rw [same] at table
    exact table

theorem Tidies.changeAt (tidies : Tidies g) {path : List KeyStep} : Tidies (Tree.changeAt g path) := by
  induction path with
  | nil => exact tidies
  | cons step path ih =>
    cases step with
    | key name => exact ih.changeKey
    | index index =>
      intro tree _
      cases tree <;> exact ⟨.list, by simp [Tree.changeAt]⟩

end

mutual
theorem merge_tidies : (value : Tree) → Written value → Tidies value.merge
  | .nothing, written => by cases written
  | .scalar _, _ => fun _ _ => by
    simp only [Tree.merge]
    exact ⟨.scalar, by simp⟩
  | .list _ _, _ => fun _ _ => by
    simp only [Tree.merge]
    exact ⟨.list, by simp⟩
  | .table _ items, .table under => fun tree tidy => by
    have start : Tidy tree.asTable ∧ tree.asTable.IsTable := by
      cases tree with
      | table => exact ⟨tidy, trivial⟩
      | nothing | scalar | list => exact ⟨.table List.nodup_nil (by simp) (by simp), trivial⟩
    rw [Tree.merge]
    obtain ⟨tidied, table⟩ := mergeEntries_tidy items under _ start
    refine ⟨tidied, fun same => ?_⟩
    rw [same] at table
    exact table
theorem mergeEntries_tidy : (items : Entries) → (∀ entry ∈ items, Written entry.2) → ∀ tree : Tree,
    Tidy tree ∧ tree.IsTable → Tidy (Tree.mergeEntries items tree) ∧ (Tree.mergeEntries items tree).IsTable
  | [], _, tree, start => by
    rw [Tree.mergeEntries]
    exact start
  | (key, value) :: rest, written, tree, start => by
    rw [Tree.mergeEntries]
    apply mergeEntries_tidy rest (fun entry member => written entry (List.mem_cons_of_mem _ member))
    have tidies := merge_tidies value (written _ List.mem_cons_self)
    exact ⟨(tidies.changeKey tree start.1).1, Tree.changeKey_table⟩
end

mutual
theorem ofToml_written : (value : Toml.Value) → Written (Tree.ofToml value)
  | .text _ | .integer _ | .real _ | .boolean _ | .moment _ => by
    rw [Tree.ofToml]
    exact .scalar
  | .array _ => by
    rw [Tree.ofToml]
    exact .list
  | .table entries => by
    rw [Tree.ofToml]
    exact .table (entriesOfToml_written entries)
theorem entriesOfToml_written : (table : Toml.Table) → ∀ entry ∈ Tree.entriesOfToml table, Written entry.2
  | [] => fun entry member => by
    rw [Tree.entriesOfToml] at member
    cases member
  | (key, value) :: rest => fun entry member => by
    rw [Tree.entriesOfToml] at member
    rcases List.mem_cons.mp member with rfl | later
    · exact ofToml_written value
    · exact entriesOfToml_written rest entry later
end

theorem addLayer_tidy {tree : Tree} {layer : Entries} (tidy : Tidy tree) (written : ∀ entry ∈ layer, Written entry.2) :
    Tidy (tree.addLayer layer) := by
  unfold Tree.addLayer
  induction layer generalizing tree with
  | nil => exact tidy
  | cons entry layer ih =>
    apply ih
    · exact ((merge_tidies entry.2 (written entry List.mem_cons_self)).changeAt tree tidy).1
    · exact fun later member => written later (List.mem_cons_of_mem _ member)

theorem Written.all_of {asWritten : Bool} {items : Entries} (under : items.Forall fun entry => Written entry.2) :
    Written (.table asWritten items) := .table (List.forall_iff_forall_mem.mp under)

theorem builtin_tidy : Tidy builtinTree := by
  have written : builtinLayer.Forall fun entry => Written entry.2 :=
    ⟨.all_of .scalar, .all_of (.all_of ⟨.scalar, .scalar, .all_of .scalar⟩)⟩
  have empty : Tidy Tree.empty := .table List.nodup_nil (by simp) (by simp)
  exact addLayer_tidy empty (List.forall_iff_forall_mem.mp written)

theorem Tidy.get? {tree value : Tree} {key : String} (tidy : Tidy tree) (found : tree.get? key = some value) :
    Tidy value ∧ value ≠ .nothing := by
  cases tidy with
  | nothing | scalar | list => cases found
  | table distinct given under =>
    have member := lookup_member found
    exact ⟨under _ member, given _ member⟩

end TrialBench.Settings
