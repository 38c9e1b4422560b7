import TrialBench.Proofs.Layers
namespace TrialBench.Settings

-- Keys that are to be lost, each by the names that lead to it; the same seen from below a
-- name and from the end of a path.
def below (name : String) (gone : List String → Prop) : List String → Prop := fun path => gone (name :: path)

def beneath : List KeyStep → (List String → Prop) → List String → Prop
  | [], gone => gone
  | .key name :: rest, gone => beneath rest (below name gone)
  | .index _ :: _, _ => fun _ => False

-- A path that leads to a lost key, or through one.
def Reaches : List KeyStep → (List String → Prop) → Prop
  | .key name :: rest, gone => gone [name] ∨ Reaches rest (below name gone)
  | _, _ => False

-- Nothing is lost at a path, above it or under it.
def Free (gone : List String → Prop) (path : List String) : Prop :=
  ∀ lost, gone lost → ¬ lost <+: path ∧ ¬ path <+: lost

-- Two trees that are alike where nothing is lost, and the second has none of the lost keys.
structure Shed (gone : List String → Prop) (full lean : Option Tree) : Prop where
  alike : ∀ path, Free gone path → full.bind (Tree.at? path) = lean.bind (Tree.at? path)
  bare : ∀ path, gone path → lean.bind (Tree.at? path) = none

section
variable {gone : List String → Prop} {steps : List KeyStep} {name : String} {path : List String}

theorem Reaches.lost (reaches : Reaches steps gone) : ∃ path, gone path := by
  induction steps generalizing gone with
  | nil => exact reaches.elim
  | cons step steps ih =>
    cases step with
    | index => exact reaches.elim
    | key name =>
      rcases reaches with here | later
      · exact ⟨_, here⟩
      · obtain ⟨path, lost⟩ := ih later
        exact ⟨_, lost⟩

theorem free_below (top : ¬ gone []) : Free gone (name :: path) ↔ Free (below name gone) path := by
  constructor
  · intro free lost there
    have apart := free _ there
    rwa [List.prefix_cons_inj, List.prefix_cons_inj] at apart
  · intro free lost there
    cases lost with
    | nil => exact absurd there top
    | cons first lost =>
      rw [List.cons_prefix_cons, List.cons_prefix_cons]
      by_cases same : first = name
      · subst same
        exact (free lost there).imp (mt And.right) (mt And.right)
      · exact ⟨fun both => same both.1, fun both => same both.1.symm⟩

end

theorem bind_at {tree : Option Tree} {name : String} {path : List String} :
    tree.bind (Tree.at? (name :: path)) = (tree.bind (·.get? name)).bind (Tree.at? path) := by
  cases tree <;> rfl

theorem bind_top {tree : Option Tree} : tree.bind (Tree.at? []) = tree := by cases tree <;> rfl

namespace Shed
variable {gone : List String → Prop} {full lean other : Option Tree} {name : String}

-- Seen key by key: where nothing at all is lost, the trees are the same.
theorem by_key (top : ¬ gone []) : Shed gone full lean ↔ ((∀ path, ¬ gone path) → full = lean) ∧
    ∀ name, Shed (below name gone) (full.bind (·.get? name)) (lean.bind (·.get? name)) := by
  constructor
  · intro shed
    refine ⟨fun none => ?_, fun name => ⟨fun path free => ?_, fun path lost => ?_⟩⟩
    · have same := shed.alike [] fun path lost => absurd lost (none path)
      rwa [bind_top, bind_top] at same
    · rw [← bind_at, ← bind_at]
      exact shed.alike _ ((free_below top).mpr free)
    · rw [← bind_at]
      exact shed.bare _ lost
  · rintro ⟨whole, under⟩
    refine ⟨fun path free => ?_, fun path lost => ?_⟩
    · cases path with
      | nil => rw [whole fun _ lost => (free _ lost).2 List.nil_prefix]
      | cons name path =>
        rw [bind_at, bind_at]
        exact (under name).alike path ((free_below top).mp free)
    · cases path with
      | nil => exact absurd lost top
      | cons name path =>
        rw [bind_at]
        exact (under name).bare path lost

theorem absent : Shed gone none none := ⟨fun _ _ => rfl, fun _ _ => rfl⟩

-- Where the whole place is lost, nothing is asked of the fuller tree.
theorem lost_here (here : gone []) (shed : Shed gone full lean) : Shed gone other lean :=
  ⟨fun _ free => absurd List.nil_prefix (free [] here).1, shed.bare⟩

theorem single {value : Tree} (alone : ¬ value.IsTable) (top : ¬ gone []) : Shed gone (some value) (some value) := by
  refine (by_key top).mpr ⟨fun _ => rfl, fun name => ?_⟩
  have bare : (some value).bind (·.get? name) = none := by
    cases value with
    | table => exact absurd trivial alone
    | nothing | scalar | list => rfl
  rw [bare]
  exact absent

end Shed

theorem get?_given {tree : Option Tree} {name : String} :
    (tree.getD .nothing).get? name = tree.bind (·.get? name) := by cases tree <;> rfl

-- Two changes of a place under which trees that are alike stay so.
def Sheds (gone : List String → Prop) (g h : Tree → Tree) : Prop :=
  ∀ full lean, Shed gone full lean → Shed gone (some (g (full.getD .nothing))) (some (h (lean.getD .nothing)))

namespace Sheds
variable {gone : List String → Prop} {g h : Tree → Tree} {steps : List KeyStep} {name : String}

-- Where nothing is lost the two changes are the same.
theorem same (sheds : Sheds gone g h) (none : ∀ path, ¬ gone path) (tree : Tree) : g tree = h tree := by
  have alike : Shed gone (some tree) (some tree) := ⟨fun _ _ => rfl, fun path lost => absurd lost (none path)⟩
  have shed := (sheds _ _ alike).alike [] fun path lost => absurd lost (none path)
  rw [bind_top, bind_top] at shed
  exact Option.some.inj shed

theorem changeKey (top : ¬ gone []) (sheds : Sheds (below name gone) g h) :
    Sheds gone (Tree.changeKey name g) (Tree.changeKey name h) := by
  intro full lean shed
  obtain ⟨whole, under⟩ := (Shed.by_key top).mp shed
  refine (Shed.by_key top).mpr ⟨fun none => ?_, fun other => ?_⟩
  · rw [whole none, funext (sheds.same fun _ => none _)]
  · rw [Option.bind_some, Option.bind_some, Tree.get?_changeKey, Tree.get?_changeKey, get?_given, get?_given,
      get?_given, get?_given]
    by_cases same : other = name
    · subst same
      rw [if_pos rfl, if_pos rfl]
      exact sheds _ _ (under other)
    · rw [if_neg same, if_neg same]
      exact under other

-- A list has no keys, so a place in it is as it was wherever something is lost.
theorem changeAt (top : ¬ gone []) (safe : ¬ Reaches steps gone) (sheds : Sheds (beneath steps gone) g h) :
    Sheds gone (Tree.changeAt g steps) (Tree.changeAt h steps) := by
  induction steps generalizing gone with
  | nil => exact sheds
  | cons step steps ih =>
    cases step with
    | key name =>
      have under : ¬ below name gone [] := fun here => safe (.inl here)
      exact changeKey top (ih under (fun later => safe (.inr later)) sheds)
    | index index =>
      intro full lean shed
      have same : g = h := funext (sheds.same fun _ => id)
      refine (Shed.by_key top).mpr ⟨fun none => ?_, fun other => ?_⟩
      · rw [((Shed.by_key top).mp shed).1 none, same]
      · have bare (f : Tree → Tree) (tree : Tree) :
            (some (Tree.changeAt f (.index index :: steps) tree)).bind (·.get? other) = none := by
          cases tree <;> rfl
        rw [bare, bare]
        exact .absent

theorem asTable (top : ¬ gone []) : Sheds gone Tree.asTable Tree.asTable := by
  intro full lean shed
  obtain ⟨whole, under⟩ := (Shed.by_key top).mp shed
  have same (tree : Option Tree) (name : String) :
      (some (tree.getD .nothing).asTable).bind (·.get? name) = tree.bind (·.get? name) := by
    rcases tree with _ | (_ | _ | _ | _) <;> rfl
  refine (Shed.by_key top).mpr ⟨fun none => by rw [whole none], fun name => ?_⟩
  rw [same, same]
  exact under name

end Sheds

namespace Shed
variable {gone : List String → Prop} {full lean : Option Tree} {g : Tree → Tree} {steps : List KeyStep}

-- What is written at a lost key, or under it, is written to the fuller tree alone.
theorem drop (top : ¬ gone []) (reaches : Reaches steps gone) (shed : Shed gone full lean) :
    Shed gone (some (Tree.changeAt g steps (full.getD .nothing))) lean := by
  induction steps generalizing gone full lean with
  | nil => exact reaches.elim
  | cons step steps ih =>
    cases step with
    | index => exact reaches.elim
    | key name =>
      obtain ⟨whole, under⟩ := (by_key top).mp shed
      refine (by_key top).mpr ⟨fun none => ?_, fun other => ?_⟩
      · obtain ⟨path, lost⟩ := reaches.lost
        exact absurd lost (none path)
      · rw [Option.bind_some, Tree.changeAt, Tree.get?_changeKey, get?_given, get?_given]
        by_cases same : other = name
        · subst same
          rw [if_pos rfl]
          by_cases here : below other gone []
          · exact (under other).lost_here here
          · exact ih here (reaches.resolve_left here) (under other)
        · rw [if_neg same]
          exact under other

end Shed

-- Layers by the paths that are read from their names; a table is merged as a layer whose
-- names are keys.
def layered (read : String → List KeyStep) (layer : Entries) (tree : Tree) : Tree :=
  layer.foldl (fun tree entry => tree.changeAt (Tree.merge entry.2) (read entry.1)) tree

end TrialBench.Settings
