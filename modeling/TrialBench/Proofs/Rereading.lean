import TrialBench.Proofs.Resolution
namespace TrialBench.Settings

-- The other way round: what stands in a tree is what is read from it.
namespace Part
variable {part : Part}

end Part

theorem Tidy.distinct {tree : Tree} (tidy : Tidy tree) : (tree.entries.map (·.1)).Nodup := by
  cases tidy with
  | nothing | scalar | list => exact List.nodup_nil
  | table distinct => exact distinct

section
variable {β : Type} {reading : Tree → Option β} {first : Option Tree} {tree : Tree} {noted : Option β} {value : β}

theorem Noted.bind (here : Noted reading first noted) : first.bind reading = noted := by
  cases here with
  | none => rfl
  | some reads => exact reads

end

section
variable {β : Type} {reading : Tree → Option β} {seen : Entries} {name other : String} {tree : Tree}

end

section
variable {place : Place} {tree : Tree}

end

section
variable {place : Place} {full lean : Tree}

-- Two trees with the same settings: in the store, in the base profile and in each other
-- profile as a whole. Under other keys they may have anything.
structure SameSettings (full lean : Tree) : Prop where
  dir : lean.at? ["store", "dir"] = full.at? ["store", "dir"]
  base : ∀ setting ∈ settingPaths,
    lean.at? ("profile" :: baseName :: setting) = full.at? ("profile" :: baseName :: setting)
  custom : ∀ name, name ≠ baseName → lean.at? ["profile", name] = full.at? ["profile", name]

theorem ProfileNoted.congr {given other : List String → Option Tree} {noted : CustomProfile}
    (here : ProfileNoted given noted) (same : ∀ setting ∈ settingPaths, other setting = given setting) :
    ProfileNoted other noted := by
  obtain ⟨timeout, failFast, path, name⟩ := here
  refine ⟨?_, ?_, ?_, ?_⟩ <;> rw [same _ (by simp [settingPaths])] <;> assumption

theorem SameSettings.understood {values : Values} (same : SameSettings full lean)
    (known : Understood full values baseName) : Understood lean values baseName :=
  ⟨same.dir ▸ known.dir, known.base.congr same.base, fun apart => absurd rfl apart⟩

end

end TrialBench.Settings
