import Mathlib
import TrialBench.Proofs.Reading
namespace TrialBench.Settings

-- What is given for a setting of a profile: under the profile, else under the file's base
-- profile, else by the built-in settings.
def given (file : Tree) (profile : String) (setting : List String) : Option Tree :=
  file.at? ("profile" :: profile :: setting) <|> file.at? ("profile" :: baseName :: setting) <|>
    builtinTree.at? ("profile" :: baseName :: setting)

def settingPaths : List (List String) :=
  [["message-timeout"], ["fail-fast"], ["junit", "path"], ["junit", "report-name"]]

def givenDir (file : Tree) : Option Tree := file.at? ["store", "dir"] <|> builtinTree.at? ["store", "dir"]

def tables (profile : String) : List (List String) :=
  [["store"], ["profile"], ["profile", baseName], ["profile", baseName, "junit"], ["profile", profile],
    ["profile", profile, "junit"]]

-- The entries that a profile is read from are tables, where they are present.
def Tabular (file : Tree) (profile : String) : Prop :=
  ∀ path ∈ tables profile, ∀ tree, file.at? path = some tree → tree.IsTable

instance : DecidablePred Tree.IsTable
  | .table _ _ => isTrue trivial
  | .nothing | .scalar _ | .list _ _ => isFalse id

instance {file : Tree} {profile : String} : Decidable (Tabular file profile) :=
  inferInstanceAs (Decidable (∀ path ∈ tables profile, ∀ tree ∈ file.at? path, tree.IsTable))

-- A profile in which each setting is what was given for it, and none depends on another.
structure Resolved (root : String) (file : Tree) (name : String) (profile : Profile) : Prop where
  named : profile.name = name
  store : ∃ dir, (givenDir file).bind Tree.text? = some dir ∧ profile.storeDir = Path.join (Path.join root dir) name
  timeout : (given file name ["message-timeout"]).bind Tree.duration? = some profile.timeout
  failFast : (given file name ["fail-fast"]).bind Tree.truth? = some profile.failFast
  report : Option.Rel (fun tree target => ∃ path, tree.text? = some path ∧
      target.path = Path.join profile.storeDir path ∧
      (given file name ["junit", "report-name"]).bind Tree.text? = some target.name)
    (given file name ["junit", "path"]) profile.report

namespace Layered
variable {low up both : Option Tree}

theorem leaf (layered : Layered low up both) (single : ∀ tree, low = some tree → ¬ tree.IsTable)
    (lost : both = none → low = none) : (up <|> low) = both := by
  cases layered with
  | silent => rfl
  | covered =>
    cases up with
    | none => exact lost rfl
    | some tree => rfl
  | @merged low up both lower => exact absurd lower (single low rfl)

theorem table (layered : Layered low up both) (under : ∀ tree, low = some tree → tree.IsTable)
    (upper : ∀ tree, up = some tree → tree.IsTable) : ∀ tree, both = some tree → tree.IsTable := by
  cases layered with
  | silent => exact under
  | covered => exact upper
  | merged _ _ table =>
    intro tree same
    cases same
    exact table

end Layered

section
variable {β : Type} {reading : Tree → Option β} {first second : Option Tree} {one other : Option β} {value : β}

theorem Noted.or (here : Noted reading first one) (there : Noted reading second other) :
    Noted reading (first <|> second) (one <|> other) := by
  cases here with
  | none => exact there
  | some reads => exact .some reads

theorem rel_weaken {agrees weaker : Tree → β → Prop} (rel : Option.Rel agrees first one)
    (imp : ∀ tree value, first = some tree → agrees tree value → weaker tree value) : Option.Rel weaker first one := by
  cases rel with
  | none => exact .none
  | some there => exact .some (imp _ _ rfl there)

theorem rel_unique {agrees : Tree → β → Prop} (single : ∀ tree value value', agrees tree value → agrees tree value' →
    value' = value) (here : Option.Rel agrees first one) (there : Option.Rel agrees first other) : other = one := by
  cases here with
  | none =>
    cases there
    rfl
  | some one =>
    cases there with
    | some other => exact congrArg some (single _ _ _ one other)

theorem isSome_of_rel {agrees : Tree → β → Prop} (rel : Option.Rel agrees first one) : one.isSome = first.isSome := by
  cases rel <;> rfl

theorem Noted.read (noted : Noted reading first (some value)) : first.bind reading = some value := by
  cases noted with
  | some reads => exact reads

theorem Noted.given (noted : Noted reading first (some value)) : first ≠ none := by
  cases noted with
  | some => simp

end

theorem at_append {tree : Tree} {first second : List String} :
    tree.at? (first ++ second) = (tree.at? first).bind (Tree.at? second) := by
  induction first generalizing tree with
  | nil => rfl
  | cons key first ih =>
    rw [List.cons_append, Tree.at?, Tree.at?]
    cases tree.get? key with
    | none => rfl
    | some value => exact ih

theorem builtin_other {name : String} (apart : name ≠ baseName) {setting : List String} :
    builtinTree.at? ("profile" :: name :: setting) = none := by
  obtain ⟨inner, outer⟩ : ∃ inner, builtinTree.get? "profile" = some (.table false [(baseName, inner)]) := by
    rw [builtin_exact]
    exact ⟨_, rfl⟩
  have absent : Tree.get? (.table false [(baseName, inner)]) name = none := lookup_named.trans (if_neg apart)
  rw [Tree.at?, outer, Option.bind_some, Tree.at?, absent]
  rfl

-- The settings of a file over the built-in ones, as they are read.
section
variable {layer : Entries} {name root : String} {values : Values} {setting : List String}

-- The built-in settings know no custom profile, so one is as the file has it.
theorem own_over (apart : name ≠ baseName) :
    (builtinTree.addLayer layer).at? ("profile" :: name :: setting) =
      (fileTree layer).at? ("profile" :: name :: setting) := by
  have low := @builtin_other name apart setting
  have both := (@layered_file layer ("profile" :: name :: setting)).leaf (by simp [low]) fun _ => low
  rw [← both, low]
  cases (fileTree layer).at? ("profile" :: name :: setting) <;> rfl

-- What the profiles of the merged settings give: the profile itself, if it is not the base
-- profile, and then the base profile.
theorem given_over (single : ∀ tree, builtinTree.at? ("profile" :: baseName :: setting) = some tree → ¬ tree.IsTable)
    (kept : (builtinTree.addLayer layer).at? ("profile" :: baseName :: setting) = none →
      builtinTree.at? ("profile" :: baseName :: setting) = none) :
    given (fileTree layer) name setting =
      ((if name = baseName then none else (builtinTree.addLayer layer).at? ("profile" :: name :: setting)) <|>
        (builtinTree.addLayer layer).at? ("profile" :: baseName :: setting)) := by
  have base := layered_file.leaf single kept
  unfold given
  rw [base]
  by_cases same : name = baseName
  · subst same
    rw [if_pos rfl, ← base]
    cases (fileTree layer).at? ("profile" :: baseName :: setting) <;> rfl
  · rw [if_neg same, own_over same]

-- What was noted of the merged settings, as far as they are read for a profile.
structure Understood (tree : Tree) (values : Values) (name : String) : Prop where
  dir : Noted Tree.text? (tree.at? ["store", "dir"]) (some values.storeDir)
  base : ProfileNoted (fun setting => tree.at? ("profile" :: baseName :: setting)) values.base.given
  custom : name ≠ baseName →
    Option.Rel (fun own profile => ProfileNoted (fun setting => own.at? setting) profile) (tree.at? ["profile", name])
      (values.custom.lookup name)

theorem understood {tree : Tree} (tidy : Tidy tree) (tabular : Tabular tree name)
    (read : readValues tree = .ok values) :
    Understood tree values name := by
  obtain ⟨⟨store, storeAt, readsStore⟩, profiles, profilesAt, readsProfiles⟩ := readValues_reads tidy read
  have tidyProfiles := (tidy.get? profilesAt).1
  obtain ⟨-, ⟨base, baseAt, readsBase⟩, custom⟩ := readProfiles_reads tidyProfiles readsProfiles
  have inside {field : String} {path : List String} :
      tree.at? ("profile" :: field :: path) = (profiles.get? field).bind (Tree.at? path) := by
    rw [Tree.at?, profilesAt]
    rfl
  have own (field : String) : tree.at? ["profile", field] = profiles.get? field := by
    rw [at_field, profilesAt]
    rfl
  have report {field : String} {profile : Tree} (there : profiles.get? field = some profile)
      (listed : ["profile", field, "junit"] ∈ tables name) (report : Tree)
      (reportAt : profile.get? "junit" = some report) :
      report.IsTable := by
    apply tabular _ listed report
    rw [inside, there, Option.bind_some, at_key, reportAt]
  refine ⟨?_, ?_, ?_⟩
  · have table := tabular ["store"] (by simp [tables]) store (at_key.trans storeAt)
    rw [at_field, storeAt]
    exact readStore_reads (tidy.get? storeAt).1 table readsStore
  · have table := tabular ["profile", baseName] (by simp [tables]) base ((own _).trans baseAt)
    have noted := readBase_reads (tidyProfiles.get? baseAt).1 table (report baseAt (by simp [tables])) readsBase
    have same (setting : List String) : tree.at? ("profile" :: baseName :: setting) = base.at? setting := by
      rw [inside, baseAt, Option.bind_some]
    simp only [same]
    exact noted
  · intro apart
    rw [own]
    apply rel_weaken (custom name apart)
    intro written profile there reads
    have table := tabular ["profile", name] (by simp [tables]) written ((own _).trans there)
    exact Custom.read_reads (tidyProfiles.get? there).1 table (report there (by simp [tables])) reads

theorem builtin_tabular : Tabular builtinTree name := by
  intro path member tree found
  by_cases same : name = baseName
  · subst same
    simp only [tables, List.mem_cons, List.not_mem_nil, or_false] at member
    rw [builtin_exact] at found
    rcases member with rfl | rfl | rfl | rfl | rfl | rfl <;> (cases found; trivial)
  · simp only [tables, List.mem_cons, List.not_mem_nil, or_false] at member
    rcases member with rfl | rfl | rfl | rfl | rfl | rfl
    all_goals first
      | (rw [builtin_other same] at found; cases found)
      | (rw [builtin_exact] at found; cases found; trivial)

theorem tabular_over (tabular : Tabular (fileTree layer) name) : Tabular (builtinTree.addLayer layer) name :=
  fun path member => layered_file.table (builtin_tabular path member) (tabular path member)

theorem ProfileNoted.or {first second : List String → Option Tree} {one other : CustomProfile}
    (own : ProfileNoted first one) (base : ProfileNoted second other) :
    ProfileNoted (fun setting => first setting <|> second setting)
      ⟨one.timeout <|> other.timeout, one.failFast <|> other.failFast, one.reportPath <|> other.reportPath,
        one.reportName <|> other.reportName⟩ :=
  ⟨own.timeout.or base.timeout, own.failFast.or base.failFast, own.path.or base.path, own.name.or base.name⟩

-- What a profile says for itself was given under it. The base profile has nothing to add
-- to itself.
theorem Understood.own {tree : Tree} {own : CustomProfile} (understood : Understood tree values name)
    (known : Settings.own? ⟨root, values⟩ name = some own) :
    ProfileNoted (fun setting => if name = baseName then none else tree.at? ("profile" :: name :: setting)) own := by
  unfold Settings.own? at known
  by_cases base : name = baseName
  · rw [if_pos base] at known
    cases known
    simp only [if_pos base]
    exact ⟨.none, .none, .none, .none⟩
  · rw [if_neg base] at known
    simp only [if_neg base]
    have noted := understood.custom base
    have known : values.custom.lookup name = some own := known
    rw [known] at noted
    obtain ⟨written, there, noted⟩ := given_of_rel noted
    have same (setting : List String) : tree.at? ("profile" :: name :: setting) = written.at? setting := by
      rw [show "profile" :: name :: setting = ["profile", name] ++ setting from rfl, at_append, there, Option.bind_some]
    simp only [same]
    exact noted

theorem builtin_single (listed : setting ∈ settingPaths) :
    ∀ tree, builtinTree.at? ("profile" :: baseName :: setting) = some tree → ¬ tree.IsTable := by
  intro tree found
  simp only [settingPaths, List.mem_cons, List.not_mem_nil, or_false] at listed
  rw [builtin_exact] at found
  rcases listed with rfl | rfl | rfl | rfl <;> (cases found; try exact id)

-- Each setting is what was given for it, whatever was given for the others.
theorem Understood.given {own : CustomProfile} (understood : Understood (builtinTree.addLayer layer) values name)
    (known : Settings.own? ⟨root, values⟩ name = some own) :
    ProfileNoted (given (fileTree layer) name)
      ⟨own.timeout <|> some values.base.timeout, own.failFast <|> some values.base.failFast,
        own.reportPath <|> values.base.reportPath, own.reportName <|> some values.base.reportName⟩ := by
  obtain ⟨timeout, failFast, path, reportName⟩ := (understood.own known).or understood.base
  have base := understood.base
  refine ⟨?_, ?_, ?_, ?_⟩
  · rw [given_over (builtin_single (by simp [settingPaths])) fun lost => absurd lost base.timeout.given]
    exact timeout
  · rw [given_over (builtin_single (by simp [settingPaths])) fun lost => absurd lost base.failFast.given]
    exact failFast
  · have unset : builtinTree.at? ["profile", baseName, "junit", "path"] = none := by
      rw [builtin_exact]
      rfl
    rw [given_over (builtin_single (by simp [settingPaths])) fun _ => unset]
    exact path
  · rw [given_over (builtin_single (by simp [settingPaths])) fun lost => absurd lost base.name.given]
    exact reportName

theorem Understood.givenDir (understood : Understood (builtinTree.addLayer layer) values name) :
    Noted Tree.text? (givenDir (fileTree layer)) (some values.storeDir) := by
  have dir := understood.dir
  have single (tree : Tree) (found : builtinTree.at? ["store", "dir"] = some tree) : ¬ tree.IsTable := by
    rw [builtin_exact] at found
    cases found
    exact id
  unfold Settings.givenDir
  rwa [layered_file.leaf single fun lost => absurd lost dir.given]

theorem or_getD {α : Type} {first : Option α} {second : α} : (first <|> some second) = some (first.getD second) := by
  cases first <;> rfl

theorem Understood.resolved {own : CustomProfile} (understood : Understood (builtinTree.addLayer layer) values name)
    (known : Settings.own? ⟨root, values⟩ name = some own) :
    Resolved root (fileTree layer) name (Settings.resolve ⟨root, values⟩ name own) := by
  obtain ⟨timeout, failFast, path, reportName⟩ := understood.given known
  simp only [or_getD] at timeout failFast reportName
  refine ⟨rfl, ⟨_, understood.givenDir.read, rfl⟩, timeout.read, failFast.read, ?_⟩
  have target : (Settings.resolve ⟨root, values⟩ name own).report =
      (own.reportPath <|> values.base.reportPath).map fun path =>
        ⟨Path.join (Settings.resolve ⟨root, values⟩ name own).storeDir path,
          own.reportName.getD values.base.reportName⟩ := rfl
  rw [target]
  generalize (own.reportPath <|> values.base.reportPath) = written at path ⊢
  generalize Settings.given (fileTree layer) name ["junit", "path"] = tree at path ⊢
  cases path with
  | none => exact .none
  | some reads => exact .some ⟨_, reads, rfl, reportName.read⟩

-- The base profile is always there, and any other one if the file has it.
theorem Understood.known (understood : Understood (builtinTree.addLayer layer) values name) :
    (Settings.profile? ⟨root, values⟩ name).isSome ↔
      name = baseName ∨ ((fileTree layer).at? ["profile", name]).isSome := by
  have own : (Settings.profile? ⟨root, values⟩ name).isSome = (Settings.own? ⟨root, values⟩ name).isSome :=
    Option.isSome_map
  rw [own]
  unfold Settings.own?
  by_cases base : name = baseName
  · simp [base]
  · rw [if_neg base, or_iff_right base]
    have noted := understood.custom base
    rw [own_over base] at noted
    rw [isSome_of_rel noted]

end

section
variable {files : FileTree} {root name : String} {asked : Option String} {source : Source} {logs : List LogEvent}
  {settings : Settings} {file other : Tree} {profile profile' : Profile}

theorem load_found (found : findSource? files (asked.getD (Path.join root usualFile)) = some source) :
    load files root asked = ofSource root (asked.getD (Path.join root usualFile)) source := by
  unfold load
  cases asked with
  | some path =>
    have there : findSource? files path = some source := found
    simp only [there, Option.getD_some]
  | none =>
    have there : findSource? files (Path.join root usualFile) = some source := found
    simp only [there, Option.getD_none]

-- The settings that were loaded from a file are the built-in ones with the file over them.
theorem ofSource_reads {configFile : String} (loaded : ofSource root configFile source = (logs, .ok settings)) :
    ∃ table values, Toml.read? source.text = some table ∧
      readValues (builtinTree.addLayer (Tree.entriesOfToml table)) = .ok values ∧ settings = ⟨root, values⟩ ∧
      logs =
        (unknownKeys schema [] (builtinTree.addLayer (Tree.entriesOfToml table))).map (warnUnknown configFile) := by
  unfold ofSource at loaded
  split at loaded
  · cases loaded
  · rename_i table written
    unfold ofTree at loaded
    split at loaded
    · cases loaded
    · rename_i values read
      cases loaded
      exact ⟨table, values, written, read, rfl, rfl⟩

theorem ofSource_runs {configFile : String} {table : Toml.Table} {values : Values}
    (written : Toml.read? source.text = some table)
    (read : readValues (builtinTree.addLayer (Tree.entriesOfToml table)) = .ok values) :
    ofSource root configFile source =
      ((unknownKeys schema [] (builtinTree.addLayer (Tree.entriesOfToml table))).map (warnUnknown configFile),
        .ok ⟨root, values⟩) := by
  simp only [ofSource, written, ofTree, read]

theorem load_reads (loaded : load files root asked = (logs, .ok settings))
    (found : findSource? files (asked.getD (Path.join root usualFile)) = some source) :
    ∃ table values, Toml.read? source.text = some table ∧
      readValues (builtinTree.addLayer (Tree.entriesOfToml table)) = .ok values ∧ settings = ⟨root, values⟩ := by
  rw [load_found found] at loaded
  obtain ⟨table, values, written, read, same, -⟩ := ofSource_reads loaded
  exact ⟨table, values, written, read, same⟩

-- Two files say the same for a profile: under its name, in the base profile and about the
-- store. They may say anything else under other names.
structure Agree (file other : Tree) (name : String) : Prop where
  dir : file.at? ["store", "dir"] = other.at? ["store", "dir"]
  known : (file.at? ["profile", name]).isSome = (other.at? ["profile", name]).isSome
  own : ∀ setting ∈ settingPaths, file.at? ("profile" :: name :: setting) = other.at? ("profile" :: name :: setting)
  base : ∀ setting ∈ settingPaths,
    file.at? ("profile" :: baseName :: setting) = other.at? ("profile" :: baseName :: setting)

theorem Agree.given (agree : Agree file other name) {setting : List String} (listed : setting ∈ settingPaths) :
    Settings.given file name setting = Settings.given other name setting := by
  unfold Settings.given
  rw [agree.own setting listed, agree.base setting listed]

-- What is given for its settings determines a profile.
theorem Resolved.unique (one : Resolved root file name profile) (two : Resolved root other name profile')
    (agree : Agree file other name) : profile' = profile := by
  have named : profile'.name = profile.name := two.named.trans one.named.symm
  have store : profile'.storeDir = profile.storeDir := by
    obtain ⟨dir, here, same⟩ := one.store
    obtain ⟨dir', there, same'⟩ := two.store
    unfold givenDir at here there
    rw [← agree.dir, here] at there
    cases there
    rw [same, same']
  have timeout : profile'.timeout = profile.timeout := by
    have there := two.timeout
    rw [← agree.given (by simp [settingPaths]), one.timeout] at there
    exact (Option.some.inj there).symm
  have failFast : profile'.failFast = profile.failFast := by
    have there := two.failFast
    rw [← agree.given (by simp [settingPaths]), one.failFast] at there
    exact (Option.some.inj there).symm
  have report : profile'.report = profile.report := by
    have here := one.report
    have there := two.report
    rw [← agree.given (by simp [settingPaths]), ← agree.given (by simp [settingPaths]), store] at there
    apply rel_unique _ here there
    rintro tree ⟨path, name⟩ ⟨path', name'⟩ ⟨written, reads, joined, called⟩ ⟨written', reads', joined', called'⟩
    cases reads.symm.trans reads'
    cases called.symm.trans called'
    cases joined
    cases joined'
    rfl
  obtain ⟨_, _, _, _, _⟩ := profile
  obtain ⟨_, _, _, _, _⟩ := profile'
  cases named
  cases store
  cases timeout
  cases failFast
  cases report
  rfl

-- What the settings of a file come to: which profiles there are, and what each of them is.
-- A profile is the same from any other file that agrees about it, whatever else that file
-- has in other profiles.
theorem settings_resolve (loaded : load files root asked = (logs, .ok settings))
    (found : findSource? files (asked.getD (Path.join root usualFile)) = some source) :
    ∃ table, Toml.read? source.text = some table ∧
      ∀ name, Tabular (fileTree (Tree.entriesOfToml table)) name →
        ((settings.profile? name).isSome ↔
          name = baseName ∨ ((fileTree (Tree.entriesOfToml table)).at? ["profile", name]).isSome) ∧
        (∀ profile, settings.profile? name = some profile →
          Resolved root (fileTree (Tree.entriesOfToml table)) name profile) ∧
        ∀ files' asked' source' logs' settings' table', load files' root asked' = (logs', .ok settings') →
          findSource? files' (asked'.getD (Path.join root usualFile)) = some source' →
          Toml.read? source'.text = some table' → Tabular (fileTree (Tree.entriesOfToml table')) name →
          Agree (fileTree (Tree.entriesOfToml table)) (fileTree (Tree.entriesOfToml table')) name →
          settings'.profile? name = settings.profile? name := by
  obtain ⟨table, values, written, read, rfl⟩ := load_reads loaded found
  refine ⟨table, written, fun name tabular => ?_⟩
  have understood := understood (addLayer_tidy builtin_tidy (entriesOfToml_written table)) (tabular_over tabular) read
  refine ⟨understood.known, fun profile there => ?_, ?_⟩
  · obtain ⟨own, here, rfl⟩ := Option.map_eq_some_iff.mp there
    exact understood.resolved here
  · intro files' asked' source' logs' settings' table' loaded' found' written' tabular' agree
    obtain ⟨_, values', same, read', rfl⟩ := load_reads loaded' found'
    cases same.symm.trans written'
    have understood' :=
      Settings.understood (addLayer_tidy builtin_tidy (entriesOfToml_written table')) (tabular_over tabular') read'
    have known : (Settings.profile? ⟨root, values'⟩ name).isSome = (Settings.profile? ⟨root, values⟩ name).isSome := by
      rw [Bool.eq_iff_iff, understood.known, understood'.known, agree.known]
    cases there : Settings.profile? ⟨root, values⟩ name with
    | none => rwa [there, Option.isSome_none, Option.isSome_eq_false_iff, Option.isNone_iff_eq_none] at known
    | some profile =>
      rw [there, Option.isSome_some, Option.isSome_iff_exists] at known
      obtain ⟨profile', there'⟩ := known
      obtain ⟨own, here, rfl⟩ := Option.map_eq_some_iff.mp there
      obtain ⟨own', here', rfl⟩ := Option.map_eq_some_iff.mp there'
      rw [there', (understood.resolved here).unique (understood'.resolved here') agree]

end

-- A text whose first character is no mark is taken as it is.
theorem dropMark_plain {text : String} {first : Char} {rest : List Char} (whole : text = String.ofList (first :: rest))
    (plain : first ≠ '\ufeff') : dropMark text = text := by
  rw [whole, dropMark, String.toList_ofList]
  split
  · rename_i rest same
    exact absurd (List.cons.inj same).1 plain
  · rfl

-- A working folder with one settings file in it.
def loneFile (text : String) : FileTree := ⟨[], [(["ci"], .file (.text text))]⟩

section
variable {text : String} (unmarked : dropMark text = text)
include unmarked

theorem loneFile_found : findSource? (loneFile text) "ci" = some ⟨"ci", text⟩ := by
  have read : (loneFile text).read? "ci" = some text := by
    unfold loneFile
    cbv
  have plain : Path.plain "ci" = "ci" := by cbv
  simp only [findSource?, List.findSome?_cons, read, Option.map_some, plain, unmarked]

theorem loneFile_load {root : String} :
    load (loneFile text) root (some "ci") = ofSource root "ci" ⟨"ci", text⟩ :=
  @load_found (loneFile text) root (some "ci") _ (loneFile_found unmarked)

theorem loneFile_loads {root : String} {table : Toml.Table} (written : Toml.read? text = some table)
    (sound : (readValues (builtinTree.addLayer (Tree.entriesOfToml table))).toOption.isSome) :
    ∃ values, readValues (builtinTree.addLayer (Tree.entriesOfToml table)) = .ok values ∧
      load (loneFile text) root (some "ci") =
        ((unknownKeys schema [] (builtinTree.addLayer (Tree.entriesOfToml table))).map (warnUnknown "ci"),
          .ok ⟨root, values⟩) := by
  cases read : readValues (builtinTree.addLayer (Tree.entriesOfToml table)) with
  | error refusal =>
    rw [read] at sound
    cases sound
  | ok values =>
    exact ⟨values, rfl, (loneFile_load unmarked).trans (@ofSource_runs root ⟨"ci", text⟩ _ _ _ written read)⟩

end

-- A file with a profile, and with another one beside it that stops early or goes on.
def besideText : Bool → String
  | true =>
    "[profile]\ndefault.fail-fast = true\nci.message-timeout = '30s'\nci.junit.path = 'a.xml'\nother.fail-fast = true"
  | false =>
    "[profile]\ndefault.fail-fast = true\nci.message-timeout = '30s'\nci.junit.path = 'a.xml'\nother.fail-fast = false"

def besideTable (early : Bool) : List (String × Toml.Value) :=
  [("profile", .table [
    ("default", .table [("fail-fast", .boolean true)]),
    ("ci", .table [("message-timeout", .text "30s"), ("junit", .table [("path", .text "a.xml")])]),
    ("other", .table [("fail-fast", .boolean early)])])]

def besideFiles (early : Bool) : FileTree := ⟨[], [(["ci"], .file (.text (besideText early)))]⟩

section
variable {early : Bool}

theorem besideText_reads : Toml.read? (besideText early) = some (besideTable early) := by
  cases early <;> cbv

theorem besideText_unmarked : dropMark (besideText early) = besideText early := by
  cases early <;> exact dropMark_plain rfl (by decide)

theorem besideFiles_found : findSource? (besideFiles early) "ci" = some ⟨"ci", besideText early⟩ :=
  loneFile_found besideText_unmarked

theorem besideFiles_load : ∃ logs settings, load (besideFiles early) "ws" (some "ci") = (logs, .ok settings) := by
  have sound : (readValues (builtinTree.addLayer (Tree.entriesOfToml (besideTable early)))).toOption.isSome := by
    cases early <;> decide +kernel
  obtain ⟨values, -, loaded⟩ := loneFile_loads besideText_unmarked besideText_reads sound
  exact ⟨_, _, loaded⟩

theorem besideTable_tabular : Tabular (fileTree (Tree.entriesOfToml (besideTable early))) "ci" := by
  cases early <;> decide +kernel

theorem besideTable_agree : Agree (fileTree (Tree.entriesOfToml (besideTable false)))
    (fileTree (Tree.entriesOfToml (besideTable true))) "ci" := by
  refine ⟨rfl, rfl, fun setting listed => ?_, fun setting listed => ?_⟩
  all_goals
    simp only [settingPaths, List.mem_cons, List.not_mem_nil, or_false] at listed
    rcases listed with rfl | rfl | rfl | rfl <;> rfl

end

-- Each of the three levels gives something to the profile: it has a timeout and a path of
-- its own, it stops early as the base profile of the file does, and its report has the
-- built-in name.
theorem settings_resolve_ci : ∃ logs settings logs' settings' profile,
    load (besideFiles false) "ws" (some "ci") = (logs, .ok settings) ∧
    load (besideFiles true) "ws" (some "ci") = (logs', .ok settings') ∧
    settings.profile? "ci" = some profile ∧ settings'.profile? "ci" = some profile ∧
    profile.timeout = .ofSeconds 30 ∧ profile.failFast = true ∧
    profile.report = some ⟨"ws/target/outcome-harness/ci/a.xml", "outcome-harness-run"⟩ := by
  obtain ⟨logs, settings, loaded⟩ := @besideFiles_load false
  obtain ⟨logs', settings', loaded'⟩ := @besideFiles_load true
  obtain ⟨table, read, resolves⟩ := settings_resolve loaded besideFiles_found
  cases besideText_reads.symm.trans read
  obtain ⟨known, resolved, apart⟩ := resolves "ci" besideTable_tabular
  obtain ⟨profile, there⟩ := Option.isSome_iff_exists.mp (known.mpr (.inr rfl))
  have same := apart _ _ _ _ _ _ loaded' besideFiles_found besideText_reads besideTable_tabular besideTable_agree
  obtain ⟨-, ⟨dir, dirRead, storeDir⟩, timeout, failFast, report⟩ := resolved profile there
  cases (show some "target/outcome-harness" = some dir from dirRead)
  have store : profile.storeDir = "ws/target/outcome-harness/ci" := storeDir.trans (by decide +kernel)
  refine ⟨logs, settings, logs', settings', profile, loaded, loaded', there, same.trans there, ?_, ?_, ?_⟩
  · have written : Duration.read? "30s" = some profile.timeout := timeout
    rw [show Duration.read? "30s" = some (.ofSeconds 30) by decide +kernel] at written
    exact (Option.some.inj written).symm
  · exact (Option.some.inj failFast).symm
  · change Option.Rel _ (some (Tree.scalar (.text "a.xml"))) _ at report
    generalize profile.report = target at report ⊢
    cases report with
    | some rel =>
      rename_i target
      obtain ⟨path, name⟩ := target
      obtain ⟨written, reads, rfl, called⟩ := rel
      cases reads
      cases called
      have joined : Path.join "ws/target/outcome-harness/ci" "a.xml" = "ws/target/outcome-harness/ci/a.xml" := by
        decide +kernel
      rw [store, ← joined]
      rfl

end TrialBench.Settings
