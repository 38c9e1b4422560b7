import TrialBench.Proofs.Rereading
import TrialBench.Proofs.Trimming
import TrialBench.Proofs.UnknownKeys
namespace TrialBench.Settings

section
variable {tree : Tree} {path : List String}

theorem table_above {value inner : Tree} {key : String} {rest : List String}
    (given : tree.at? (path ++ key :: rest) = some value) (found : tree.at? path = some inner) : inner.IsTable := by
  rw [at_append, found, Option.bind_some] at given
  obtain ⟨_, there, -⟩ := at_section given
  exact table_of_key there

-- Each table of settings has something in it that has to be there.
theorem Understood.tabular {values : Values} (known : Understood tree values baseName) : Tabular tree baseName := by
  obtain ⟨dir, dirAt, -⟩ := given_of_rel known.dir
  obtain ⟨timeout, timeoutAt, -⟩ := given_of_rel known.base.timeout
  obtain ⟨name, nameAt, -⟩ := given_of_rel known.base.name
  intro path listed inner found
  simp only [tables, List.mem_cons, List.not_mem_nil, or_false] at listed
  rcases listed with rfl | rfl | rfl | rfl | rfl | rfl
  · exact table_above dirAt found
  · exact table_above timeoutAt found
  · exact table_above timeoutAt found
  · exact table_above nameAt found
  · exact table_above timeoutAt found
  · exact table_above nameAt found

end

-- Settings that were read with all their tables in place.
structure Sound (tree : Tree) (values : Values) : Prop where
  tidy : Tidy tree
  tabular : Tabular tree baseName
  read : readValues tree = .ok values

section
variable {tree : Tree} {values : Values} {layer layer' : Entries}

theorem Sound.found (sound : Sound tree values) : Finds (unknownKeys schema [] tree) schema [] tree := by
  obtain ⟨⟨store, storeAt, -⟩, -⟩ := readValues_reads sound.tidy sound.read
  exact unknownKeys_exact sound.tidy (clear_of_tabular (table_of_key storeAt).not_list sound.tabular)

end

section
variable {files : FileTree} {root : String} {asked : Option String} {source : Source} {logs : List LogEvent}

end

section
variable {extra : Bool}

end

end TrialBench.Settings
