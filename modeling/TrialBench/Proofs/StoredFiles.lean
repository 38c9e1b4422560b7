import TrialBench.FileTree
import TrialBench.Proofs.Segments
namespace TrialBench

namespace Path
variable {path : String}

theorem splitOn_ends (rest piece : List Char) (open_ : rest = [] → piece ≠ []) (further : rest.getLast? ≠ some '/') :
    ∃ above last, List.splitOnPPrepend (· == '/') rest piece = above ++ [last] ∧ last ≠ [] := by
  induction rest generalizing piece with
  | nil => exact ⟨[], piece.reverse, rfl, by simpa using open_ rfl⟩
  | cons c rest ih =>
    have later : rest ≠ [] → rest.getLast? ≠ some '/' := by
      intro more ended
      rw [List.getLast?_cons_of_ne_nil more] at further
      exact further ended
    rw [List.splitOnPPrepend_cons_eq_if]
    by_cases same : c = '/'
    · subst same
      have more : rest ≠ [] := by
        rintro rfl
        exact further rfl
      obtain ⟨above, last, whole, named⟩ := ih [] (fun none_ => absurd none_ more) (later more)
      exact ⟨piece.reverse :: above, last, congrArg (piece.reverse :: ·) whole, named⟩
    · rw [if_neg (by simpa using same)]
      refine ih (c :: piece) (fun _ => List.cons_ne_nil c piece) ?_
      by_cases more : rest = []
      · subst more
        exact nofun
      · exact later more

-- A path that does not end in a slash ends in a name.
theorem segments_ends (some_ : path ≠ "") (further : path.toList.getLast? ≠ some '/') :
    ∃ above last, segments path = above ++ [last] ∧ last ≠ "" := by
  have chars : path.toList ≠ [] := by simpa using some_
  obtain ⟨above, last, whole, named⟩ := splitOn_ends path.toList [] (fun none_ => absurd none_ chars) further
  refine ⟨above.map String.ofList, String.ofList last, ?_, by simpa using named⟩
  rw [segments_exact, List.splitOn, List.splitOnP, whole, List.map_append]
  rfl

end Path

namespace FileTree
variable {tree left : FileTree} {path text : String} {place under : Place} {node : FileNode} {name : String}
  {names : List String}

theorem put_at (below : place ≠ []) : (tree.put place node).at? place = some node := by
  simp [put, at?, below]

theorem put_apart (apart : under ≠ place) : (tree.put place node).at? under = tree.at? under := by
  have still (found : Place × FileNode) : (found.1 ≠ place ∧ found.1 = under) ↔ found.1 = under :=
    ⟨And.right, fun same => ⟨same ▸ apart, same⟩⟩
  simp [put, at?, apart.symm, List.find?_filter, still]

-- A tree over another: its folders are the same, and it has a node wherever the other has.
structure Over (left tree : FileTree) : Prop where
  here : left.here = tree.here
  folders : ∀ place, left.isFolderAt place = tree.isFolderAt place
  nodes : ∀ place, (tree.at? place).isSome → (left.at? place).isSome

theorem Over.step (atop : left.Over tree) (stepped : tree.step place name = .ok under) :
    left.step place name = .ok under := by
  unfold FileTree.step at stepped ⊢
  rw [atop.folders]
  split_ifs at stepped with inside up long stands
  · rwa [if_neg (not_not_intro inside), if_pos up]
  · rwa [if_neg (not_not_intro inside), if_neg up, if_neg long, if_pos (atop.nodes _ stands)]

theorem Over.walk (atop : left.Over tree) (walked : tree.walk place names = .ok under) :
    left.walk place names = .ok under := by
  induction names generalizing place with
  | nil => exact walked
  | cons name names ih =>
    unfold FileTree.walk at walked ih ⊢
    rw [List.foldlM_cons] at walked ⊢
    cases stepped : tree.step place name with
    | error reason =>
      rw [stepped] at walked
      cases walked
    | ok next =>
      rw [stepped] at walked
      rw [atop.step stepped]
      exact ih walked

theorem put_over (below : place ≠ []) (plain : tree.isFolderAt place = false) (other : node ≠ .folder) :
    (tree.put place node).Over tree := by
  refine ⟨rfl, ?_, ?_⟩
  · intro under
    by_cases same : under = place
    · subst same
      rw [plain]
      unfold isFolderAt
      rw [put_at below]
      cases node <;> first | rfl | exact absurd rfl other
    · unfold isFolderAt
      rw [put_apart same]
  · intro under stands
    by_cases same : under = place
    · rw [same, put_at below]
      rfl
    · rwa [put_apart same]

theorem lastStep_parts (looked : tree.lastStep path = .ok (some (under, name))) :
    checkText path = .ok () ∧ ((Path.segments path).filter (· ≠ "")).getLast? = some name ∧
      tree.walk (tree.origin path) (((Path.segments path).filter (· ≠ "")).dropLast.filter (¬ Path.isIdle ·)) =
        .ok under ∧ tree.isFolderAt under = true := by
  unfold lastStep at looked
  cases valid : checkText path with
  | error reason =>
    rw [valid] at looked
    cases looked
  | ok =>
    rw [valid] at looked
    dsimp only [bind, Except.bind] at looked
    split at looked
    · cases looked
    · rename_i last ended
      split at looked
      · cases looked
      · rename_i folder walked
        split_ifs at looked with inside
        cases looked
        exact ⟨rfl, ended, walked, by simpa using inside⟩

-- The place that a path opens, taken apart.
theorem openPlace_parts (opened : tree.openPlace path = .ok place) :
    ∃ folder name, place = folder ++ [name] ∧ tree.lastStep path = .ok (some (folder, name)) ∧
      path.toList.getLast? ≠ some '/' ∧ isDots name = false ∧ ¬ longestName < name.utf8ByteSize ∧
      tree.isFolderAt place = false := by
  unfold openPlace at opened
  cases looked : tree.lastStep path with
  | error reason =>
    rw [looked] at opened
    cases opened
  | ok step =>
    rw [looked] at opened
    dsimp only [bind, Except.bind] at opened
    split at opened
    · cases opened
    · rename_i folder name
      split_ifs at opened with unnamed long
      split at opened
      · cases opened
      · rename_i plain
        cases opened
        rw [not_or] at unnamed
        refine ⟨folder, name, rfl, rfl, unnamed.2, by simpa using unnamed.1, long, ?_⟩
        unfold isFolderAt
        split
        · rename_i stands
          exact absurd stands plain
        · rfl

theorem checkText_some (valid : checkText path = .ok ()) : path ≠ "" := by
  unfold checkText at valid
  split_ifs at valid with bad long empty
  exact empty

-- How a path comes to the place that it opens: by the steps of its folder, and then by a name.
structure Opens (tree : FileTree) (path : String) (folder : Place) (name : String) (names : List String) : Prop where
  valid : checkText path = .ok ()
  steps : Path.steps path = names ++ [name]
  ended : (((Path.segments path).getLast?.map Path.isIdle).getD false) = false
  named : name ≠ ".."
  short : ¬ longestName < name.utf8ByteSize
  walked : tree.walk (tree.origin path) names = .ok folder
  inside : tree.isFolderAt folder = true

theorem openPlace_opens (opened : tree.openPlace path = .ok place) :
    ∃ folder name names, place = folder ++ [name] ∧ tree.Opens path folder name names := by
  obtain ⟨folder, name, rfl, looked, further, named, short, -⟩ := openPlace_parts opened
  obtain ⟨valid, ended, walked, inside⟩ := lastStep_parts looked
  obtain ⟨above, last, whole, some_⟩ := Path.segments_ends (checkText_some valid) further
  have kept : (Path.segments path).filter (· ≠ "") = above.filter (· ≠ "") ++ [last] := by
    rw [whole, List.filter_append, List.filter_cons_of_pos (by simpa using some_), List.filter_nil]
  obtain rfl : last = name := by
    rw [kept, List.getLast?_concat] at ended
    exact Option.some.inj ended
  have busy : Path.isIdle last = false := by
    rw [isDots, Bool.or_eq_false_iff] at named
    rw [Path.isIdle, named.1, Bool.or_false]
    simpa using some_
  have still : (above.filter (· ≠ "")).filter (¬ Path.isIdle ·) = above.filter (¬ Path.isIdle ·) := by
    rw [List.filter_filter]
    refine List.filter_congr fun segment _ => ?_
    by_cases empty : segment = "" <;> simp [Path.isIdle, empty]
  rw [kept, List.dropLast_concat, still] at walked
  refine ⟨folder, last, _, rfl, valid, ?_, ?_, ?_, short, walked, inside⟩
  · rw [Path.steps, whole, List.filter_append, List.filter_cons_of_pos (by simpa using busy), List.filter_nil]
  · simp [whole, busy]
  · rintro rfl
    cases named

-- What stands at the place that a path opens is found under that path.
theorem openPlace_find (opened : tree.openPlace path = .ok place) (atop : left.Over tree)
    (stands : left.at? place = some node) : left.find path = .ok (place, node) := by
  obtain ⟨folder, name, names, rfl, valid, steps, ended, named, short, walked, inside⟩ := openPlace_opens opened
  have origin : left.origin path = tree.origin path := by
    unfold FileTree.origin
    rw [atop.here]
  have reached : left.walk (left.origin path) (Path.steps path) = .ok (folder ++ [name]) := by
    unfold FileTree.walk
    rw [origin, steps, List.foldlM_append]
    refine (congrArg (· >>= fun place => List.foldlM left.step place [name]) (atop.walk walked)).trans ?_
    have stepped : left.step folder name = .ok (folder ++ [name]) := by
      unfold FileTree.step
      rw [atop.folders, if_neg (not_not_intro inside), if_neg named, if_neg short, stands]
      rfl
    simp [stepped, bind, Except.bind, pure, Except.pure]
  unfold FileTree.find
  rw [valid, reached]
  simp [ended, stands, bind, Except.bind]

-- What a text leaves at the place that it was stored in.
theorem store_stands (plain : tree.isFolderAt place = false) (below : place ≠ [])
    (stored : tree.store place text = .ok left) :
    left.Over tree ∧ (left.at? place = some .sink ∨ left.at? place = some (.file (.text text))) := by
  unfold store at stored
  split at stored
  · rename_i stands
    cases stored
    exact ⟨⟨rfl, fun _ => rfl, fun _ => id⟩, .inl stands⟩
  · cases stored
  · cases stored
    exact ⟨put_over below plain nofun, .inr (put_at below)⟩

-- A text that was stored under a path is found there, unless the path leads to a sink.
theorem store_find (opened : tree.openPlace path = .ok place) (stored : tree.store place text = .ok left) :
    left.find path = .ok (place, .sink) ∨ left.find path = .ok (place, .file (.text text)) := by
  obtain ⟨folder, name, rfl, -, -, -, -, plain⟩ := openPlace_parts opened
  obtain ⟨atop, stands⟩ := store_stands plain (by simp) stored
  exact stands.imp (openPlace_find opened atop) (openPlace_find opened atop)

end FileTree
end TrialBench
