import Mathlib.Data.List.DropRight
import TrialBench.Proofs.Resolution
import TrialBench.Proofs.StoredFiles
namespace TrialBench

namespace Path
variable {path left right name : String} {names others : List String} {place here : Place} {up : Nat}
  {down : List String}

-- Where steps lead from a place. A step up leaves the last name behind, and nothing is above the root.
def follow (place : Place) (names : List String) : Place :=
  names.foldl (fun place name => if name = ".." then place.dropLast else place ++ [name]) place

-- The place of a path, seen from the working folder, with its dots resolved.
def resolve (here : Place) (path : String) : Place := follow (if isAbsolute path then [] else here) (steps path)

-- Steps with their dots resolved: so many up from where they start, and then down by these names.
structure Route where
  up : Nat
  down : List String
  deriving DecidableEq

def Route.step (route : Route) (name : String) : Route :=
  if name = ".." then
    if route.down = [] then ⟨route.up + 1, []⟩ else ⟨route.up, route.down.dropLast⟩
  else ⟨route.up, route.down ++ [name]⟩

def route (path : String) : Route := (steps path).foldl Route.step ⟨0, []⟩

-- Whether a route that starts at a place ends inside of it: what it leaves by its steps up it comes back to by name.
def Route.Returns (route : Route) (place : Place) : Prop := place.rtake route.up <+: route.down

-- A path that is not taken from the root and never leads above its start.
def Descends (path : String) : Prop := isAbsolute path = false ∧ (route path).up = 0

-- A name that is one step by itself.
def Plain (name : String) : Prop := name ∉ ["", ".", ".."] ∧ '/' ∉ name.toList

theorem dropLast_rdrop : (place.rdrop up).dropLast = place.rdrop (up + 1) := by
  unfold List.rdrop
  rw [List.dropLast_eq_take, List.take_take, List.length_take]
  congr 1
  omega

theorem rdrop_rtake : place.rdrop up ++ place.rtake up = place := by
  unfold List.rdrop List.rtake
  exact List.take_append_drop _ _

theorem follow_append : follow place (names ++ others) = follow (follow place names) others := List.foldl_append

theorem follow_route (names : List String) : follow place names =
    place.rdrop (names.foldl Route.step ⟨0, []⟩).up ++ (names.foldl Route.step ⟨0, []⟩).down := by
  induction names using List.reverseRecOn with
  | nil => simp [follow, List.rdrop_zero]
  | append_singleton names name ih =>
    rw [follow_append, ih, List.foldl_concat]
    generalize names.foldl Route.step ⟨0, []⟩ = walked
    obtain ⟨up, down⟩ := walked
    unfold follow Route.step
    rw [List.foldl_cons, List.foldl_nil]
    split_ifs with upward level
    · have bare : down = [] := level
      rw [bare, List.append_nil, List.append_nil, dropLast_rdrop]
    · exact List.dropLast_append_of_ne_nil level
    · exact List.append_assoc ..

theorem follow_inside : place <+: follow place (steps path) ↔ (route path).Returns place := by
  have parted : place <+: place.rdrop (route path).up ++ (route path).down ↔
      place.rdrop (route path).up ++ place.rtake (route path).up <+:
        place.rdrop (route path).up ++ (route path).down := by
    rw [rdrop_rtake]
  rw [follow_route]
  exact parted.trans (List.prefix_append_right_inj _)

theorem follow_descends (level : (route path).up = 0) : follow place (steps path) = place ++ (route path).down := by
  rw [follow_route]
  change place.rdrop (route path).up ++ _ = _
  rw [level, List.rdrop_zero]
  rfl

theorem steps_exact : steps path = ((path.toList.splitOn '/').map String.ofList).filter (¬ isIdle ·) := by
  unfold steps
  rw [segments_exact]

theorem steps_slash {first second : List Char} (whole : path.toList = first ++ '/' :: second) :
    steps path = steps (String.ofList first) ++ steps (String.ofList second) := by
  rw [steps_exact, steps_exact, steps_exact, whole, List.splitOn_append_cons_self, List.map_append, List.filter_append,
    String.toList_ofList, String.toList_ofList]

-- A relative right side stands behind the left one and a slash, if there is a left one.
theorem join_relative (relative : isAbsolute right = false) : left = "" ∧ join left right = right ∨
    ∃ first : List Char, (join left right).toList = first ++ '/' :: right.toList ∧
      (left.toList = first ∨ left.toList = first ++ ['/']) ∧ left ≠ "" := by
  unfold join
  by_cases bare : left = ""
  · exact .inl ⟨bare, if_pos (.inr bare)⟩
  · rw [if_neg (by simp [relative, bare])]
    refine .inr ?_
    split
    · rename_i ended
      obtain ⟨first, whole⟩ := List.getLast?_eq_some_iff.mp ended
      exact ⟨first, by simp [whole], .inr whole, bare⟩
    · exact ⟨left.toList, by simp, .inl rfl, bare⟩

theorem steps_empty : steps "" = [] := by
  rw [steps_exact, String.toList_empty, List.splitOn_nil]
  rfl

-- The steps of a joined path are the steps of its two sides, unless the right side starts anew.
theorem steps_join (relative : isAbsolute right = false) : steps (join left right) = steps left ++ steps right := by
  rcases @join_relative left right relative with ⟨rfl, same⟩ | ⟨first, whole, same | same, -⟩
  · rw [same, steps_empty, List.nil_append]
  · rw [steps_slash whole, String.ofList_toList, ← same, String.ofList_toList]
  · rw [steps_slash whole, String.ofList_toList, steps_slash same, String.ofList_nil, steps_empty, List.append_nil]

theorem join_absolute (absolute : isAbsolute right = true) : join left right = right := by
  unfold join
  rw [if_pos (.inl absolute)]

theorem isAbsolute_join (relative : isAbsolute right = false) : isAbsolute (join left right) = isAbsolute left := by
  rcases @join_relative left right relative with ⟨rfl, same⟩ | ⟨first, whole, same | same, some_⟩
  · rw [same, relative]
    rfl
  · have named : first ≠ [] := by
      rintro rfl
      exact some_ (String.toList_inj.mp same)
    unfold isAbsolute
    rw [whole, same, List.head?_append_of_ne_nil _ named]
  · unfold isAbsolute
    rw [whole, same, List.head?_append, List.head?_append, List.head?_cons, List.head?_cons]

theorem resolve_join (relative : isAbsolute right = false) :
    resolve here (join left right) = follow (resolve here left) (steps right) := by
  unfold resolve
  rw [isAbsolute_join relative, steps_join relative, follow_append]

theorem resolve_absolute (absolute : isAbsolute right = true) :
    resolve here (join left right) = follow [] (steps right) := by
  rw [join_absolute absolute, resolve, if_pos absolute]

theorem resolve_relative (relative : isAbsolute path = false)
    (stepped : ((path.toList.splitOn '/').map String.ofList).filter (¬ isIdle ·) = names) :
    resolve here path = follow here names := by
  rw [resolve, relative, steps_exact, stepped]
  rfl

theorem Plain.steps (plain : Plain name) : steps name = [name] := by
  have whole : name.toList.splitOn '/' = [name.toList] := by
    have split := @List.splitOn_intercalate Char [name.toList] _ _ '/' (by simpa using plain.2) (by simp)
    rwa [List.intercalate_singleton] at split
  have named := plain.1
  simp only [List.mem_cons, List.not_mem_nil, or_false, not_or] at named
  rw [steps_exact, whole]
  simp [isIdle, named.1, named.2.1]

theorem Plain.relative (plain : Plain name) : isAbsolute name = false := by
  unfold isAbsolute
  rw [beq_eq_false_iff_ne]
  exact fun first => plain.2 (List.mem_of_mem_head? (Option.mem_def.mpr first))

theorem Plain.route (plain : Plain name) : route name = ⟨0, [name]⟩ := by
  have named : name ≠ ".." := fun same => plain.1 (by simp [same])
  unfold Path.route
  rw [plain.steps]
  exact if_neg named

theorem Plain.descends (plain : Plain name) : Descends name := ⟨plain.relative, by rw [plain.route]⟩

end Path

namespace FileTree
variable {tree : FileTree} {place under : Place} {names : List String} {path : String}

theorem walk_follow (walked : tree.walk place names = .ok under) : under = Path.follow place names := by
  induction names generalizing place with
  | nil =>
    cases walked
    rfl
  | cons name names ih =>
    unfold FileTree.walk at walked ih
    rw [List.foldlM_cons] at walked
    cases stepped : tree.step place name with
    | error reason =>
      rw [stepped] at walked
      cases walked
    | ok next =>
      rw [stepped] at walked
      rw [ih walked]
      unfold FileTree.step at stepped
      split_ifs at stepped with inside upward long stands
      · cases stepped
        unfold Path.follow
        rw [List.foldl_cons, if_pos upward]
      · cases stepped
        unfold Path.follow
        rw [List.foldl_cons, if_neg upward]

-- The file that a path opens is at the place that the path comes to when its dots are resolved.
theorem openPlace_resolve (opened : tree.openPlace path = .ok place) : place = Path.resolve tree.here path := by
  obtain ⟨folder, name, names, rfl, opens⟩ := openPlace_opens opened
  have walked := walk_follow opens.walked
  unfold Path.resolve
  rw [opens.steps, Path.follow_append]
  unfold origin at walked
  rw [← walked]
  exact (if_neg opens.named).symm

end FileTree

namespace Settings
open TrialBench.Path (Descends Plain isAbsolute route follow steps)
variable {settings : Settings} {here : TrialBench.Place} {name other path further : String} {profile second : Profile}
  {target next : ReportTarget}

-- What is written as the path of a profile's report: in the profile, or else in the base profile.
def writtenPath (settings : Settings) (name : String) : Option String :=
  (settings.own? name).bind fun own => own.reportPath <|> settings.values.base.reportPath

-- The folder that all stores are under.
def storeRoot (settings : Settings) : String := Path.join settings.root settings.values.storeDir

theorem reported (known : settings.profile? name = some profile) (reports : profile.report = some target) :
    ∃ path, settings.writtenPath name = some path ∧ profile.storeDir = Path.join settings.storeRoot name ∧
      target.path = Path.join profile.storeDir path := by
  obtain ⟨own, found, rfl⟩ := Option.map_eq_some_iff.mp known
  obtain ⟨path, written, rfl⟩ := Option.map_eq_some_iff.mp reports
  refine ⟨path, ?_, rfl, rfl⟩
  unfold writtenPath
  rw [found]
  exact written

-- Where a profile's store and its report are. A path that leads down stays inside; any other relative one comes back
-- inside exactly if it returns by the names that it left; and one that is taken from the root forgets the store.
structure Placed (settings : Settings) (here : TrialBench.Place) (name : String) (profile : Profile)
    (target : ReportTarget) (path : String) : Prop where
  store : Descends name → Path.resolve here settings.storeRoot <+: Path.resolve here profile.storeDir ∧
    ((route name).down ≠ [] → Path.resolve here settings.storeRoot ≠ Path.resolve here profile.storeDir)
  store_exact : isAbsolute name = false → (Path.resolve here settings.storeRoot <+: Path.resolve here profile.storeDir ↔
    (route name).Returns (Path.resolve here settings.storeRoot))
  store_apart : isAbsolute name = true → Path.resolve here profile.storeDir = follow [] (steps name)
  report : Descends path → Path.resolve here profile.storeDir <+: Path.resolve here target.path
  report_exact : isAbsolute path = false → (Path.resolve here profile.storeDir <+: Path.resolve here target.path ↔
    (route path).Returns (Path.resolve here profile.storeDir))
  report_apart : isAbsolute path = true → Path.resolve here target.path = follow [] (steps path)

theorem descends_place {left right : String} (descends : Descends right) :
    Path.resolve here (Path.join left right) = Path.resolve here left ++ (route right).down := by
  rw [Path.resolve_join descends.1, Path.follow_descends descends.2]

theorem placed (store : profile.storeDir = Path.join settings.storeRoot name)
    (report : target.path = Path.join profile.storeDir path) : settings.Placed here name profile target path := by
  constructor
  case store =>
    intro descends
    rw [store, descends_place descends]
    refine ⟨List.prefix_append .., fun some_ same => some_ ?_⟩
    exact List.append_right_eq_self.mp same.symm
  case store_exact =>
    intro relative
    rw [store, Path.resolve_join relative]
    exact Path.follow_inside
  case store_apart =>
    intro absolute
    rw [store, Path.resolve_absolute absolute]
  case report =>
    intro descends
    rw [report, descends_place descends]
    exact List.prefix_append ..
  case report_exact =>
    intro relative
    rw [report, Path.resolve_join relative]
    exact Path.follow_inside
  case report_apart =>
    intro absolute
    rw [report, Path.resolve_absolute absolute]

-- The reports of two profiles by the names that lead to them from the folder of all stores.
theorem places_same (store : profile.storeDir = Path.join settings.storeRoot name)
    (report : target.path = Path.join profile.storeDir path)
    (store' : second.storeDir = Path.join settings.storeRoot other)
    (report' : next.path = Path.join second.storeDir further) (named : Descends name) (named' : Descends other)
    (down : Descends path) (down' : Descends further) : Path.resolve here target.path = Path.resolve here next.path ↔
      (route name).down ++ (route path).down = (route other).down ++ (route further).down := by
  rw [report, report', descends_place down, descends_place down', store, store', descends_place named,
    descends_place named', List.append_assoc, List.append_assoc]
  exact List.append_right_inj _

-- Where the report of a profile is written, and when it is apart from the report of another one.
theorem reports_placed (known : settings.profile? name = some profile) (reports : profile.report = some target) :
    ∃ path, settings.writtenPath name = some path ∧ settings.Placed here name profile target path ∧
      ∀ other second next further, settings.profile? other = some second → second.report = some next →
        settings.writtenPath other = some further → Descends path → Descends further →
          (Descends name → Descends other → (Path.resolve here target.path = Path.resolve here next.path ↔
            (route name).down ++ (route path).down = (route other).down ++ (route further).down)) ∧
          (Descends name → Descends other → path = further → (route name).down ≠ (route other).down →
            Path.resolve here target.path ≠ Path.resolve here next.path) ∧
          (Plain name → Plain other → name ≠ other → Path.resolve here target.path ≠ Path.resolve here next.path ∧
            ∀ tree : FileTree, tree.here = here → ∀ place, tree.openPlace target.path = .ok place →
              tree.openPlace next.path ≠ .ok place) := by
  obtain ⟨path, written, store, report⟩ := reported known reports
  refine ⟨path, written, placed store report, ?_⟩
  intro other second next further known' reports' written' down down'
  obtain ⟨_, same, store', report'⟩ := reported known' reports'
  cases same.symm.trans written'
  have meets (named : Descends name) (named' : Descends other) :=
    @places_same settings here name other path further profile second target next store report store' report' named
      named' down down'
  refine ⟨meets, ?_, ?_⟩
  · rintro named named' rfl apart same
    exact apart (List.append_cancel_right ((meets named named').mp same))
  · intro plain plain' apart
    have differ : Path.resolve here target.path ≠ Path.resolve here next.path := by
      rw [Ne, meets plain.descends plain'.descends, plain.route, plain'.route]
      exact fun same => apart (List.cons.inj same).1
    refine ⟨differ, ?_⟩
    rintro tree rfl place opened opened'
    exact differ ((FileTree.openPlace_resolve opened).symm.trans (FileTree.openPlace_resolve opened'))

-- Two profiles that take the path of their reports from the base profile.
def inheriting : Settings :=
  ⟨"ws", ⟨"target", ⟨.ofSeconds 1, false, some "x/../a.xml", "run"⟩, [("ci", silent), ("nightly", silent)]⟩⟩

theorem reports_placed_inherited : ∃ ci nightly target next, inheriting.profile? "ci" = some ci ∧
    inheriting.profile? "nightly" = some nightly ∧ ci.report = some target ∧ nightly.report = some next ∧
    Path.resolve ["work"] ci.storeDir <+: Path.resolve ["work"] target.path ∧
    Path.resolve ["work"] target.path ≠ Path.resolve ["work"] next.path := by
  have down : Descends "x/../a.xml" := by
    refine ⟨by decide +kernel, ?_⟩
    unfold Path.route
    rw [Path.steps_exact]
    decide +kernel
  have plain : Plain "ci" := by unfold Plain; decide +kernel
  have plain' : Plain "nightly" := by unfold Plain; decide +kernel
  let ci := inheriting.resolve "ci" silent
  let nightly := inheriting.resolve "nightly" silent
  let target : ReportTarget := ⟨Path.join ci.storeDir "x/../a.xml", "run"⟩
  let next : ReportTarget := ⟨Path.join nightly.storeDir "x/../a.xml", "run"⟩
  have known : inheriting.profile? "ci" = some ci := rfl
  have known' : inheriting.profile? "nightly" = some nightly := rfl
  have reports : ci.report = some target := rfl
  have reports' : nightly.report = some next := rfl
  obtain ⟨path, written, placed, apart⟩ := @reports_placed inheriting ["work"] "ci" ci target known reports
  cases (show inheriting.writtenPath "ci" = some "x/../a.xml" from rfl).symm.trans written
  have two := (apart "nightly" nightly next "x/../a.xml" known' reports' rfl down down).2.2 plain plain'
    (by decide +kernel)
  exact ⟨ci, nightly, target, next, known, known', reports, reports', placed.report down, two.1⟩

-- A path that climbs out of the store of its profile and into that of another one.
def climbingText : String :=
  "[profile.default.junit]\npath = \"a.xml\"\n[profile.ci.junit]\npath = \"../default/a.xml\""

def climbingTable : Toml.Table :=
  [("profile", .table [("default", .table [("junit", .table [("path", .text "a.xml")])]),
    ("ci", .table [("junit", .table [("path", .text "../default/a.xml")])])])]

theorem climbingText_reads : Toml.read? climbingText = some climbingTable := by cbv

theorem climbingText_loads : ∃ settings base ci target next,
    load (loneFile climbingText) "ws" (some "ci") = ([], .ok settings) ∧
    settings.profile? "default" = some base ∧ settings.profile? "ci" = some ci ∧
    base.report = some target ∧ ci.report = some next ∧
    target.path = "ws/target/outcome-harness/default/a.xml" ∧ ci.storeDir = "ws/target/outcome-harness/ci" ∧
    next.path = "ws/target/outcome-harness/ci/../default/a.xml" := by
  have unmarked : dropMark climbingText = climbingText := dropMark_plain rfl (by decide)
  have sound : (readValues (builtinTree.addLayer (Tree.entriesOfToml climbingTable))).toOption.isSome := by
    decide +kernel
  have silent : unknownKeys schema [] (builtinTree.addLayer (Tree.entriesOfToml climbingTable)) = [] := by
    decide +kernel
  have found (name : String) (named : name = "default" ∨ name = "ci") :
      ((readValues (builtinTree.addLayer (Tree.entriesOfToml climbingTable))).toOption.bind
          (profile? ⟨"ws", ·⟩ name)).bind
            (fun profile => profile.report.map fun report => (profile.storeDir, report.path)) =
        some ("ws/target/outcome-harness/" ++ name,
          if name = "ci" then "ws/target/outcome-harness/ci/../default/a.xml"
          else "ws/target/outcome-harness/default/a.xml") := by
    rcases named with rfl | rfl <;> decide +kernel
  obtain ⟨values, read, loaded⟩ := @loneFile_loads climbingText unmarked "ws" _ climbingText_reads sound
  rw [silent] at loaded
  rw [read] at found
  obtain ⟨base, first, report⟩ := Option.bind_eq_some_iff.mp (found "default" (.inl rfl))
  obtain ⟨ci, second, report'⟩ := Option.bind_eq_some_iff.mp (found "ci" (.inr rfl))
  obtain ⟨target, written, same⟩ := Option.map_eq_some_iff.mp report
  obtain ⟨next, written', same'⟩ := Option.map_eq_some_iff.mp report'
  exact ⟨⟨"ws", values⟩, base, ci, target, next, loaded, first, second, written, written', (Prod.mk.inj same).2,
    Prod.mk.inj same'⟩

-- Nothing is said of a report that is written outside of its profile's store, over the report of another profile.
theorem report_escapes : ∃ settings base ci target next,
    load (loneFile climbingText) "ws" (some "ci") = ([], .ok settings) ∧
    settings.profile? "default" = some base ∧ settings.profile? "ci" = some ci ∧
    base.report = some target ∧ ci.report = some next ∧
    ∀ here, ¬ Path.resolve here ci.storeDir <+: Path.resolve here next.path ∧
      Path.resolve here next.path = Path.resolve here target.path := by
  obtain ⟨settings, base, ci, target, next, loaded, first, second, written, written', targetPath, dir, nextPath⟩ :=
    climbingText_loads
  refine ⟨settings, base, ci, target, next, loaded, first, second, written, written', fun here => ?_⟩
  have store : Path.resolve here ci.storeDir = follow here ["ws", "target", "outcome-harness", "ci"] := by
    rw [dir]
    exact Path.resolve_relative (by decide +kernel) (by decide +kernel)
  have there : Path.resolve here next.path =
      follow here ["ws", "target", "outcome-harness", "ci", "..", "default", "a.xml"] := by
    rw [nextPath]
    exact Path.resolve_relative (by decide +kernel) (by decide +kernel)
  have other : Path.resolve here target.path =
      follow here ["ws", "target", "outcome-harness", "default", "a.xml"] := by
    rw [targetPath]
    exact Path.resolve_relative (by decide +kernel) (by decide +kernel)
  rw [store, there, other]
  simp [follow]

end Settings
end TrialBench
