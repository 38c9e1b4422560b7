import Mathlib.Data.List.Basic
import TrialBench.Registry.Discovery
namespace TrialBench

-- What becomes of a listed class: the ancestor that is collected for it, nothing, or an error.
abbrev Verdict := Except DiscoveryError (Option String)

namespace Catalog
variable {catalog : Catalog} {listed name : String} {names : List String} {i j : Nat} {info other : ClassInfo}
  {verdict : Verdict}

-- The line of a listed class, itself first: each is what the parent before it resolves to.
def lineage (catalog : Catalog) (listed : String) : Nat → Option ClassInfo
  | 0 => catalog.resolve listed
  | i + 1 => ((catalog.lineage listed i).bind (·.parent)).bind catalog.resolve

-- The name that is looked up at a place of the line.
def asked (catalog : Catalog) (listed : String) : Nat → Option String
  | 0 => some listed
  | i + 1 => (catalog.lineage listed i).bind (·.parent)

def MetBefore (catalog : Catalog) (listed : String) (i : Nat) (name : String) : Prop :=
  ∃ j < i, (catalog.lineage listed j).map (·.name) = some name

-- What a place of the line says. A name that was met before counts first, and whoever
-- derives from the base class comes before whoever derives from nothing.
inductive DecidedAt (catalog : Catalog) (listed : String) (i : Nat) : Verdict → Prop where
  | unresolved {name : String} (asks : catalog.asked listed i = some name) (lost : catalog.resolve name = none) :
      DecidedAt catalog listed i (.error (.unresolved name))
  | cycle {info : ClassInfo} (stands : catalog.lineage listed i = some info)
      (met : catalog.MetBefore listed i info.name) : DecidedAt catalog listed i (.error (.cycle listed))
  | collected {info : ClassInfo} (stands : catalog.lineage listed i = some info)
      (fresh : ¬ catalog.MetBefore listed i info.name) (derives : info.parent = some baseClass) :
      DecidedAt catalog listed i (.ok (some info.name))
  | root {info : ClassInfo} (stands : catalog.lineage listed i = some info)
      (fresh : ¬ catalog.MetBefore listed i info.name) (derives : info.parent = none) :
      DecidedAt catalog listed i (.ok none)

-- The first place that says anything decides.
def FirstAt (catalog : Catalog) (listed : String) (i : Nat) (verdict : Verdict) : Prop :=
  catalog.DecidedAt listed i verdict ∧ ∀ j < i, ∀ other, ¬ catalog.DecidedAt listed j other

def Decides (catalog : Catalog) (listed : String) (verdict : Verdict) : Prop :=
  ∃ i, catalog.FirstAt listed i verdict

theorem lineage_asked : catalog.lineage listed i = (catalog.asked listed i).bind catalog.resolve := by
  cases i <;> rfl

theorem lineage_next {parent : String} (stands : catalog.lineage listed i = some info)
    (derives : info.parent = some parent) : catalog.lineage listed (i + 1) = catalog.resolve parent := by
  simp [lineage, stands, derives]

theorem asked_next (stands : catalog.lineage listed i = some info) : catalog.asked listed (i + 1) = info.parent := by
  simp [asked, stands]

theorem DecidedAt.asks (decided : catalog.DecidedAt listed i verdict) :
    ∃ name, catalog.asked listed i = some name := by
  cases decided with
  | unresolved asks => exact ⟨_, asks⟩
  | cycle stands | collected stands | root stands =>
    rw [lineage_asked] at stands
    obtain ⟨name, asks, -⟩ := Option.bind_eq_some_iff.mp stands
    exact ⟨name, asks⟩

theorem DecidedAt.lost (decided : catalog.DecidedAt listed i verdict) (lost : catalog.lineage listed i = none) :
    ∃ name, catalog.asked listed i = some name ∧ verdict = .error (.unresolved name) := by
  cases decided with
  | unresolved asks => exact ⟨_, asks, rfl⟩
  | cycle stands | collected stands | root stands => cases lost.symm.trans stands

-- A class says something if its name was met before, or if it derives from no class but
-- the base class.
theorem DecidedAt.at_class (decided : catalog.DecidedAt listed i verdict)
    (stands : catalog.lineage listed i = some info) :
    catalog.MetBefore listed i info.name ∧ verdict = .error (.cycle listed) ∨
    ¬ catalog.MetBefore listed i info.name ∧
      (info.parent = some baseClass ∧ verdict = .ok (some info.name) ∨ info.parent = none ∧ verdict = .ok none) := by
  cases decided with
  | unresolved asks lost => simp [lineage_asked, asks, lost] at stands
  | cycle there met =>
    cases stands.symm.trans there
    exact .inl ⟨met, rfl⟩
  | collected there fresh derives =>
    cases stands.symm.trans there
    exact .inr ⟨fresh, .inl ⟨derives, rfl⟩⟩
  | root there fresh derives =>
    cases stands.symm.trans there
    exact .inr ⟨fresh, .inr ⟨derives, rfl⟩⟩

theorem DecidedAt.unique {one two : Verdict} (first : catalog.DecidedAt listed i one)
    (second : catalog.DecidedAt listed i two) : one = two := by
  cases found : catalog.lineage listed i with
  | none =>
    obtain ⟨name, asks, rfl⟩ := first.lost found
    obtain ⟨other, asks', rfl⟩ := second.lost found
    rw [Option.some.inj (asks.symm.trans asks')]
  | some info =>
    have said := first.at_class found
    have said' := second.at_class found
    grind

theorem Decides.unique {one two : Verdict} (first : catalog.Decides listed one) (second : catalog.Decides listed two) :
    one = two := by
  obtain ⟨i, decided, early⟩ := first
  obtain ⟨j, decided', early'⟩ := second
  rcases Nat.lt_trichotomy i j with before | rfl | after
  · exact absurd decided (early' i before one)
  · exact decided.unique decided'
  · exact absurd decided' (early j after two)

-- A climb that has come to a place of the line, with the names that it has met.
structure Climbs (catalog : Catalog) (listed : String) (i : Nat) (seen : List String) (current : ClassInfo) : Prop where
  stands : catalog.lineage listed i = some current
  seen : ∀ name, name ∈ seen ↔ catalog.MetBefore listed i name
  undecided : ∀ j < i, ∀ verdict, ¬ catalog.DecidedAt listed j verdict

variable {seen : List String} {current : ClassInfo}

-- A climb goes past a class that derives from another one than the base class.
theorem Climbs.passes {parent : String} (climbs : catalog.Climbs listed i seen current)
    (fresh : current.name ∉ seen) (derives : current.parent = some parent) (apart : parent ≠ baseClass) :
    ∀ j < i + 1, ∀ verdict, ¬ catalog.DecidedAt listed j verdict := by
  obtain ⟨stands, met, undecided⟩ := climbs
  intro j before verdict decided
  rcases Nat.lt_succ_iff_lt_or_eq.mp before with early | rfl
  · exact undecided j early verdict decided
  · rcases decided.at_class stands with ⟨again, -⟩ | ⟨-, ⟨derives', -⟩ | ⟨derives', -⟩⟩
    · exact fresh ((met _).mpr again)
    · exact apart (Option.some.inj (derives.symm.trans derives'))
    · cases derives.symm.trans derives'

theorem Climbs.next {parent : String} {next : ClassInfo} (climbs : catalog.Climbs listed i seen current)
    (fresh : current.name ∉ seen) (derives : current.parent = some parent) (apart : parent ≠ baseClass)
    (found : catalog.resolve parent = some next) :
    catalog.Climbs listed (i + 1) (current.name :: seen) next := by
  refine ⟨(lineage_next climbs.stands derives).trans found, ?_, climbs.passes fresh derives apart⟩
  intro name
  rw [List.mem_cons, climbs.seen]
  constructor
  · rintro (rfl | ⟨j, before, same⟩)
    · exact ⟨i, Nat.lt_succ_self i, by rw [climbs.stands]; rfl⟩
    · exact ⟨j, Nat.lt_succ_of_lt before, same⟩
  · rintro ⟨j, before, same⟩
    rcases Nat.lt_succ_iff_lt_or_eq.mp before with early | rfl
    · exact .inr ⟨j, early, same⟩
    · rw [climbs.stands] at same
      exact .inl (Option.some.inj same).symm

-- A climb ends at the first place that decides. It comes no further than there are classes
-- that it has not met.
theorem climb_decides (known : current ∈ catalog.infos) (climbs : catalog.Climbs listed i seen current) :
    ∃ place ≤ i + catalog.unmet seen, catalog.FirstAt listed place (catalog.climb listed seen current known) := by
  fun_induction climb catalog listed seen current known generalizing i with
  | case1 seen current known met =>
    exact ⟨i, Nat.le_add_right _ _, .cycle climbs.stands ((climbs.seen _).mp met), climbs.undecided⟩
  | case2 seen current known fresh derives =>
    exact ⟨i, Nat.le_add_right _ _, .root climbs.stands (mt (climbs.seen _).mpr fresh) derives, climbs.undecided⟩
  | case3 seen current known fresh derives =>
    exact ⟨i, Nat.le_add_right _ _, .collected climbs.stands (mt (climbs.seen _).mpr fresh) derives, climbs.undecided⟩
  | case4 seen current known fresh parent derives apart lost =>
    have fewer := unmet_lt known fresh
    have asks := (asked_next climbs.stands).trans derives
    exact ⟨i + 1, by omega, .unresolved asks lost, climbs.passes fresh derives apart⟩
  | case5 seen current known fresh parent derives apart next found ih =>
    obtain ⟨place, within, first⟩ := ih (climbs.next fresh derives apart found)
    have fewer := unmet_lt known fresh
    exact ⟨place, by omega, first⟩

theorem unmet_nothing : catalog.unmet [] = catalog.entries.length := by
  simp [unmet, infos]

-- The search for the ancestor of a listed class looks up no more names than there are
-- entries, and one.
theorem directChild_decides :
    ∃ place ≤ catalog.entries.length, catalog.FirstAt listed place (catalog.directChild listed) := by
  unfold directChild
  split
  · rename_i lost
    exact ⟨0, Nat.zero_le _, .unresolved rfl lost, fun j before => absurd before (Nat.not_lt_zero j)⟩
  · rename_i current found
    have start : catalog.Climbs listed 0 [] current := by
      refine ⟨found, fun name => ?_, fun j before => absurd before (Nat.not_lt_zero j)⟩
      constructor
      · intro member
        cases member
      · rintro ⟨j, before, -⟩
        cases before
    have known := mem_infos_of_resolve found
    obtain ⟨place, within, first⟩ := climb_decides known start
    rw [unmet_nothing, Nat.zero_add] at within
    exact ⟨place, within, first⟩

theorem decides_exact : catalog.Decides listed verdict ↔ catalog.directChild listed = verdict := by
  obtain ⟨place, -, first⟩ := @directChild_decides catalog listed
  constructor
  · intro decides
    exact Decides.unique ⟨place, first⟩ decides
  · rintro rfl
    exact ⟨place, first⟩

-- The first listed class with an error decides about the whole list.
theorem collect_fails {error : DiscoveryError} : (catalog.collect names).2 = .error error ↔
    ∃ before listed after, names = before ++ listed :: after ∧ catalog.directChild listed = .error error ∧
      ∀ earlier ∈ before, ∃ found, catalog.directChild earlier = .ok found := by
  induction names with
  | nil =>
    constructor
    · intro failed
      cases failed
    · rintro ⟨before, listed, after, parts, -⟩
      simp at parts
  | cons first rest ih =>
    have later {found : Option String} (fine : catalog.directChild first = .ok found) :
        (catalog.collect rest).2 = .error error ↔
          ∃ before listed after, first :: rest = before ++ listed :: after ∧
            catalog.directChild listed = .error error ∧
            ∀ earlier ∈ before, ∃ found, catalog.directChild earlier = .ok found := by
      rw [ih]
      constructor
      · rintro ⟨before, listed, after, rfl, failed, passed⟩
        refine ⟨first :: before, listed, after, rfl, failed, ?_⟩
        exact List.forall_mem_cons.mpr ⟨⟨found, fine⟩, passed⟩
      · rintro ⟨before, listed, after, parts, failed, passed⟩
        cases before with
        | nil =>
          cases parts
          cases fine.symm.trans failed
        | cons head before =>
          cases parts
          exact ⟨before, listed, after, rfl, failed, fun earlier member =>
            passed earlier (List.mem_cons_of_mem _ member)⟩
    cases decided : catalog.directChild first with
    | error failure =>
      simp only [collect, decided]
      constructor
      · intro same
        cases same
        exact ⟨[], first, rest, rfl, decided, fun earlier member => by cases member⟩
      · rintro ⟨before, listed, after, parts, failed, passed⟩
        cases before with
        | nil =>
          cases parts
          cases decided.symm.trans failed
          rfl
        | cons head before =>
          cases parts
          obtain ⟨found, fine⟩ := passed _ List.mem_cons_self
          cases decided.symm.trans fine
    | ok found =>
      cases found with
      | none =>
        simp only [collect, decided]
        exact later decided
      | some collected =>
        simp only [collect, decided]
        rw [← later decided]
        cases (catalog.collect rest).2 <;> simp [Except.map]

theorem collect_collects {found : String → Option String}
    (fine : ∀ listed ∈ names, catalog.directChild listed = .ok (found listed)) :
    (catalog.collect names).2 = .ok (names.filterMap found) := by
  induction names with
  | nil => rfl
  | cons first rest ih =>
    obtain ⟨decided, others⟩ := List.forall_mem_cons.mp fine
    have later := ih others
    cases ancestor : found first with
    | none => simp only [collect, decided, ancestor, later, List.filterMap_cons_none ancestor]
    | some collected =>
      simp only [collect, decided, ancestor, later, List.filterMap_cons_some ancestor]
      rfl

theorem discover_listed (listing : catalog.listing = .ok names) : catalog.discover = catalog.collect names := by
  simp only [discover, listing]

-- Whoever is resolved answers with the name that was asked for.
def Faithful (catalog : Catalog) : Prop := ∀ name info, catalog.resolve name = some info → info.name = name

-- The line of a class never ends, neither at a child of the base class nor at a class that
-- derives from nothing, nor at a name that cannot be resolved.
def Endless (catalog : Catalog) (listed : String) : Prop :=
  ∀ i, ∃ info parent, catalog.lineage listed i = some info ∧ info.parent = some parent ∧ parent ≠ baseClass

theorem Faithful.lineage_resolves (faithful : catalog.Faithful) (stands : catalog.lineage listed i = some info) :
    catalog.resolve info.name = some info := by
  rw [lineage_asked] at stands
  obtain ⟨name, -, found⟩ := Option.bind_eq_some_iff.mp stands
  rwa [faithful name info found]

theorem lineage_repeats (same : catalog.lineage listed i = catalog.lineage listed j) (steps : Nat) :
    catalog.lineage listed (i + steps) = catalog.lineage listed (j + steps) := by
  induction steps with
  | zero => exact same
  | succ steps ih =>
    change ((catalog.lineage listed (i + steps)).bind (·.parent)).bind catalog.resolve = _
    rw [ih]
    rfl

theorem asked_after (asks : catalog.asked listed i = some name) (before : j < i) :
    ∃ info parent, catalog.lineage listed j = some info ∧ info.parent = some parent := by
  induction i generalizing name with
  | zero => cases before
  | succ i ih =>
    obtain ⟨info, stands, derives⟩ := Option.bind_eq_some_iff.mp asks
    rcases Nat.lt_succ_iff_lt_or_eq.mp before with early | rfl
    · rw [lineage_asked] at stands
      obtain ⟨parent, asks', -⟩ := Option.bind_eq_some_iff.mp stands
      exact ih asks' early
    · exact ⟨info, name, stands, derives⟩

-- Before the place that decides, each class of the line derives from another class.
theorem FirstAt.derives (first : catalog.FirstAt listed i verdict) (before : j < i) :
    ∃ info parent, catalog.lineage listed j = some info ∧ info.parent = some parent ∧ parent ≠ baseClass := by
  obtain ⟨decided, undecided⟩ := first
  obtain ⟨name, asks⟩ := decided.asks
  obtain ⟨info, parent, stands, derives⟩ := asked_after asks before
  refine ⟨info, parent, stands, derives, ?_⟩
  rintro rfl
  by_cases met : catalog.MetBefore listed j info.name
  · exact undecided j before _ (.cycle stands met)
  · exact undecided j before _ (.collected stands met derives)

-- A name that is met again leads to the same class, and the line goes round from there.
theorem Faithful.cycle_endless (faithful : catalog.Faithful)
    (first : catalog.FirstAt listed i (.error (.cycle listed))) : catalog.Endless listed := by
  obtain ⟨info, stands, j, before, met⟩ : ∃ info, catalog.lineage listed i = some info ∧
      catalog.MetBefore listed i info.name := by
    cases first.1 with
    | cycle stands met => exact ⟨_, stands, met⟩
  obtain ⟨earlier, there, same⟩ := Option.map_eq_some_iff.mp met
  have again : catalog.lineage listed i = catalog.lineage listed j := by
    rw [stands, there, ← faithful.lineage_resolves stands, ← faithful.lineage_resolves there, same]
  intro place
  induction place using Nat.strongRecOn with
  | ind place ih =>
    rcases Nat.lt_or_ge place i with early | late
    · exact first.derives early
    · obtain ⟨steps, rfl⟩ := Nat.exists_eq_add_of_le late
      rw [lineage_repeats again steps]
      exact ih (j + steps) (by omega)

theorem Endless.cycle (endless : catalog.Endless listed) (first : catalog.FirstAt listed i verdict) :
    verdict = .error (.cycle listed) := by
  obtain ⟨info, parent, stands, derives, apart⟩ := endless i
  rcases first.1.at_class stands with ⟨-, same⟩ | ⟨-, ⟨derives', -⟩ | ⟨derives', -⟩⟩
  · exact same
  · exact absurd (Option.some.inj (derives.symm.trans derives')) apart
  · cases derives.symm.trans derives'

-- A catalog for any way to resolve names that knows only finitely many.
def knowing (resolves : String → Option ClassInfo) (keys names : List String) : Catalog where
  listing := .ok names
  entries := keys.filterMap fun key => (resolves key).map (⟨key, ·⟩)

theorem knowing_resolve {resolves : String → Option ClassInfo} {keys : List String}
    (finite : ∀ name, resolves name ≠ none → name ∈ keys) : (knowing resolves keys names).resolve = resolves := by
  funext name
  unfold resolve knowing
  rw [List.find?_filterMap]
  cases found : keys.find? fun key => ((resolves key).map (CatalogEntry.mk key)).any (·.key == name) with
  | none =>
    have absent := List.find?_eq_none.mp found
    cases known : resolves name with
    | none => rfl
    | some info =>
      have member : name ∈ keys := finite name (by simp [known])
      exact absurd (by simp [known]) (absent name member)
  | some key =>
    have hit := List.find?_some found
    simp only [Option.any_map, Option.any_eq_true_iff_get, beq_iff_eq] at hit
    obtain ⟨known, rfl⟩ := hit
    obtain ⟨info, same⟩ := Option.isSome_iff_exists.mp known
    simp [same]

-- What a listing comes to, by the lines of the listed classes.
structure Discovers (catalog : Catalog) (names : List String) : Prop where
  decided : ∀ listed, (∃ place ≤ catalog.entries.length, catalog.FirstAt listed place (catalog.directChild listed)) ∧
    ∀ verdict, catalog.Decides listed verdict ↔ catalog.directChild listed = verdict
  fails : ∀ error, catalog.discover.2 = .error error ↔
    ∃ before listed after, names = before ++ listed :: after ∧ catalog.Decides listed (.error error) ∧
      ∀ earlier ∈ before, ∃ found, catalog.Decides earlier (.ok found)
  collects : ∀ found : String → Option String, (∀ listed ∈ names, catalog.Decides listed (.ok (found listed))) →
    catalog.discover.2 = .ok (names.filterMap found)
  cycles : catalog.Faithful → ∀ listed, catalog.Decides listed (.error (.cycle listed)) ↔ catalog.Endless listed

-- Discovery is decided by the lines of the listed classes, each of which comes to a
-- verdict within as many steps as the catalog has entries. Catalogs stand for all ways to
-- resolve finitely many names.
theorem discovery_exact :
    (∀ (catalog : Catalog) (names : List String), catalog.listing = .ok names → catalog.Discovers names) ∧
    ∀ (resolves : String → Option ClassInfo) (keys names : List String),
      (∀ name, resolves name ≠ none → name ∈ keys) →
      ∃ catalog : Catalog, catalog.listing = .ok names ∧ catalog.resolve = resolves := by
  constructor
  · intro catalog names listing
    have same := discover_listed listing
    refine ⟨?_, ?_, ?_, ?_⟩
    · intro listed
      exact ⟨directChild_decides, fun verdict => decides_exact⟩
    · intro error
      simp only [same, collect_fails, decides_exact]
    · intro found fine
      simp only [decides_exact] at fine
      rw [same, collect_collects fine]
    · intro faithful listed
      constructor
      · rintro ⟨place, first⟩
        exact faithful.cycle_endless first
      · intro endless
        obtain ⟨place, -, first⟩ := @directChild_decides catalog listed
        exact ⟨place, endless.cycle first ▸ first⟩
  · intro resolves keys names finite
    exact ⟨knowing resolves keys names, rfl, knowing_resolve finite⟩

-- A class below a child of the base class, one that derives from nothing, and one that only
-- leads into a loop of two others.
def loopCatalog (names : List String) : Catalog where
  listing := .ok names
  entries := [("deep", some "child"), ("child", some baseClass), ("root", none), ("inlet", some "one"),
    ("one", some "two"), ("two", some "one")].map fun (key, parent) => ⟨key, ⟨key, parent⟩⟩

theorem loopCatalog_faithful (names : List String) : (loopCatalog names).Faithful := by
  intro name info found
  obtain ⟨entry, hit, rfl⟩ := Option.map_eq_some_iff.mp found
  have key : entry.key = name := by simpa using List.find?_some hit
  obtain ⟨⟨own, parent⟩, -, rfl⟩ := List.mem_map.mp (List.mem_of_find?_eq_some hit)
  exact key

theorem discovery_exact_loop :
    (loopCatalog ["deep", "root", "inlet", "lost"]).discover.2 = .error (.cycle "inlet") ∧
    (loopCatalog ["deep", "root", "child"]).discover.2 = .ok ["child", "child"] ∧
    (loopCatalog []).Endless "inlet" ∧
    ∃ catalog : Catalog, catalog.listing = .ok [] ∧
      catalog.resolve = fun name => if name = "alias" then some ⟨"other", none⟩ else none := by
  obtain ⟨discovers, represented⟩ := discovery_exact
  have decides {names : List String} {listed : String} {verdict : Verdict}
      (comes : (loopCatalog names).directChild listed = verdict) : (loopCatalog names).Decides listed verdict :=
    (((discovers _ names rfl).decided _).2 _).mpr comes
  refine ⟨?_, ?_, ?_, ?_⟩
  · refine ((discovers _ _ rfl).fails _).mpr ⟨["deep", "root"], "inlet", ["lost"], rfl, decides (by decide +kernel), ?_⟩
    intro earlier member
    rcases List.mem_pair.mp member with rfl | rfl
    · exact ⟨some "child", decides (by decide +kernel)⟩
    · exact ⟨none, decides (by decide +kernel)⟩
  · refine (discovers (loopCatalog _) _ rfl).collects (fun listed => if listed = "root" then none else some "child") ?_
    intro listed member
    simp only [List.mem_cons, List.not_mem_nil, or_false] at member
    rcases member with rfl | rfl | rfl <;> exact decides (by decide +kernel)
  · exact ((discovers _ [] rfl).cycles (loopCatalog_faithful []) "inlet").mp (decides (by decide +kernel))
  · refine represented _ ["alias"] [] ?_
    intro name known
    by_cases other : name = "alias"
    · simp [other]
    · simp [other] at known

end Catalog
end TrialBench
