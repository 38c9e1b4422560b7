import TrialBench.ErrorChain
import TrialBench.Log.Event
namespace TrialBench

-- A class as it answers for itself: its own name and the class it derives from.
structure ClassInfo where
  name : String
  parent : Option String
  deriving DecidableEq

-- A class is looked up by key and may answer with another name than its key.
structure CatalogEntry where
  key : String
  info : ClassInfo
  deriving DecidableEq

-- What discovery reads: the listed names, in order, or the reason why there is
-- no list, and the classes that a name may lead to.
structure Catalog where
  listing : Except String (List String)
  entries : List CatalogEntry

inductive DiscoveryError where
  | catalogRead (reason : String)
  | unresolved (name : String)
  | cycle (listed : String)
  | notInstantiable (name : String)
  deriving DecidableEq

def baseClass : String := "UnitTest"

def DiscoveryError.chain : DiscoveryError → ErrorChain
  | .catalogRead reason => .wrap "failed to read the list of test classes" (.leaf reason)
  | .unresolved name => .leaf ("class `" ++ name ++ "` could not be resolved")
  | .cycle listed => .leaf ("inheritance cycle detected starting from class `" ++ listed ++ "`")
  | .notInstantiable name =>
    .leaf ("test class `" ++ name ++ "` was discovered but has no factory")

namespace Catalog

def infos (catalog : Catalog) : List ClassInfo := catalog.entries.map (·.info)

-- The first entry of a name counts.
def resolve (catalog : Catalog) (name : String) : Option ClassInfo :=
  (catalog.entries.find? (·.key == name)).map (·.info)

theorem mem_infos_of_resolve {catalog : Catalog} {name : String} {info : ClassInfo}
    (found : catalog.resolve name = some info) : info ∈ catalog.infos := by
  unfold resolve at found
  obtain ⟨entry, hit, rfl⟩ := Option.map_eq_some_iff.1 found
  exact List.mem_map_of_mem (List.mem_of_find?_eq_some hit)

-- Classes of the catalog whose names a climb has not met yet.
def unmet (catalog : Catalog) (seen : List String) : Nat :=
  (catalog.infos.filter fun info => decide (info.name ∉ seen)).length

theorem unmet_lt {catalog : Catalog} {seen : List String} {info : ClassInfo}
    (known : info ∈ catalog.infos) (fresh : info.name ∉ seen) :
    catalog.unmet (info.name :: seen) < catalog.unmet seen := by
  have narrower : catalog.infos.filter (fun other => decide (other.name ∉ info.name :: seen))
      = (catalog.infos.filter fun other => decide (other.name ∉ seen)).filter
          fun other => decide (other.name ≠ info.name) := by
    rw [List.filter_filter]
    congr 1
    funext other
    simp
  rw [unmet, unmet, narrower]
  refine List.length_filter_lt_length_iff_exists.2 ⟨info, ?_, by simp⟩
  simp [known, fresh]

-- Climbs from a class to the ancestor that derives directly from the base class.
-- The climb ends without one at a class that derives from nothing, and fails at
-- an unknown parent or at a name it has met before.
def climb (catalog : Catalog) (listed : String) (seen : List String) (current : ClassInfo)
    (_known : current ∈ catalog.infos) : Except DiscoveryError (Option String) :=
  if _met : current.name ∈ seen then .error (.cycle listed)
  else
    match current.parent with
    | none => .ok none
    | some parent =>
      if parent = baseClass then .ok (some current.name)
      else
        match found : catalog.resolve parent with
        | none => .error (.unresolved parent)
        | some next =>
          climb catalog listed (current.name :: seen) next (mem_infos_of_resolve found)
termination_by catalog.unmet seen
decreasing_by exact unmet_lt _known _met

def directChild (catalog : Catalog) (listed : String) : Except DiscoveryError (Option String) :=
  match found : catalog.resolve listed with
  | none => .error (.unresolved listed)
  | some info => catalog.climb listed [] info (mem_infos_of_resolve found)

end Catalog

def ancestorWarning (listed collected : String) : LogEvent where
  level := .warn
  source := .registry
  message := "class is not a direct child of " ++ baseClass ++
    ", collecting its ancestor instead"
  fields := [("class", .quoted listed), ("collected", .shown collected)]

-- One listed class after the other; the first failure ends the search, and what
-- was said before it stays said.
def Catalog.collect (catalog : Catalog) :
    List String → List LogEvent × Except DiscoveryError (List String)
  | [] => ([], .ok [])
  | listed :: rest =>
    match catalog.directChild listed with
    | .error failure => ([], .error failure)
    | .ok none => catalog.collect rest
    | .ok (some collected) =>
      let said := if collected = listed then [] else [ancestorWarning listed collected]
      let (later, result) := catalog.collect rest
      (said ++ later, result.map (collected :: ·))

def Catalog.discover (catalog : Catalog) : List LogEvent × Except DiscoveryError (List String) :=
  match catalog.listing with
  | .error reason => ([], .error (.catalogRead reason))
  | .ok names => catalog.collect names

end TrialBench
