import TrialBench.ErrorChain
import TrialBench.Path
import TrialBench.Settings.Basic
namespace TrialBench

structure ReportTarget where
  path : String
  name : String

structure Profile where
  name : String
  storeDir : String
  timeout : Duration
  failFast : Bool
  report : Option ReportTarget

structure Settings where
  root : String
  values : Settings.Values

namespace Settings

def customNames (settings : Settings) : List String := settings.values.custom.map (·.1)

-- The base profile comes first, and the others by name.
def profileNames (settings : Settings) : List String := baseName :: settings.customNames

def silent : CustomProfile := ⟨none, none, none, none⟩

-- What a profile says for itself. The base profile has nothing to add to itself.
def own? (settings : Settings) (name : String) : Option CustomProfile :=
  if name = baseName then some silent else settings.values.custom.lookup name

-- Each setting is looked up on its own: in the profile, else in the base profile.
def resolve (settings : Settings) (name : String) (own : CustomProfile) : Profile :=
  let base := settings.values.base
  let storeDir := Path.join (Path.join settings.root settings.values.storeDir) name
  { name, storeDir
    timeout := own.timeout.getD base.timeout
    failFast := own.failFast.getD base.failFast
    report := (own.reportPath <|> base.reportPath).map fun path =>
      ⟨Path.join storeDir path, own.reportName.getD base.reportName⟩ }

def profile? (settings : Settings) (name : String) : Option Profile :=
  (settings.own? name).map (settings.resolve name)

def unknownProfile (settings : Settings) (name : String) : ErrorChain :=
  .leaf ("profile `" ++ name ++ "` not found (known profiles: "
    ++ String.intercalate ", " (settings.profileNames.mergeSort (· ≤ ·)) ++ ")")

end Settings
end TrialBench
