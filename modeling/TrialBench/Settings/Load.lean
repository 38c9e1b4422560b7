import TrialBench.FileTree
import TrialBench.Log.Event
import TrialBench.Settings.KeyPath
import TrialBench.Settings.Profile
import TrialBench.Settings.Unknown
import TrialBench.Text.Quoted
import TrialBench.Toml.Read
namespace TrialBench.Settings

-- The settings that hold where no file says otherwise. No report is written.
def builtinLayer : Entries :=
  let text (t : String) : Tree := .scalar (.text t)
  [("store", .table true [("dir", text "target/outcome-harness")]),
   ("profile", .table true [("default", .table true [
      ("message-timeout", text "5m"),
      ("fail-fast", .scalar (.boolean false)),
      ("junit", .table true [("report-name", text "outcome-harness-run")])])])]

def builtinTree : Tree := Tree.empty.addLayer builtinLayer

inductive LoadFault where
  | notFound
  | malformed (file : String)
  | refused (refusal : Refusal) (file : String)

structure LoadError where
  configFile : String
  fault : LoadFault

def LoadError.text (e : LoadError) : String :=
  "failed to parse outcome-harness config at " ++ ticked e.configFile

def LoadFault.cause? (asked : String) : LoadFault → Option String
  | .notFound => some ("configuration file \"" ++ asked ++ "\" not found")
  | .malformed _ => none
  | .refused refusal file => some (refusal.text file)

-- The text of what is wrong inside a malformed file is left out.
def LoadError.chain (e : LoadError) : ErrorChain :=
  match e.fault.cause? e.configFile with
  | none => .leaf e.text
  | some cause => .wrap e.text (.leaf cause)

structure Source where
  file : String
  text : String

def dropMark (text : String) : String :=
  match text.toList with
  | '\ufeff' :: rest => String.ofList rest
  | _ => text

-- The named file, or else the one with the format's extension added to its name.
def findSource? (files : FileTree) (path : String) : Option Source :=
  let candidates := path :: (Path.withExtension? path "toml").toList
  candidates.findSome? fun candidate =>
    (files.read? candidate).map fun text => ⟨Path.plain candidate, dropMark text⟩

def warnUnknown (configFile : String) (path : List String) : LogEvent where
  level := .warn
  source := .config
  message := "ignoring unknown configuration key"
  fields := [("config_file", .shown configFile), ("key", .shown (shownKey path))]

-- Unknown keys are told only when everything else is in order.
def ofTree (root configFile file : String) (tree : Tree) :
    List LogEvent × Except LoadError Settings :=
  match readValues tree with
  | .error refusal => ([], .error ⟨configFile, .refused refusal file⟩)
  | .ok values => ((unknownKeys schema [] tree).map (warnUnknown configFile), .ok ⟨root, values⟩)

def ofSource (root configFile : String) (source : Source) : List LogEvent × Except LoadError Settings :=
  match Toml.read? source.text with
  | none => ([], .error ⟨configFile, .malformed source.file⟩)
  | some table =>
    ofTree root configFile source.file (builtinTree.addLayer (Tree.entriesOfToml table))

def builtin (root : String) : List LogEvent × Except LoadError Settings :=
  ofTree root "<default>" "<default>" builtinTree

def usualFile : String := ".config/outcome-harness.toml"

-- A file that is asked for has to be there, and the one at its usual place need not.
def load (files : FileTree) (root : String) (asked : Option String) :
    List LogEvent × Except LoadError Settings :=
  match asked with
  | some path =>
    match findSource? files path with
    | some source => ofSource root path source
    | none => ([], .error ⟨path, .notFound⟩)
  | none =>
    let path := Path.join root usualFile
    match findSource? files path with
    | some source => ofSource root path source
    | none => ofTree root path path builtinTree

end TrialBench.Settings
