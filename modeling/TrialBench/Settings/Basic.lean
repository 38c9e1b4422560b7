import TrialBench.Duration.Read
import TrialBench.Settings.Mismatch
import TrialBench.Text.Lowercase
namespace TrialBench.Settings

structure BaseProfile where
  timeout : Duration
  failFast : Bool
  reportPath : Option String
  reportName : String

structure CustomProfile where
  timeout : Option Duration
  failFast : Option Bool
  reportPath : Option String
  reportName : Option String

-- Custom profiles are sorted by name.
structure Values where
  storeDir : String
  base : BaseProfile
  custom : List (String × CustomProfile)

def storeRecord : Record := ⟨"StoreConfigImpl", ["dir"]⟩
def profilesRecord : Record := ⟨"HarnessProfilesImpl", ["default"]⟩
def baseRecord : Record := ⟨"DefaultProfileImpl", ["message-timeout", "fail-fast", "junit"]⟩
def baseReportRecord : Record := ⟨"DefaultJunitImpl", ["path", "report-name"]⟩
def customRecord : Record := ⟨"CustomProfileImpl", ["message-timeout", "fail-fast", "junit"]⟩
def customReportRecord : Record := ⟨"JunitImpl", ["path", "report-name"]⟩

abbrev Checked := Except Refusal

def refuse {α : Type} (place : Place) (mismatch : Mismatch) : Checked α := .error ⟨place, mismatch⟩

-- A named part of a record, where it stands and what stands there.
structure Part where
  name : String
  place : Place
  tree : Tree

def listParts (place : Place) (fields : List String) (items : List Tree) : List Part :=
  ((fields.zip items).zipIdx).map fun ((name, tree), i) => ⟨name, place ++ [.index i], tree⟩

-- The parts of a record, in the order they are written. A list gives values without names.
def Record.parts (record : Record) (place : Place) : Tree → Checked (List Part)
  | .table _ entries => .ok (entries.map fun (key, tree) => ⟨key, place ++ [.key key], tree⟩)
  | .list _ items => .ok (listParts place record.fields items)
  | tree => refuse place (.kind (.of tree) (.record record))

def Record.lacking {α : Type} (record : Record) (place : Place) (tree : Tree) (field : String) :
    Checked α :=
  match tree with
  | .list _ _ => refuse place (.tooShort (record.fields.idxOf field) record)
  | _ => refuse place (.missing field)

def isAsWritten : Tree → Bool
  | .nothing => false
  | .scalar _ => true
  | .list asWritten _ | .table asWritten _ => asWritten

def scalarText : Scalar → String
  | .text text => text
  | .integer value => toString value
  | .real value => value.text
  | .boolean value => if value then "true" else "false"

namespace Part

def text (part : Part) : Checked String :=
  match part.tree with
  | .scalar value => .ok (scalarText value)
  | tree => refuse part.place (.setting (.of tree) .text (isAsWritten tree))

def optionalText (part : Part) : Checked (Option String) :=
  match part.tree with
  | .nothing => .ok none
  | _ => some <$> part.text

def duration (part : Part) : Checked Duration := do
  let text ← part.text
  match Duration.read? text with
  | some duration => .ok duration
  | none => refuse part.place (.content text .duration)

-- Words for yes and no are taken in any case, and a number that is not zero is a yes.
def wordTruth? (word : String) : Option Bool :=
  if word ∈ ["1", "true", "on", "yes"] then some true
  else if word ∈ ["0", "false", "off", "no"] then some false
  else none

def boolean (part : Part) : Checked Bool :=
  match part.tree with
  | .scalar (.boolean value) => .ok value
  | .scalar (.integer value) => .ok (value ≠ 0)
  | .scalar (.real value) => .ok (¬ value.isZero)
  | .scalar (.text text) =>
    let word := Text.lowercase text
    match wordTruth? word with
    | some value => .ok value
    | none => refuse part.place (.setting (.scalar (.text word)) .boolean true)
  | tree => refuse part.place (.setting (.of tree) .boolean (isAsWritten tree))

end Part

-- Parts are taken in the order they are written, so the first fault is the one reported.
def readReport (place : Place) (tree : Tree) : Checked (Option String × String) := do
  let read (found : Option String × Option String) (part : Part) := do
    match part.name with
    | "path" => return (← part.optionalText, found.2)
    | "report-name" => return (found.1, some (← part.text))
    | _ => return found
  match ← (← baseReportRecord.parts place tree).foldlM read (none, none) with
  | (path, some name) => .ok (path, name)
  | (_, none) => baseReportRecord.lacking place tree "report-name"

structure BaseFound where
  timeout : Option Duration
  failFast : Option Bool
  report : Option (Option String × String)

def readBase (place : Place) (tree : Tree) : Checked BaseProfile := do
  let read (found : BaseFound) (part : Part) : Checked BaseFound := do
    match part.name with
    | "message-timeout" => return { found with timeout := some (← part.duration) }
    | "fail-fast" => return { found with failFast := some (← part.boolean) }
    | "junit" => return { found with report := some (← readReport part.place part.tree) }
    | _ => return found
  let found ← (← baseRecord.parts place tree).foldlM read ⟨none, none, none⟩
  match found with
  | ⟨none, _, _⟩ => baseRecord.lacking place tree "message-timeout"
  | ⟨some _, none, _⟩ => baseRecord.lacking place tree "fail-fast"
  | ⟨some _, some _, none⟩ => baseRecord.lacking place tree "junit"
  | ⟨some timeout, some failFast, some (path, name)⟩ => .ok ⟨timeout, failFast, path, name⟩

def readStore (place : Place) (tree : Tree) : Checked String := do
  let read (found : Option String) (part : Part) := do
    match part.name with
    | "dir" => return some (← part.text)
    | _ => return found
  match ← (← storeRecord.parts place tree).foldlM read none with
  | some dir => .ok dir
  | none => storeRecord.lacking place tree "dir"

-- Custom profiles are taken as they are: nothing is converted, what is not known is
-- passed over, and a fault is reported for all of them together.
namespace Custom

def place : Place := [.key "profile"]

def refuseKind {α : Type} (tree : Tree) (wanted : Wanted) : Checked α :=
  refuse place (.kind (.of tree) wanted)

def text (wanted : Wanted) : Tree → Checked (Option String)
  | .nothing => .ok none
  | .scalar (.text text) => .ok (some text)
  | tree => refuseKind tree wanted

def boolean : Tree → Checked (Option Bool)
  | .nothing => .ok none
  | .scalar (.boolean value) => .ok (some value)
  | tree => refuseKind tree .boolean

def duration (tree : Tree) : Checked (Option Duration) := do
  match ← text .duration tree with
  | none => .ok none
  | some written =>
    match Duration.read? written with
    | some duration => .ok (some duration)
    | none => refuse place (.content written .duration)

-- A list may be shorter than the record, and not longer.
def checkLength (record : Record) : Tree → Checked Unit
  | .list _ items =>
    if record.fields.length < items.length then
      refuse place (.tooLong items.length record.fields.length)
    else .ok ()
  | _ => .ok ()

def readReport (tree : Tree) : Checked (Option String × Option String) := do
  let read (found : Option String × Option String) (part : Part) := do
    match part.name with
    | "path" => return (← text .path part.tree, found.2)
    | "report-name" => return (found.1, ← text .text part.tree)
    | _ => return found
  let found ← (← customReportRecord.parts place tree).foldlM read (none, none)
  checkLength customReportRecord tree
  return found

def read (tree : Tree) : Checked CustomProfile := do
  let read (found : CustomProfile) (part : Part) : Checked CustomProfile := do
    match part.name with
    | "message-timeout" => return { found with timeout := ← duration part.tree }
    | "fail-fast" => return { found with failFast := ← boolean part.tree }
    | "junit" =>
      let (path, name) ← readReport part.tree
      return { found with reportPath := path, reportName := name }
    | _ => return found
  let found ← (← customRecord.parts place tree).foldlM read ⟨none, none, none, none⟩
  checkLength customRecord tree
  return found

end Custom

def baseName : String := "default"

def sortByName {α : Type} (named : List (String × α)) : List (String × α) :=
  named.mergeSort fun a b => a.1 ≤ b.1

-- Profiles are a table. The base profile is read before all custom ones.
def readProfiles (place : Place) : Tree → Checked (BaseProfile × List (String × CustomProfile))
  | .table _ entries => do
    match entries.lookup baseName with
    | none => refuse place (.missing baseName)
    | some tree =>
      let base ← readBase (place ++ [.key baseName]) tree
      let custom ← (entries.filter (·.1 ≠ baseName)).mapM fun (name, tree) => do
        return (name, ← Custom.read tree)
      return (base, sortByName custom)
  | tree => refuse place (.kind (.of tree) (.record profilesRecord))

structure ValuesFound where
  storeDir : Option String
  profiles : Option (BaseProfile × List (String × CustomProfile))

def readValues (tree : Tree) : Checked Values := do
  let read (found : ValuesFound) (entry : String × Tree) : Checked ValuesFound := do
    match entry.1 with
    | "store" => return { found with storeDir := some (← readStore [.key "store"] entry.2) }
    | "profile" => return { found with profiles := some (← readProfiles [.key "profile"] entry.2) }
    | _ => return found
  match ← tree.entries.foldlM read ⟨none, none⟩ with
  | ⟨none, _⟩ => refuse [] (.missing "store")
  | ⟨some _, none⟩ => refuse [] (.missing "profile")
  | ⟨some dir, some (base, custom)⟩ => .ok ⟨dir, base, custom⟩

end TrialBench.Settings
