import TrialBench.Path
import TrialBench.Text.Utf8
namespace TrialBench

inductive FileError where
  | missing
  | exists
  | notFolder
  | isFolder
  | noSpace
  | nameTooLong
  | nulByte
  deriving DecidableEq

def FileError.text : FileError → String
  | .missing => "No such file or directory (os error 2)"
  | .exists => "File exists (os error 17)"
  | .notFolder => "Not a directory (os error 20)"
  | .isFolder => "Is a directory (os error 21)"
  | .noSpace => "No space left on device (os error 28)"
  | .nameTooLong => "File name too long (os error 36)"
  | .nulByte => "file name contained an unexpected NUL byte"

inductive FileContent where
  | text (text : String)
  | bytes (bytes : List UInt8)

-- Bytes that are no text read as replacement characters.
def FileContent.read : FileContent → String
  | .text written => written
  | .bytes raw => Text.Utf8.decode raw

-- A sink takes everything and keeps nothing, a full device takes nothing.
inductive FileNode where
  | folder
  | file (content : FileContent)
  | sink
  | full

-- A place is named by the steps that lead to it from the root.
abbrev Place := List String

structure FileTree where
  here : Place
  nodes : List (Place × FileNode)

namespace FileTree

-- Only what a harness can meet outside its working folder stands in a fresh tree.
def fresh : FileTree where
  here := ["work"]
  nodes := [(["work"], .folder), (["tmp"], .folder), (["dev"], .folder),
    (["dev", "null"], .sink), (["dev", "full"], .full)]

def at? (tree : FileTree) (place : Place) : Option FileNode :=
  if place = [] then some .folder else (tree.nodes.find? (·.1 = place)).map (·.2)

def isFolderAt (tree : FileTree) (place : Place) : Bool :=
  match tree.at? place with
  | some .folder => true
  | _ => false

def put (tree : FileTree) (place : Place) (node : FileNode) : FileTree :=
  { tree with nodes := (place, node) :: tree.nodes.filter (·.1 ≠ place) }

def longestName : Nat := 255
def longestPath : Nat := 4095

def step (tree : FileTree) (place : Place) (name : String) : Except FileError Place :=
  if ¬ tree.isFolderAt place then .error .notFolder
  else if name = ".." then .ok place.dropLast
  else if longestName < name.utf8ByteSize then .error .nameTooLong
  else if (tree.at? (place ++ [name])).isSome then .ok (place ++ [name])
  else .error .missing

def walk (tree : FileTree) (place : Place) (names : List String) : Except FileError Place :=
  names.foldlM tree.step place

def checkText (path : String) : Except FileError Unit :=
  if path.contains '\x00' then .error .nulByte
  else if longestPath < path.utf8ByteSize then .error .nameTooLong
  else if path = "" then .error .missing
  else .ok ()

def origin (tree : FileTree) (path : String) : Place :=
  if Path.isAbsolute path then [] else tree.here

-- The node a path leads to. Where the path ends in a slash or in a dot, the last
-- name has to be a folder.
def find (tree : FileTree) (path : String) : Except FileError (Place × FileNode) := do
  checkText path
  let place ← tree.walk (tree.origin path) (Path.steps path)
  let wantsFolder := ((Path.segments path).getLast?.map Path.isIdle).getD false
  if wantsFolder ∧ ¬ tree.isFolderAt place then .error .notFolder
  else match tree.at? place with
    | some node => .ok (place, node)
    | none => .error .missing

def read? (tree : FileTree) (path : String) : Option String :=
  match tree.find path with
  | .ok (_, .file content) => some content.read
  | _ => none

def isFile (tree : FileTree) (path : String) : Bool := (tree.read? path).isSome

def isFolder (tree : FileTree) (path : String) : Bool :=
  match tree.find path with
  | .ok (_, .folder) => true
  | _ => false

-- The folder that a path's last segment is looked up in, and that segment. A path of
-- slashes alone has no such segment.
def lastStep (tree : FileTree) (path : String) : Except FileError (Option (Place × String)) := do
  checkText path
  let named := (Path.segments path).filter (· ≠ "")
  match named.getLast? with
  | none => .ok none
  | some last =>
    let place ← tree.walk (tree.origin path) (named.dropLast.filter (¬ Path.isIdle ·))
    if ¬ tree.isFolderAt place then .error .notFolder else .ok (some (place, last))

def isDots (name : String) : Bool := name == "." || name == ".."

def makeFolder (tree : FileTree) (path : String) : Except FileError FileTree := do
  match ← tree.lastStep path with
  | none => .error .exists
  | some (place, name) =>
    if isDots name then .error .exists
    else if longestName < name.utf8ByteSize then .error .nameTooLong
    else if (tree.at? (place ++ [name])).isSome then .error .exists
    else .ok (tree.put (place ++ [name]) .folder)

-- The path and the paths above it that have a last step, nearest first.
def ancestry : Nat → String → List String
  | 0, _ => []
  | fuel + 1, path =>
    match Path.parent? path with
    | none => []
    | some above => path :: ancestry fuel above

-- The folders still to be made, outermost last: the walk up ends at the first folder
-- that is there or can be made at once.
def climb (tree : FileTree) : List String → Except FileError (FileTree × List String)
  | [] => .ok (tree, [])
  | path :: above =>
    match tree.makeFolder path with
    | .ok made => .ok (made, [])
    | .error .missing => do
      let (made, below) ← tree.climb above
      .ok (made, path :: below)
    | .error .exists => if tree.isFolder path then .ok (tree, []) else .error .exists
    | .error e => .error e

def makeEach (tree : FileTree) (path : String) : Except FileError FileTree :=
  match tree.makeFolder path with
  | .ok made => .ok made
  | .error .exists => if tree.isFolder path then .ok tree else .error .exists
  | .error e => .error e

-- Folders made before one that cannot be made are left standing.
def makeAll (tree : FileTree) : List String → FileTree × Except FileError Unit
  | [] => (tree, .ok ())
  | path :: rest =>
    match tree.makeEach path with
    | .ok made => made.makeAll rest
    | .error e => (tree, .error e)

-- Makes a folder together with all folders above it that are missing.
def makeFolders (tree : FileTree) (path : String) : FileTree × Except FileError Unit :=
  match tree.climb (ancestry (path.length + 1) path) with
  | .ok (made, below) => made.makeAll below.reverse
  | .error e => (tree, .error e)

def openPlace (tree : FileTree) (path : String) : Except FileError Place := do
  match ← tree.lastStep path with
  | none => .error .isFolder
  | some (place, name) =>
    if isDots name ∨ path.toList.getLast? = some '/' then .error .isFolder
    else if longestName < name.utf8ByteSize then .error .nameTooLong
    else match tree.at? (place ++ [name]) with
      | some .folder => .error .isFolder
      | _ => .ok (place ++ [name])

-- What becomes of a text written to an open place: a regular file is replaced.
def store (tree : FileTree) (place : Place) (text : String) : Except FileError FileTree :=
  match tree.at? place with
  | some .sink => .ok tree
  | some .full => .error .noSpace
  | _ => .ok (tree.put place (.file (.text text)))

def provide (tree : FileTree) (path : String) (content : FileContent) :
    Except FileError FileTree := do
  let (tree, made) := match Path.parent? path with
    | some above => tree.makeFolders above
    | none => (tree, .ok ())
  made
  let place ← tree.openPlace path
  .ok (tree.put place (.file content))

end FileTree
end TrialBench
