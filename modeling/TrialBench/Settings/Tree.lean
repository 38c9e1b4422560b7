import TrialBench.Toml.Value
namespace TrialBench.Settings

inductive Scalar where
  | text (text : String)
  | integer (value : Int)
  | real (value : Double)
  | boolean (value : Bool)

-- Layered settings. A list or table remembers whether it stands as a file wrote it;
-- one that layers were merged into belongs to no single file.
inductive Tree where
  | nothing
  | scalar (value : Scalar)
  | list (asWritten : Bool) (items : List Tree)
  | table (asWritten : Bool) (entries : List (String × Tree))

abbrev Entries := List (String × Tree)

namespace Tree

def empty : Tree := .table false []

mutual
def ofToml : Toml.Value → Tree
  | .text text => .scalar (.text text)
  | .integer value => .scalar (.integer value)
  | .real value => .scalar (.real value)
  | .boolean value => .scalar (.boolean value)
  | .moment text => .scalar (.text text)
  | .array items => .list true (itemsOfToml items)
  | .table entries => .table true (entriesOfToml entries)
def itemsOfToml : List Toml.Value → List Tree
  | [] => []
  | item :: rest => ofToml item :: itemsOfToml rest
def entriesOfToml : List (String × Toml.Value) → Entries
  | [] => []
  | (key, value) :: rest => (key, ofToml value) :: entriesOfToml rest
end

def entries : Tree → Entries
  | .table _ entries => entries
  | _ => []

def get? (tree : Tree) (key : String) : Option Tree := tree.entries.lookup key

-- Changes the value of a key in its place. A new key starts from nothing and goes to
-- the end.
def change (key : String) (f : Tree → Tree) : Entries → Entries
  | [] => [(key, f .nothing)]
  | (name, old) :: rest =>
    if name = key then (name, f old) :: rest else (name, old) :: change key f rest

def asTable : Tree → Tree
  | .table asWritten entries => .table asWritten entries
  | _ => .empty

def changeKey (key : String) (f : Tree → Tree) (tree : Tree) : Tree :=
  match tree with
  | .table asWritten entries => .table asWritten (change key f entries)
  | _ => .table false (change key f [])

-- The later layer wins. Two tables are merged key by key, anything else is replaced.
mutual
def merge : Tree → Tree → Tree
  | .table _ entries, under => mergeEntries entries under.asTable
  | value, _ => value
def mergeEntries : Entries → Tree → Tree
  | [], under => under
  | (key, value) :: rest, under => mergeEntries rest (changeKey key (merge value) under)
end

-- A place in a list; a negative one counts from the end. The list is filled up with
-- nothing on the side where the place lies outside.
def changeIndex (index : Int) (f : Tree → Tree) (items : List Tree) : List Tree :=
  if 0 ≤ index then
    let place := index.toNat
    let filled := items ++ List.replicate (place + 1 - items.length) .nothing
    filled.modify place f
  else
    let back := (-index).toNat
    let filled := List.replicate (back - items.length) .nothing ++ items
    filled.modify (filled.length - back) f

end Tree

inductive KeyStep where
  | key (name : String)
  | index (index : Int)
  deriving DecidableEq

namespace Tree

-- Changes the value at a path, making the tables and lists that it goes through.
def changeAt (f : Tree → Tree) : List KeyStep → Tree → Tree
  | [], tree => f tree
  | .key name :: rest, tree => changeKey name (changeAt f rest) tree
  | .index index :: rest, tree =>
    match tree with
    | .list asWritten items => .list asWritten (changeIndex index (changeAt f rest) items)
    | _ => .list false (changeIndex index (changeAt f rest) [])

end Tree
end TrialBench.Settings
