import TrialBench.Toml.Value
namespace TrialBench.Toml

-- How a table came to be decides what may still be added to it: a path in a header
-- implies tables, a dotted key makes tables of its own, and a header opens one.
inductive TableOrigin where
  | implied
  | dotted
  | header
  deriving DecidableEq

-- A document while it is read. Finished values, tables in braces among them, are
-- closed.
inductive Draft where
  | value (value : Value)
  | table (origin : TableOrigin) (entries : List (String × Draft))
  | tables (items : List (List (String × Draft)))

abbrev Entries := List (String × Draft)

namespace Draft

def get? (entries : Entries) (key : String) : Option Draft := entries.lookup key

-- A key keeps its place, and a new one goes to the end.
def set : Entries → String → Draft → Entries
  | [], key, draft => [(key, draft)]
  | (name, old) :: rest, key, draft =>
    if name = key then (name, draft) :: rest else (name, old) :: set rest key draft

def remove (entries : Entries) (key : String) : Entries := entries.filter (·.1 ≠ key)

def onLast? (change : Entries → Option Entries) : List Entries → Option (List Entries)
  | [] => none
  | [last] => (change last).map ([·])
  | first :: rest => (onLast? change rest).map (first :: ·)

-- Changes the table at the end of a header's path. Missing tables are implied, and an
-- array of tables stands for its last one.
def within? (change : Entries → Option Entries) : List String → Entries → Option Entries
  | [], entries => change entries
  | key :: path, entries =>
    match get? entries key with
    | none => do return set entries key (.table .implied (← within? change path []))
    | some (.table origin inner) => do
      return set entries key (.table origin (← within? change path inner))
    | some (.tables items) => do
      return set entries key (.tables (← onLast? (within? change path) items))
    | some (.value _) => none

def insertNew? (key : String) (value : Value) (entries : Entries) : Option Entries :=
  match get? entries key with
  | none => some (entries ++ [(key, .value value)])
  | some _ => none

-- Sets a dotted key below a table. The table that takes the value has to come from
-- dotted keys itself, and no table on the way may have a header.
def assignBelow? (key : String) (value : Value) (path : List String) (dotted : Bool)
    (entries : Entries) : Option Entries :=
  match path with
  | [] => if dotted then insertNew? key value entries else none
  | name :: path =>
    match get? entries name with
    | none => do
      return set entries name (.table .dotted (← assignBelow? key value path true []))
    | some (.table origin inner) =>
      if origin = .header then none
      else do
        return set entries name
          (.table origin (← assignBelow? key value path (origin = .dotted) inner))
    | some (.tables items) => do
      return set entries name (.tables (← onLast? (assignBelow? key value path false) items))
    | some (.value _) => none

def assign? (path : List String) (key : String) (value : Value) (entries : Entries) :
    Option Entries :=
  if path.isEmpty then insertNew? key value entries
  else assignBelow? key value path false entries

mutual
def finish : Draft → Value
  | .value closed => closed
  | .table _ entries => .table (finishEntries entries)
  | .tables items => .array (finishItems items)
def finishEntries : List (String × Draft) → Table
  | [] => []
  | (key, draft) :: rest => (key, finish draft) :: finishEntries rest
def finishItems : List (List (String × Draft)) → List Value
  | [] => []
  | entries :: rest => .table (finishEntries entries) :: finishItems rest
end

end Draft

-- A key with the path before it, and the value it is given.
structure Assignment where
  path : List String
  key : String
  value : Value

namespace Draft

def assignAll? (entries : Entries) (assignments : List Assignment) : Option Entries :=
  assignments.foldlM (fun entries a => assign? a.path a.key a.value entries) entries

end Draft

-- The heading of a part of a document. A document's first part has none.
inductive Heading where
  | top
  | table (path : List String) (key : String)
  | item (path : List String) (key : String)

structure Section where
  heading : Heading
  assignments : List Assignment

namespace Draft

-- A header may open a table that was only implied so far, which then moves to the end
-- of the table it stands in.
def openTable? (key : String) (assignments : List Assignment) (entries : Entries) :
    Option Entries := do
  let start ← match get? entries key with
    | none => some []
    | some (.table .implied inner) => some inner
    | some _ => none
  return remove entries key ++ [(key, .table .header (← assignAll? start assignments))]

def addItem? (key : String) (assignments : List Assignment) (entries : Entries) :
    Option Entries := do
  let item ← assignAll? [] assignments
  match get? entries key with
  | none => some (entries ++ [(key, .tables [item])])
  | some (.tables items) => some (set entries key (.tables (items ++ [item])))
  | some _ => none

def addSection? (entries : Entries) (part : Section) : Option Entries :=
  match part.heading with
  | .top => assignAll? entries part.assignments
  | .table path key => within? (openTable? key part.assignments) path entries
  | .item path key => within? (addItem? key part.assignments) path entries

end Draft

def assemble? (sections : List Section) : Option Table :=
  (sections.foldlM Draft.addSection? []).map Draft.finishEntries

def assembleInline? (assignments : List Assignment) : Option Table :=
  (Draft.assignAll? [] assignments).map Draft.finishEntries

end TrialBench.Toml
