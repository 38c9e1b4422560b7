import TrialBench.Settings.Basic
namespace TrialBench.Settings

-- What a place in the settings may hold: a single value, a record of named parts, or
-- one where every other name is taken too.
inductive Schema where
  | value
  | record (fields : List (String × Schema))
  | profiles (base : Schema)

def reportSchema : Schema := .record [("path", .value), ("report-name", .value)]

def baseSchema : Schema :=
  .record [("message-timeout", .value), ("fail-fast", .value), ("junit", reportSchema)]

def schema : Schema :=
  .record [("store", .record [("dir", .value)]), ("profile", .profiles baseSchema)]

-- The keys that the schema does not know, in the order they are written; a table under
-- such a key is one key. The places in a list are numbered.
mutual
def unknownKeys (schema : Schema) (path : List String) : Tree → List (List String)
  | .table _ entries =>
    match schema with
    | .value => []
    | .record fields => unknownEntries fields path entries
    | .profiles base => unknownBase base path entries
  | .list _ items =>
    match schema with
    | .record fields => unknownItems fields 0 path items
    | _ => []
  | _ => []
def unknownEntries (fields : List (String × Schema)) (path : List String) :
    Entries → List (List String)
  | [] => []
  | (key, tree) :: rest =>
    (match fields.lookup key with
      | none => [path ++ [key]]
      | some sub => unknownKeys sub (path ++ [key]) tree) ++ unknownEntries fields path rest
def unknownBase (base : Schema) (path : List String) : Entries → List (List String)
  | [] => []
  | (key, tree) :: rest =>
    (if key = baseName then unknownKeys base (path ++ [key]) tree else []) ++
      unknownBase base path rest
def unknownItems (fields : List (String × Schema)) (index : Nat) (path : List String) :
    List Tree → List (List String)
  | [] => []
  | tree :: rest =>
    (match fields[index]? with
      | none => []
      | some (_, sub) => unknownKeys sub (path ++ [toString index]) tree) ++
      unknownItems fields (index + 1) path rest
end

def shownKey (path : List String) : String := String.intercalate "." path

end TrialBench.Settings
