import TrialBench.ErrorChain
import TrialBench.Number.Shortest
import TrialBench.Settings.Tree
import TrialBench.Text.Quoted
namespace TrialBench.Settings

-- A settings record: its name in messages and its fields, in the order in which a
-- list gives their values.
structure Record where
  name : String
  fields : List String

inductive Wanted where
  | text
  | path
  | boolean
  | duration
  | record (record : Record)

def Wanted.say : Wanted → String
  | .text => "a string"
  | .path => "a UTF-8 path string"
  | .boolean => "a boolean"
  | .duration => "a duration"
  | .record named => "struct " ++ named.name

inductive Found where
  | nothing
  | scalar (value : Scalar)
  | list
  | table

def Found.of : Tree → Found
  | .nothing => .nothing
  | .scalar value => .scalar value
  | .list _ _ => .list
  | .table _ _ => .table

def ticked (text : String) : String := "`" ++ text ++ "`"

def Found.say : Found → String
  | .nothing => "unit value"
  | .scalar (.text text) => "string " ++ Text.quote text
  | .scalar (.integer value) => "integer " ++ ticked (toString value)
  | .scalar (.real value) => "floating point " ++ ticked value.pointText
  | .scalar (.boolean value) => "boolean " ++ ticked (if value then "true" else "false")
  | .list => "sequence"
  | .table => "map"

inductive Mismatch where
  | kind (found : Found) (wanted : Wanted)
  -- The same for a single setting, where the message names it, and its file as well
  -- when one file wrote the value.
  | setting (found : Found) (wanted : Wanted) (asWritten : Bool)
  | content (text : String) (wanted : Wanted)
  | tooShort (length : Nat) (record : Record)
  | tooLong (length kept : Nat)
  | missing (field : String)

inductive PlaceStep where
  | key (name : String)
  | index (index : Nat)
  deriving DecidableEq

abbrev Place := List PlaceStep

def stepText : PlaceStep → String
  | .key name => "." ++ name
  | .index index => "[" ++ toString index ++ "]"

-- The first key has no dot before it.
def placeText : Place → String
  | [] => "."
  | .key name :: rest => name ++ String.join (rest.map stepText)
  | steps => String.join (steps.map stepText)

structure Refusal where
  place : Place
  mismatch : Mismatch

def elements (n : Nat) : String := toString n ++ if n = 1 then " element" else " elements"

def Refusal.reason (refusal : Refusal) (file : String) : String :=
  match refusal.mismatch with
  | .kind found wanted => "invalid type: " ++ found.say ++ ", expected " ++ wanted.say
  | .setting found wanted asWritten =>
    "invalid type: " ++ found.say ++ ", expected " ++ wanted.say ++ " for key "
      ++ ticked (placeText refusal.place) ++ (if asWritten then " in " ++ file else "")
  | .content text wanted => "invalid value: string " ++ Text.quote text ++ ", expected " ++ wanted.say
  | .tooShort length record =>
    "invalid length " ++ toString length ++ ", expected struct " ++ record.name ++ " with "
      ++ elements record.fields.length
  | .tooLong length kept =>
    "invalid length " ++ toString length ++ ", expected " ++ elements kept ++ " in sequence"
  | .missing field => "missing field " ++ ticked field

-- A refusal at the top has no place to name.
def Refusal.text (refusal : Refusal) (file : String) : String :=
  if refusal.place.isEmpty then refusal.reason file
  else placeText refusal.place ++ ": " ++ refusal.reason file

end TrialBench.Settings
