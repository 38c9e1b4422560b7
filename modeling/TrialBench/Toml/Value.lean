import TrialBench.Number.Double
namespace TrialBench.Toml

-- A moment (a date, a time or both) is kept in its written form.
inductive Value where
  | text (text : String)
  | integer (value : Int)
  | real (value : Double)
  | boolean (value : Bool)
  | moment (text : String)
  | array (items : List Value)
  | table (entries : List (String × Value))

abbrev Table := List (String × Value)

end TrialBench.Toml
