import TrialBench.Settings.Tree
import TrialBench.Number.Digits
namespace TrialBench.Settings

-- The key of a file's top level may be a path: a name, then names after dots and
-- places in brackets.
namespace KeyPath

def isNameChar (c : Char) : Bool := c.isAlphanum || c == '_' || c == '-'

def name? (text : List Char) : Option (String × List Char) :=
  let (name, rest) := text.span isNameChar
  if name.isEmpty then none else some (String.ofList name, rest)

-- A place fits in 64 bits with a sign. Blanks may stand before it.
def index? (text : List Char) : Option (Int × List Char) :=
  let text := text.dropWhile fun c => c = ' ' ∨ c = '\t'
  let (negative, text) := match text with
    | '-' :: rest => (true, rest)
    | rest => (false, rest)
  let (digits, rest) := text.span Digits.isDecimal
  match Digits.read? 10 digits with
  | none => none
  | some n =>
    let index : Int := if negative then -n else n
    if Digits.fitsSigned index then some (index, rest) else none

-- Each step takes two characters at least.
def steps? : Nat → List Char → Option (List KeyStep)
  | _, [] => some []
  | 0, _ => none
  | fuel + 1, '.' :: rest => do
    let (name, rest) ← name? rest
    return .key name :: (← steps? fuel rest)
  | fuel + 1, '[' :: rest => do
    match ← index? rest with
    | (index, ']' :: rest) => return .index index :: (← steps? fuel rest)
    | _ => none
  | _ + 1, _ => none

def read? (text : String) : Option (List KeyStep) := do
  let (name, rest) ← name? text.toList
  return .key name :: (← steps? rest.length rest)

-- A key that is no path stands for itself.
def read (text : String) : List KeyStep := (read? text).getD [.key text]

end KeyPath

namespace Tree

def addEntry (tree : Tree) (entry : String × Tree) : Tree :=
  tree.changeAt (merge entry.2) (KeyPath.read entry.1)

def addLayer (tree : Tree) (layer : Entries) : Tree := layer.foldl addEntry tree

end Tree
end TrialBench.Settings
