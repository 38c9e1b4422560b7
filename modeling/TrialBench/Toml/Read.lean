import TrialBench.Toml.Draft
import TrialBench.Toml.Moment
import TrialBench.Toml.Number
import TrialBench.Toml.Quoted
namespace TrialBench.Toml

def skipVoid? : Bool → List Char → Option (List Char)
  | _, [] => some []
  | _, '\n' :: rest => skipVoid? false rest
  | _, '\r' :: '\n' :: rest => skipVoid? false rest
  | true, c :: rest => if isPrintable c then skipVoid? true rest else none
  | false, c :: rest =>
    if isGap c then skipVoid? false rest
    else if c = '#' then skipVoid? true rest
    else some (c :: rest)

def skipGap (text : List Char) : List Char := text.dropWhile isGap

def isBare (c : Char) : Bool := c.isAlphanum || c == '_' || c == '-'

def simpleKey? (text : List Char) : Option (Taken String) :=
  match text with
  | '"' :: _ | '\'' :: _ => lineString? text
  | _ =>
    let (name, rest) := text.span isBare
    if name.isEmpty then none else some (String.ofList name, rest)

def dottedKey? : Nat → List Char → Option (Taken (List String))
  | 0, _ => none
  | fuel + 1, text => do
    let (key, rest) ← simpleKey? (skipGap text)
    match skipGap rest with
    | '.' :: rest =>
      let (keys, rest) ← dottedKey? fuel rest
      return (key :: keys, rest)
    | rest => return ([key], rest)

def key? (text : List Char) : Option (Taken (List String × String)) := do
  let (keys, rest) ← dottedKey? (text.length + 1) text
  return ((keys.dropLast, keys.getLast?.getD ""), rest)

def endsAtom (c : Char) : Bool := isWhite c || c ∈ [',', ']', '\x7d', '#']

def atomValue? (text : List Char) : Option Value :=
  if text = ['t', 'r', 'u', 'e'] then some (.boolean true)
  else if text = ['f', 'a', 'l', 's', 'e'] then some (.boolean false)
  else ((integer? text).map Value.integer <|> (real? text).map Value.real) <|>
    (moment? text).map Value.moment

-- A date may be parted from its time by one space.
def atom? (text : List Char) : Option (Taken Value) :=
  let (atom, rest) := text.span (¬ endsAtom ·)
  match (date? atom).map (·.2), rest with
  | some [], ' ' :: c :: more =>
    if Digits.isDecimal c then
      let (time, rest) := (c :: more).span (¬ endsAtom ·)
      (atomValue? (atom ++ ' ' :: time)).map (·, rest)
    else (atomValue? atom).map (·, rest)
  | _, _ => (atomValue? atom).map (·, rest)

-- Values nest this deep and no deeper.
def deepest : Nat := 80

-- Each call takes a character or hands a shorter text on, so the length of the text
-- bounds them; room is what is left of the depth.
mutual
def value? : Nat → Nat → List Char → Option (Taken Value)
  | 0, _, _ => none
  | fuel + 1, room, text =>
    match text with
    | '"' :: _ | '\'' :: _ => (string? text).map fun (t, rest) => (.text t, rest)
    | '[' :: rest =>
      if room = 0 then none
      else do
        let (items, rest) ← items? fuel (room - 1) rest
        return (.array items, rest)
    | '\x7b' :: rest =>
      if room = 0 then none
      else do
        let (assignments, rest) ← fields? fuel (room - 1) rest
        return (.table (← assembleInline? assignments), rest)
    | _ => atom? text
def items? : Nat → Nat → List Char → Option (Taken (List Value))
  | 0, _, _ => none
  | fuel + 1, room, text => do
    match ← skipVoid? false text with
    | ']' :: rest => return ([], rest)
    | start =>
      let (item, rest) ← value? fuel room start
      match ← skipVoid? false rest with
      | ']' :: rest => return ([item], rest)
      | ',' :: rest =>
        let (items, rest) ← items? fuel room rest
        return (item :: items, rest)
      | _ => none
def fields? : Nat → Nat → List Char → Option (Taken (List Assignment))
  | 0, _, _ => none
  | fuel + 1, room, text => do
    match ← skipVoid? false text with
    | '\x7d' :: rest => return ([], rest)
    | start =>
      let (field, rest) ← assignment? fuel room start
      match ← skipVoid? false rest with
      | '\x7d' :: rest => return ([field], rest)
      | ',' :: rest =>
        let (fields, rest) ← fields? fuel room rest
        return (field :: fields, rest)
      | _ => none
def assignment? : Nat → Nat → List Char → Option (Taken Assignment)
  | 0, _, _ => none
  | fuel + 1, room, text => do
    let ((path, key), rest) ← key? text
    match rest with
    | '=' :: rest =>
      let (value, rest) ← value? fuel room (skipGap rest)
      return (⟨path, key, value⟩, rest)
    | _ => none
end

def heading? : List Char → Option (Taken Heading)
  | '[' :: '[' :: rest => do
    let ((path, key), rest) ← key? rest
    match rest with
    | ']' :: ']' :: rest => return (.item path key, rest)
    | _ => none
  | '[' :: rest => do
    let ((path, key), rest) ← key? rest
    match rest with
    | ']' :: rest => return (.table path key, rest)
    | _ => none
  | _ => none

-- Nothing but a comment may follow on the line.
def lineEnds (text : List Char) : Bool :=
  match skipGap text with
  | [] => true
  | '#' :: _ => true
  | '\n' :: _ => true
  | '\r' :: '\n' :: _ => true
  | _ => false

inductive Line where
  | heading (heading : Heading)
  | assignment (assignment : Assignment)

def line? (fuel : Nat) (text : List Char) : Option (Taken Line) := do
  let (line, rest) ← match text with
    | '[' :: _ => (heading? text).map fun (h, rest) => (Line.heading h, rest)
    | _ => (assignment? fuel deepest text).map fun (a, rest) => (Line.assignment a, rest)
  if lineEnds rest then return (line, rest) else none

def lines? : Nat → List Char → Option (List Line)
  | 0, _ => none
  | fuel + 1, text => do
    match ← skipVoid? false text with
    | [] => some []
    | start =>
      let (line, rest) ← line? (start.length * 2 + 2) start
      return line :: (← lines? fuel rest)

-- Each heading takes the assignments up to the next one.
def sections (heading : Heading) (assignments : List Assignment) : List Line → List Section
  | [] => [⟨heading, assignments.reverse⟩]
  | .heading next :: rest => ⟨heading, assignments.reverse⟩ :: sections next [] rest
  | .assignment a :: rest => sections heading (a :: assignments) rest

def read? (text : String) : Option Table := do
  let lines ← lines? (text.length + 1) text.toList
  assemble? (sections .top [] lines)

end TrialBench.Toml
