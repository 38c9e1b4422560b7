import TrialBench.Number.Digits
namespace TrialBench.Toml

-- Control characters other than the tab stand in no string and no comment.
def isPrintable (c : Char) : Bool := c == '\t' || (32 ≤ c.toNat && c.toNat ≠ 127)

def isGap (c : Char) : Bool := c == ' ' || c == '\t'

-- A character given by its number, which may not be a surrogate.
def numbered? (digits : Nat) (text : List Char) : Option (Char × List Char) :=
  if text.length < digits then none
  else do
    let code ← Digits.read? 16 (text.take digits)
    if code.isValidChar then some (Char.ofNat code, text.drop digits) else none

def escape? : List Char → Option (Char × List Char)
  | 'b' :: rest => some ('\x08', rest)
  | 't' :: rest => some ('\t', rest)
  | 'n' :: rest => some ('\n', rest)
  | 'f' :: rest => some ('\x0c', rest)
  | 'r' :: rest => some ('\r', rest)
  | 'e' :: rest => some ('\x1b', rest)
  | '"' :: rest => some ('"', rest)
  | '\\' :: rest => some ('\\', rest)
  | 'x' :: rest => numbered? 2 rest
  | 'u' :: rest => numbered? 4 rest
  | 'U' :: rest => numbered? 8 rest
  | _ => none

abbrev Taken (α : Type) := α × List Char

def after (c : Char) : Option (Taken (List Char)) → Option (Taken (List Char)) :=
  Option.map fun (text, rest) => (c :: text, rest)

-- Up to the closing quote on the same line. Each step takes a character at least.
def basicLine? : Nat → List Char → Option (Taken (List Char))
  | 0, _ => none
  | _, [] => none
  | fuel + 1, c :: rest =>
    if c = '"' then some ([], rest)
    else if c = '\\' then do
      let (meant, rest) ← escape? rest
      after meant (basicLine? fuel rest)
    else if isPrintable c then after c (basicLine? fuel rest)
    else none

def literalLine? : List Char → Option (Taken (List Char))
  | [] => none
  | c :: rest =>
    if c = '\'' then some ([], rest)
    else if isPrintable c then after c (literalLine? rest)
    else none

def dropNewline : List Char → List Char
  | '\n' :: rest => rest
  | '\r' :: '\n' :: rest => rest
  | rest => rest

def isWhite (c : Char) : Bool := isGap c || c == '\n' || c == '\r'

-- A backslash at the end of a line joins it with the next text.
def endsLine (text : List Char) : Bool :=
  match text.dropWhile isGap with
  | '\n' :: _ => true
  | '\r' :: '\n' :: _ => true
  | _ => false

-- Three quotes close a block, and up to two more belong to its text.
def closing? (quote : Char) (text : List Char) : Option (Taken (List Char)) :=
  let run := (text.takeWhile (· = quote)).length
  if run < 3 then none
  else some (List.replicate (min run 5 - 3) quote, text.drop (min run 5))

def basicBlock? : Nat → List Char → Option (Taken (List Char))
  | 0, _ => none
  | _, [] => none
  | fuel + 1, c :: rest =>
    match closing? '"' (c :: rest) with
    | some closed => some closed
    | none =>
      if c = '\\' then
        if endsLine rest then basicBlock? fuel (rest.dropWhile isWhite)
        else do
          let (meant, rest) ← escape? rest
          after meant (basicBlock? fuel rest)
      else if isPrintable c ∨ c = '\n' ∨ (c = '\r' ∧ rest.head? = some '\n') then
        after c (basicBlock? fuel rest)
      else none

def literalBlock? : List Char → Option (Taken (List Char))
  | [] => none
  | c :: rest =>
    match closing? '\'' (c :: rest) with
    | some closed => some closed
    | none =>
      if isPrintable c ∨ c = '\n' ∨ (c = '\r' ∧ rest.head? = some '\n') then
        after c (literalBlock? rest)
      else none

def lineString? : List Char → Option (Taken String)
  | '"' :: rest => (basicLine? (rest.length + 1) rest).map fun (t, r) => (String.ofList t, r)
  | '\'' :: rest => (literalLine? rest).map fun (t, r) => (String.ofList t, r)
  | _ => none

-- A string of either kind. A line break right after the opening quotes is dropped.
def string? : List Char → Option (Taken String)
  | '"' :: '"' :: '"' :: rest =>
    let block := dropNewline rest
    (basicBlock? (block.length + 1) block).map fun (t, r) => (String.ofList t, r)
  | '\'' :: '\'' :: '\'' :: rest =>
    (literalBlock? (dropNewline rest)).map fun (t, r) => (String.ofList t, r)
  | text => lineString? text

end TrialBench.Toml
