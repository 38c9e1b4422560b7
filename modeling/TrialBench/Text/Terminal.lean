namespace TrialBench.Text.Terminal

-- Where a terminal stands while it reads: in plain text, after an escape character, in
-- a command, in the head or the data of a device string, in a title, or in a string
-- that nobody reads.
inductive Mode where
  | plain
  | escape
  | escapeTail
  | command
  | deviceStart
  | deviceParams
  | deviceTail
  | deviceData
  | title
  | unread
  deriving DecidableEq

def isControl (code : Nat) : Bool := code < 0x20 || (0x80 ≤ code && code < 0xa0)

def isAbort (code : Nat) : Bool := code == 0x18 || code == 0x1a

def between (low high code : Nat) : Bool := low ≤ code && code ≤ high

-- A line break acts inside an escape sequence as it does in plain text; other controls
-- print nothing there.
def act (c : Char) : List Char := if c = '\n' then ['\n'] else []

def laterBytes (code : Nat) : List Nat :=
  let low := 0x80 + code % 64
  let middle := 0x80 + code / 64 % 64
  let high := 0x80 + code / 4096 % 64
  if code < 0x80 then [] else if code < 0x800 then [low]
  else if code < 0x10000 then [middle, low] else [high, middle, low]

-- A device string ends at the byte 9c, even inside a character. The bytes that are
-- then left of that character are no text: the low ones are controls and the others
-- each print a replacement.
def leftOver (bytes : List Nat) : Option (List Char) :=
  match bytes.dropWhile (· ≠ 0x9c) with
  | [] => none
  | _ :: rest => some ((rest.filter (0x9f < ·)).map fun _ => '\ufffd')

-- Leaving the current mode: two characters abort it, one begins a new sequence, and
-- the rest is passed over.
def elsewhere (mode : Mode) (code : Nat) : Mode :=
  if isAbort code then .plain else if code = 0x1b then .escape else mode

def afterEscape (code : Nat) : Mode :=
  if between 0x20 0x2f code then .escapeTail
  else if code = 0x50 then .deviceStart
  else if code = 0x58 ∨ code = 0x5e ∨ code = 0x5f then .unread
  else if code = 0x5b then .command
  else if code = 0x5d then .title
  else if between 0x30 0x7e code then .plain
  else elsewhere .escape code

def step (mode : Mode) (c : Char) : Mode × List Char :=
  let code := c.toNat
  match mode with
  | .plain =>
    if code = 0x1b then (.escape, [])
    else if isControl code then (.plain, act c)
    else (.plain, [c])
  | .escape => (afterEscape code, act c)
  | .escapeTail => (if between 0x30 0x7e code then .plain else elsewhere mode code, act c)
  | .command => (if between 0x40 0x7e code then .plain else elsewhere mode code, act c)
  | .deviceStart =>
    (if between 0x40 0x7e code then .deviceData
      else if between 0x20 0x2f code then .deviceTail
      else if between 0x30 0x3f code then .deviceParams
      else elsewhere mode code, [])
  | .deviceParams =>
    (if between 0x40 0x7e code then .deviceData
      else if between 0x20 0x2f code then .deviceTail
      else if between 0x3c 0x3f code then .unread
      else elsewhere mode code, [])
  | .deviceTail =>
    (if between 0x40 0x7e code then .deviceData
      else if between 0x30 0x3f code then .unread
      else elsewhere mode code, [])
  | .deviceData =>
    match leftOver (laterBytes code) with
    | some printed => (.plain, printed)
    | none => (elsewhere mode code, [])
  | .title => (if code = 0x07 then .plain else elsewhere mode code, [])
  | .unread => (elsewhere mode code, [])

def run (mode : Mode) : List Char → List Char
  | [] => []
  | c :: rest => (step mode c).2 ++ run (step mode c).1 rest

-- A text as a terminal would print it, with line breaks as its only controls.
def strip (text : String) : String := String.ofList (run .plain text.toList)

end TrialBench.Text.Terminal
