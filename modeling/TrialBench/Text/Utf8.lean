namespace TrialBench.Text.Utf8

-- A character whose first bytes are read: the value so far, how many bytes are
-- owed, and the bounds of the next one.
structure Pending where
  code : Nat
  owed : Nat
  low : Nat
  high : Nat

inductive Start where
  | whole (code : Nat)
  | open (pending : Pending)
  | invalid

-- The bounds of the second byte keep out overlong forms, surrogates and what lies
-- past the last code point.
def start (byte : Nat) : Start :=
  if byte < 0x80 then .whole byte
  else if byte < 0xc2 then .invalid
  else if byte < 0xe0 then .open ⟨byte - 0xc0, 1, 0x80, 0xbf⟩
  else if byte < 0xf0 then
    .open ⟨byte - 0xe0, 2, if byte = 0xe0 then 0xa0 else 0x80, if byte = 0xed then 0x9f else 0xbf⟩
  else if byte < 0xf5 then
    .open ⟨byte - 0xf0, 3, if byte = 0xf0 then 0x90 else 0x80, if byte = 0xf4 then 0x8f else 0xbf⟩
  else .invalid

def replacement : Char := '\ufffd'

-- Every longest run of bytes that begins a character and does not complete it, and
-- every other stray byte, reads as one replacement character.
def decodeFrom (pending : Option Pending) : List UInt8 → List Char
  | [] => if pending.isSome then [replacement] else []
  | byte :: rest =>
    let fresh (broken : List Char) : List Char :=
      match start byte.toNat with
      | .whole code => broken ++ Char.ofNat code :: decodeFrom none rest
      | .open next => broken ++ decodeFrom (some next) rest
      | .invalid => broken ++ replacement :: decodeFrom none rest
    match pending with
    | none => fresh []
    | some p =>
      if p.low ≤ byte.toNat ∧ byte.toNat ≤ p.high then
        let code := p.code * 64 + (byte.toNat - 0x80)
        if p.owed = 1 then Char.ofNat code :: decodeFrom none rest
        else decodeFrom (some ⟨code, p.owed - 1, 0x80, 0xbf⟩) rest
      else fresh [replacement]

def decode (bytes : List UInt8) : String := String.ofList (decodeFrom none bytes)

end TrialBench.Text.Utf8
