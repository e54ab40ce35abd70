/-!
# Reading bytes as text

Bytes that are not UTF-8 are read with a replacement character for each longest run that could have
begun a character.
-/
namespace PolicyReach.Text.Utf8

/-- Where the reader stands between two bytes: at the start of a character, or inside one of which
`owed` bytes are missing and the next lies between `low` and `high`. -/
inductive State where
  | start
  | within (value owed low high : Nat)
  deriving DecidableEq

def replacement : Char := '\uFFFD'

/-- Reads a byte at the start of a character. -/
def lead (b : Nat) : List Char × State :=
  if b < 0x80 then ([Char.ofNat b], .start)
  else if 0xC2 ≤ b ∧ b ≤ 0xDF then ([], .within (b - 0xC0) 1 0x80 0xBF)
  else if b = 0xE0 then ([], .within 0 2 0xA0 0xBF)
  else if b = 0xED then ([], .within 0xD 2 0x80 0x9F)
  else if 0xE1 ≤ b ∧ b ≤ 0xEF then ([], .within (b - 0xE0) 2 0x80 0xBF)
  else if b = 0xF0 then ([], .within 0 3 0x90 0xBF)
  else if 0xF1 ≤ b ∧ b ≤ 0xF3 then ([], .within (b - 0xF0) 3 0x80 0xBF)
  else if b = 0xF4 then ([], .within 4 3 0x80 0x8F)
  else ([replacement], .start)

def step (state : State) (b : Nat) : List Char × State :=
  match state with
  | .start => lead b
  | .within value owed low high =>
    if low ≤ b ∧ b ≤ high then
      let value := value * 64 + (b - 0x80)
      if owed ≤ 1 then ([Char.ofNat value], .start) else ([], .within value (owed - 1) 0x80 0xBF)
    else
      let (chars, state) := lead b
      (replacement :: chars, state)

/-- What the reader still writes when the bytes end. -/
def finish : State → List Char
  | .start => []
  | .within .. => [replacement]

def decodeFrom (state : State) : List UInt8 → List Char
  | [] => finish state
  | b :: rest =>
    let (chars, state) := step state b.toNat
    chars ++ decodeFrom state rest

def decode (bytes : List UInt8) : String := String.ofList (decodeFrom .start bytes)

end PolicyReach.Text.Utf8
