import PolicyReach.Address

/-!
# Networks

A network is an address and the number of its leading bits that count. Bits after those may be set;
they play no part in what the network contains.
-/
namespace PolicyReach

structure Network where
  base : Address
  length : Nat
  length_le : length ≤ base.family.width
  deriving DecidableEq

namespace Network

def hostBits (n : Network) : Nat := n.base.family.width - n.length

def contains (n : Network) (a : Address) : Bool :=
  n.base.family = a.family && a.value >>> n.hostBits = n.base.value >>> n.hostBits

/-- Whether every address of `m` is one of `n`. -/
def covers (n m : Network) : Bool := n.length ≤ m.length && n.contains m.base

/-- The same network with no bit set behind the leading ones. -/
def trunc (n : Network) : Network where
  base :=
    { family := n.base.family
      value := n.base.value >>> n.hostBits <<< n.hostBits
      inRange := by
        rw [Nat.shiftRight_eq_div_pow, Nat.shiftLeft_eq]
        exact Nat.lt_of_le_of_lt (Nat.div_mul_le_self ..) n.base.inRange }
  length := n.length
  length_le := n.length_le

/-- The network of a single address. -/
def single (a : Address) : Network := ⟨a, a.family.width, Nat.le_refl _⟩

def text (n : Network) : String := n.base.text ++ "/" ++ toString n.length

/-- The most digits in which the length of a family's networks is written. -/
def lengthDigits : Family → Nat
  | .v4 => 2
  | .v6 => 3

def ofLength? (base : Address) (digits : List Char) : Option Network := do
  let length ← Text.decimal? digits
  if digits.length ≤ lengthDigits base.family then
    if h : length ≤ base.family.width then some ⟨base, length, h⟩ else none
  else none

def parse? (s : String) : Option Network :=
  match Text.pieces '/' s.toList with
  | [address, digits] => do ofLength? (← Address.read? Address.lenient address) digits
  | _ => none

/-- Reads a block of addresses: a network, of which only the leading bits count, or one address. -/
def parseBlock? (s : String) : Option Network :=
  match parse? s with
  | some n => some n.trunc
  | none => (Address.parse? s).map single

end Network

/-- The addresses of a network, less those of the excepted networks. -/
structure NetworkMatch where
  net : Network
  except : List Network
  deriving DecidableEq

namespace NetworkMatch

def contains (m : NetworkMatch) (a : Address) : Bool :=
  m.net.contains a && !m.except.any (·.contains a)

def text (m : NetworkMatch) : String :=
  if m.except.isEmpty then m.net.text
  else m.net.text ++ " except " ++ String.intercalate "," (m.except.map (·.text))

end NetworkMatch

end PolicyReach
