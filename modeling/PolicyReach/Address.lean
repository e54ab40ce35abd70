import PolicyReach.Text.Pieces

/-!
# Network addresses

An address is a number of 32 or 128 bits. Reading takes a grammar, because addresses and networks
are written by slightly different rules.
-/
namespace PolicyReach

inductive Family where
  | v4
  | v6
  deriving DecidableEq

def Family.width : Family → Nat
  | .v4 => 32
  | .v6 => 128

structure Address where
  family : Family
  value : Nat
  inRange : value < 1 <<< family.width
  deriving DecidableEq

namespace Address

/-- An address of the family, if the number is small enough. -/
def ofNat? (family : Family) (value : Nat) : Option Address :=
  if h : value < 1 <<< family.width then some ⟨family, value, h⟩ else none

/-! ### Writing -/

/-- The lowest `count` digits of a number, the highest of them first. -/
def parts (base : Nat) : Nat → Nat → List Nat
  | 0, _ => []
  | count + 1, v => parts base count (v / base) ++ [v % base]

def ofParts (base : Nat) (ps : List Nat) : Nat := ps.foldl (fun v p => v * base + p) 0

def hexText (n : Nat) : String := String.ofList (Nat.toDigits 16 n)

def dotted (v : Nat) : String :=
  String.intercalate "." ((parts 256 4 v).map toString)

def groupsText (groups : List Nat) : String :=
  String.intercalate ":" (groups.map hexText)

def leadingZeros (groups : List Nat) : Nat := (groups.takeWhile (· == 0)).length

/-- Start and length of the longest run of zero groups, the first of several. -/
def longestZeros (groups : List Nat) : Nat × Nat :=
  (List.range groups.length).foldl
    (fun best i =>
      let n := leadingZeros (groups.drop i)
      if best.2 < n then (i, n) else best)
    (0, 0)

/-- Written as an address of the older family inside the newer one. -/
def isMapped (groups : List Nat) : Bool := groups.take 6 == [0, 0, 0, 0, 0, 0xFFFF]

def colons (v : Nat) : String :=
  let groups := parts 0x10000 8 v
  if isMapped groups then "::ffff:" ++ dotted v
  else
    let (start, length) := longestZeros groups
    if 2 ≤ length then
      groupsText (groups.take start) ++ "::" ++ groupsText (groups.drop (start + length))
    else groupsText groups

def text (a : Address) : String :=
  match a.family with
  | .v4 => dotted a.value
  | .v6 => colons a.value

/-! ### Reading -/

structure Grammar where
  /-- Decimal octets may begin with zeros. -/
  leadingZeros : Bool
  /-- A double colon may stand for no group at all. -/
  emptyGap : Bool

/-- How an address by itself is written. -/
def strict : Grammar := ⟨false, false⟩

/-- How the address of a network is written. -/
def lenient : Grammar := ⟨true, true⟩

def octet? (g : Grammar) (cs : List Char) : Option Nat := do
  let n ← Text.decimal? cs
  if cs.length ≤ 3 && n < 256 && (g.leadingZeros || cs.length = 1 || cs.head? ≠ some '0') then
    some n
  else none

def octets? (g : Grammar) (cs : List Char) : Option (List Nat) :=
  match Text.pieces '.' cs with
  | [a, b, c, d] => [a, b, c, d].mapM (octet? g)
  | _ => none

def group? (cs : List Char) : Option Nat :=
  if cs.length ≤ 4 then Text.hex? cs else none

/-- Groups separated by colons; the last two may be written as four octets. -/
def groups? (g : Grammar) : List (List Char) → Option (List Nat)
  | [] => some []
  | [p] =>
    match octets? g p with
    | some [a, b, c, d] => some [a * 256 + b, c * 256 + d]
    | _ => (group? p).map ([·])
  | p :: rest => do
    let group ← group? p
    let groups ← groups? g rest
    return group :: groups

/-- The texts before and after the first double colon. -/
def cutGap : List Char → Option (List Char × List Char)
  | [] => none
  | ':' :: ':' :: rest => some ([], rest)
  | c :: rest => (cutGap rest).map fun cut => (c :: cut.1, cut.2)

/-- The groups on one side of a double colon, where nothing may stand. -/
def sideOfGap? (g : Grammar) (cs : List Char) : Option (List Nat) :=
  if cs.isEmpty then some [] else groups? g (Text.pieces ':' cs)

/-- Octets may end the groups of an address, but not those before a double colon. -/
def headOfGap? (g : Grammar) (cs : List Char) : Option (List Nat) :=
  if cs.contains '.' then none else sideOfGap? g cs

def allGroups? (g : Grammar) (cs : List Char) : Option (List Nat) :=
  match cutGap cs with
  | none => do
    let groups ← groups? g (Text.pieces ':' cs)
    if groups.length = 8 then some groups else none
  | some (before, after) => do
    let head ← headOfGap? g before
    let tail ← sideOfGap? g after
    let room := if g.emptyGap then 8 else 7
    if head.length < 8 && head.length + tail.length ≤ room then
      some (head ++ List.replicate (8 - (head.length + tail.length)) 0 ++ tail)
    else none

def read4? (g : Grammar) (cs : List Char) : Option Address := do
  ofNat? .v4 (ofParts 256 (← octets? g cs))

def read6? (g : Grammar) (cs : List Char) : Option Address := do
  ofNat? .v6 (ofParts 0x10000 (← allGroups? g cs))

def read? (g : Grammar) (cs : List Char) : Option Address := (read4? g cs).or (read6? g cs)

def parse? (s : String) : Option Address := read? strict s.toList

end Address

end PolicyReach
