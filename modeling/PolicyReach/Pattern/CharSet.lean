import PolicyReach.Pattern.Basic

/-!
# Sets of characters or bytes

A set is a list of ranges in ascending order that neither overlap nor touch. Bytes end at 255;
characters leave out the surrogates.
-/
namespace PolicyReach.Pattern

/-- What the members of a set are. -/
inductive Alphabet where
  | bytes
  | chars
  deriving DecidableEq

namespace Alphabet

def last : Alphabet → Nat
  | .bytes => 0xFF
  | .chars => 0x10FFFF

/-- Code points that are no members of the alphabet. -/
def gaps : Alphabet → List (Nat × Nat)
  | .bytes => []
  | .chars => [(0xD800, 0xDFFF)]

end Alphabet

namespace CharSet

def insertSorted (r : Nat × Nat) : List (Nat × Nat) → List (Nat × Nat)
  | [] => [r]
  | s :: rest => if r.1 ≤ s.1 then r :: s :: rest else s :: insertSorted r rest

/-- Joins ranges that overlap or touch; `r` is the one that is being extended. -/
def merge (r : Nat × Nat) : List (Nat × Nat) → List (Nat × Nat)
  | [] => [r]
  | s :: rest =>
    if s.1 ≤ r.2 + 1 then merge (r.1, max r.2 s.2) rest else r :: merge s rest

def normal (ranges : List (Nat × Nat)) : List (Nat × Nat) :=
  match ranges.foldr insertSorted [] with
  | [] => []
  | r :: rest => merge r rest

/-- What ascending ranges leave out from `low` to `last`. -/
def outside (last : Nat) : Nat → List (Nat × Nat) → List (Nat × Nat)
  | low, [] => if low ≤ last then [(low, last)] else []
  | low, r :: rest =>
    if low < r.1 then (low, r.1 - 1) :: outside last (r.2 + 1) rest else outside last (r.2 + 1) rest

def complement (a : Alphabet) (s : List (Nat × Nat)) : List (Nat × Nat) :=
  outside a.last 0 (normal (s ++ a.gaps))

def union (s t : List (Nat × Nat)) : List (Nat × Nat) := normal (s ++ t)

def inter (a : Alphabet) (s t : List (Nat × Nat)) : List (Nat × Nat) :=
  complement a (complement a s ++ complement a t)

def diff (a : Alphabet) (s t : List (Nat × Nat)) : List (Nat × Nat) :=
  complement a (complement a s ++ t)

def apply (a : Alphabet) (op : SetOperation) (s t : List (Nat × Nat)) : List (Nat × Nat) :=
  match op with
  | .intersection => inter a s t
  | .difference => diff a s t
  | .symmetricDifference => union (diff a s t) (diff a t s)

/-- The part of a range within bounds, moved. -/
def shifted (low high : Nat) (move : Nat → Nat) (r : Nat × Nat) : List (Nat × Nat) :=
  let first := max low r.1
  let last := min high r.2
  if first ≤ last then [(move first, move last)] else []

/-- Adds the other case of every ASCII letter. -/
def foldAscii (s : List (Nat × Nat)) : List (Nat × Nat) :=
  normal (s ++ s.flatMap (shifted 0x41 0x5A (· + 32)) ++ s.flatMap (shifted 0x61 0x7A (· - 32)))

end CharSet

end PolicyReach.Pattern
