import PolicyReach.Pattern.Escape

/-!
# Classes in square brackets
-/
namespace PolicyReach.Pattern

/-- The items of a class so far, the latest first. -/
structure Gathered where
  extent : Extent
  items : List ClassSet

namespace Gathered

def none (p : Position) : Gathered := ⟨.point p, []⟩

def add (g : Gathered) (item : ClassSet) : Gathered :=
  ⟨⟨if g.items.isEmpty then item.extent.start else g.extent.start, item.extent.stop⟩,
    item :: g.items⟩

def finish (g : Gathered) : ClassSet :=
  match g.items with
  | [] => .empty g.extent
  | [item] => item
  | items => .union g.extent items.reverse

end Gathered

/-- The left operand of an operation whose right one is still to come. -/
abbrev Pending := Option (SetOperation × ClassSet)

def Pending.apply (left : Pending) (right : ClassSet) : ClassSet :=
  match left with
  | none => right
  | some (op, l) => .operation ⟨l.extent.start, right.extent.stop⟩ op l right

/-! ### Items -/

/-- Reads a class with a name between colons, if there is one. -/
def readNamed? (c : Cursor) : Option (ClassSet × Cursor) :=
  if !c.startsWith "[:" then none
  else
    let inner := c.skip 2
    let negated := inner.startsWith "^"
    let inner := if negated then inner.next else inner
    let name := inner.rest.takeWhile (· ≠ ':')
    let behind := inner.skip name.length
    if behind.startsWith ":]" then
      let after := behind.skip 2
      (NamedClass.ofName? (String.ofList name)).map fun n =>
        (.named (after.since c.position) negated n, after)
    else none

/-- Reads a character or an escape. -/
def readMember (verbose : Bool) (c : Cursor) : Except Fault (Pattern × Cursor) :=
  match c.rest with
  | '\\' :: _ => readEscape verbose c
  | x :: _ => .ok (.literal ⟨c.ahead, x, false⟩, c.next)
  | [] => .ok (.empty c.here, c)

def asItem : Pattern → Except Fault ClassSet
  | .literal l => .ok (.literal l)
  | .shorthand e negated kind => .ok (.shorthand e negated kind)
  | .property e => .ok (.property e)
  | p => fail .classEscape p.extent

def asBound : Pattern → Except Fault Literal
  | .literal l => .ok l
  | p => fail .classRangeBound p.extent

/-- Reads an item or a range; a minus sign before a bracket or another one is no range. -/
def readItem (verbose : Bool) (opened : Extent) (c : Cursor) :
    Except Fault (ClassSet × Cursor) := do
  let (low, behind) ← readMember verbose c
  let c := behind.settle verbose
  if c.isAtEnd then fail .classUnclosed opened
  let following := c.peek verbose
  if !c.startsWith "-" || following = some ']' || following = some '-' then
    return (← asItem low, c)
  let c := c.advance verbose
  if c.isAtEnd then fail .classUnclosed opened
  let (high, c) ← readMember verbose c
  let extent : Extent := ⟨low.extent.start, high.extent.stop⟩
  let low ← asBound low
  let high ← asBound high
  if high.char < low.char then fail .classRange extent
  return (.range extent low high, c)

/-- Minus signs at the beginning of a class stand for themselves. -/
def readDashes (verbose : Bool) (start : Position) :
    Nat → Gathered → Cursor → Except Fault (Gathered × Cursor)
  | 0, g, c => .ok (g, c)
  | fuel + 1, g, c =>
    if c.startsWith "-" then
      let g := g.add (.literal ⟨c.ahead, '-', false⟩)
      let c := c.advance verbose
      if c.isAtEnd then fail .classUnclosed (.point start) else readDashes verbose start fuel g c
    else .ok (g, c)

/-- Reads the beginning of a class: whether it is negated, the characters that would have a meaning
later, and the extent of all that. -/
def readOpening (verbose : Bool) (c : Cursor) :
    Except Fault ((Bool × Extent × Gathered) × Cursor) := do
  let start := c.position
  let c := c.advance verbose
  if c.isAtEnd then fail .classUnclosed (c.since start)
  let negated := c.startsWith "^"
  let c := if negated then c.advance verbose else c
  if c.isAtEnd then fail .classUnclosed (c.since start)
  let (g, c) ← readDashes verbose start c.rest.length (.none c.position) c
  if g.items.isEmpty && c.startsWith "]" then
    let g := g.add (.literal ⟨c.ahead, ']', false⟩)
    let c := c.advance verbose
    if c.isAtEnd then fail .classUnclosed (c.since start)
    return ((negated, c.since start, g), c)
  return ((negated, c.since start, g), c)

def setOperation? (c : Cursor) : Option SetOperation :=
  if c.startsWith "&&" then some .intersection
  else if c.startsWith "--" then some .difference
  else if c.startsWith "~~" then some .symmetricDifference
  else none

/-! ### Whole classes -/

mutual

/-- Reads a class; the cursor stands on its bracket. -/
def readBracketed (verbose : Bool) : Nat → Cursor → Except Fault (ClassSet × Cursor)
  | 0, c => fail .classUnclosed c.here
  | fuel + 1, c => do
    let ((negated, opened, g), inner) ← readOpening verbose c
    let (body, behind) ← readBody verbose opened fuel none g inner
    return (.bracketed (behind.next.since c.position) negated body, behind.next)

/-- Reads up to the closing bracket. -/
def readBody (verbose : Bool) (opened : Extent) :
    Nat → Pending → Gathered → Cursor → Except Fault (ClassSet × Cursor)
  | 0, _, _, _ => fail .classUnclosed opened
  | fuel + 1, left, g, c =>
    let c := c.settle verbose
    match c.rest with
    | [] => fail .classUnclosed opened
    | ']' :: _ => .ok (left.apply g.finish, c)
    | '[' :: _ =>
      match readNamed? c with
      | some (item, c) => readBody verbose opened fuel left (g.add item) c
      | none => do
        let (item, c) ← readBracketed verbose fuel c
        readBody verbose opened fuel left (g.add item) c
    | _ =>
      match setOperation? c with
      | some op =>
        let c := c.skip 2
        readBody verbose opened fuel (some (op, left.apply g.finish)) (.none c.position) c
      | none => do
        let (item, c) ← readItem verbose opened c
        readBody verbose opened fuel left (g.add item) c

end

end PolicyReach.Pattern
