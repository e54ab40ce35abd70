import PolicyReach.Pattern.Bracket
import PolicyReach.Text.Alphanumeric

/-!
# Reading a pattern

Groups are read one inside another; each step has consumed a character, so the length of the pattern
bounds the recursion.
-/
namespace PolicyReach.Pattern

/-! ### Flags -/

def flag? : Char → Option Flag
  | 'i' => some .caseInsensitive
  | 'm' => some .multiLine
  | 's' => some .dotMatchesNewline
  | 'U' => some .swapGreed
  | 'u' => some .unicode
  | 'R' => some .crlf
  | 'x' => some .ignoreBlanks
  | _ => none

/-- Adds an item to the flags before it, the latest of which is the first of the list. -/
def addFlag (items : List FlagItem) (item : FlagItem) : Except Fault (List FlagItem) :=
  match items.find? (·.flag = item.flag) with
  | none => .ok (item :: items)
  | some earlier =>
    .error ⟨if item.flag.isNone then .flagNegatedTwice else .flagTwice, item.extent,
      some earlier.extent⟩

/-- Reads flags up to a colon or a closing parenthesis. -/
def readFlags : Nat → List FlagItem → Cursor → Except Fault (List FlagItem × Cursor)
  | 0, _, c => fail .flagsCutOff c.here
  | fuel + 1, items, c =>
    match c.rest with
    | [] => fail .flagsCutOff c.here
    | x :: _ =>
      if x = ':' || x = ')' then
        match items with
        | ⟨extent, none⟩ :: _ => fail .flagDangling extent
        | _ => .ok (items.reverse, c)
      else do
        let flag ← if x = '-' then pure none
          else match flag? x with
            | some f => pure (some f)
            | none => fail .flagUnknown c.ahead
        readFlags fuel (← addFlag items ⟨c.ahead, flag⟩) c.next

/-! ### Groups -/

def isNameChar (first : Bool) (c : Char) : Bool :=
  c = '_' || (if first then Text.isAlphabetic c
    else ['.', '[', ']'].contains c || Text.isAlphanumeric c)

def passName (first : Bool) : Nat → Cursor → Except Fault Cursor
  | 0, c => .ok c
  | fuel + 1, c =>
    match c.rest with
    | [] | '>' :: _ => .ok c
    | x :: _ => if isNameChar first x then passName false fuel c.next
      else fail .groupNameInvalid c.ahead

/-- The names of groups with their places. -/
abbrev GroupNames := List (String × Extent)

def readName (names : GroupNames) (c : Cursor) : Except Fault (GroupNames × Cursor) := do
  let behind ← passName true c.rest.length c
  if behind.isAtEnd then fail .groupNameCutOff behind.here
  let name := String.ofList (c.rest.takeWhile (· ≠ '>'))
  if name.isEmpty then fail .groupNameEmpty c.here
  let extent := behind.since c.position
  match names.lookup name with
  | some earlier => .error ⟨.groupNameTwice, extent, some earlier⟩
  | none => return ((name, extent) :: names, behind.next)

/-- What a parenthesis opens: a group with flags of its own, or flags for what follows. -/
inductive Opening where
  | group (items : List FlagItem)
  | flags (items : List FlagItem)

def lookAroundLength? (c : Cursor) : Option Nat :=
  if c.startsWith "?=" || c.startsWith "?!" then some 2
  else if c.startsWith "?<=" || c.startsWith "?<!" then some 3
  else none

/-- Reads the beginning of a group; the cursor stands on the parenthesis. -/
def readOpeningParenthesis (verbose : Bool) (names : GroupNames) (c : Cursor) :
    Except Fault ((Opening × GroupNames) × Cursor) := do
  let inner := c.advance verbose
  if let some n := lookAroundLength? inner then
    fail .lookAround ((inner.skip n).since c.position)
  if inner.startsWith "?P<" || inner.startsWith "?<" then
    let (names, after) ← readName names (inner.skip (if inner.startsWith "?P" then 3 else 2))
    return ((.group [], names), after)
  if !inner.startsWith "?" then return ((.group [], names), inner)
  if inner.next.isAtEnd then fail .groupUnclosed c.ahead
  let (items, behind) ← readFlags inner.rest.length [] inner.next
  if behind.startsWith ":" then return ((.group items, names), behind.next)
  if items.isEmpty then fail .nothingToRepeat inner.here
  return ((.flags items, names), behind.next)

/-! ### Repetitions -/

def isRepeatable : Pattern → Bool
  | .empty _ | .flags .. => false
  | _ => true

/-- Takes the part to repeat off those read so far, the latest of which is the first. -/
def takeRepeated (parts : List Pattern) (c : Cursor) : Except Fault (Pattern × List Pattern) :=
  match parts with
  | p :: rest => if isRepeatable p then .ok (p, rest) else fail .nothingToRepeat c.here
  | [] => fail .nothingToRepeat c.here

/-- Reads a row of digits, between which a verbose pattern may have blanks. -/
def readDigits (verbose : Bool) : Nat → List Char → Cursor → List Char × Cursor
  | 0, ds, c => (ds.reverse, c)
  | fuel + 1, ds, c =>
    match c.rest with
    | d :: _ =>
      if Text.isAsciiDigit d then readDigits verbose fuel (d :: ds) (c.advance verbose)
      else (ds.reverse, c)
    | [] => (ds.reverse, c)

def passSpaces (verbose : Bool) : Nat → Cursor → Cursor
  | 0, c => c
  | fuel + 1, c =>
    if c.rest.head?.any Text.isBlank then passSpaces verbose fuel (c.advance verbose) else c

/-- Reads how often a part is to occur, if a number of 32 bits says so, with the place behind it. -/
def readCount (verbose : Bool) (c : Cursor) : Except Fault Nat × Cursor :=
  let size := c.rest.length
  let first := passSpaces false size c
  let (ds, behind) := readDigits verbose size [] first
  let after := passSpaces verbose size behind
  let extent := behind.since first.position
  let count :=
    match Text.decimal? ds with
    | none => fail .countMissing extent
    | some n => if n < UInt32.size then .ok n else fail .decimalInvalid extent
  (count, after)

/-- The least and the greatest number of occurrences, as far as they are bounded. -/
def readCounts (verbose : Bool) (start : Position) (c : Cursor) :
    Except Fault ((Nat × Option Nat) × Cursor) := do
  let (least, c) := readCount verbose c
  if c.isAtEnd then fail .countUnclosed (c.since start)
  let (counts, c) ←
    if c.startsWith "," then
      let c := c.advance verbose
      if c.isAtEnd then fail .countUnclosed (c.since start)
      let low ← least
      if c.startsWith "\x7d" then pure ((low, none), c)
      else
        let (greatest, c) := readCount verbose c
        pure ((low, some (← greatest)), c)
    else
      let n ← least
      pure ((n, some n), c)
  if !c.startsWith "\x7d" then fail .countUnclosed (c.since start)
  return (counts, c)

/-- Reads a repetition in braces, of which the cursor stands on the first. -/
def readCounted (verbose : Bool) (parts : List Pattern) (c : Cursor) :
    Except Fault (List Pattern × Cursor) := do
  let start := c.position
  let (part, rest) ← takeRepeated parts c
  let inner := c.advance verbose
  if inner.isAtEnd then fail .countUnclosed (inner.since start)
  let ((low, high), behind) ← readCounts verbose start inner
  let after := behind.advance verbose
  let after := if after.startsWith "?" then after.next else after
  if high.any (· < low) then fail .countRange (after.since start)
  return (.repetition (after.since part.extent.start) (high = some 0) part :: rest, after)

def readRepeated (parts : List Pattern) (c : Cursor) : Except Fault (List Pattern × Cursor) := do
  let (part, rest) ← takeRepeated parts c
  let after := if c.next.startsWith "?" then c.next.next else c.next
  return (.repetition (after.since part.extent.start) false part :: rest, after)

/-! ### Whole patterns -/

/-- What has been read of a group or of the whole pattern: the branches that are complete and the
parts of the last one, in reverse. -/
structure Draft where
  begun : Position
  branches : List Pattern
  start : Position
  parts : List Pattern

namespace Draft

def blank (p : Position) : Draft := ⟨p, [], p, []⟩

/-- The last branch, which ends at the cursor. -/
def branch (d : Draft) (c : Cursor) : Pattern :=
  match d.parts with
  | [] => .empty (c.since d.start)
  | [part] => part
  | parts => .concat (c.since d.start) parts.reverse

/-- Ends a branch at a bar. -/
def split (d : Draft) (c : Cursor) : Draft :=
  { d with branches := d.branch c :: d.branches, start := c.next.position, parts := [] }

def finish (d : Draft) (c : Cursor) : Pattern :=
  if d.branches.isEmpty then d.branch c
  else .alternation (c.since d.begun) (d.branch c :: d.branches).reverse

def add (d : Draft) (p : Pattern) : Draft := { d with parts := p :: d.parts }

end Draft

/-- A part that is neither a group nor a class nor an operator. -/
def readSimple (verbose : Bool) (x : Char) (c : Cursor) : Except Fault (Pattern × Cursor) :=
  match x with
  | '\\' => readEscape verbose c
  | '.' => .ok (.dot c.ahead, c.next)
  | '^' | '$' => .ok (.assertion c.ahead false, c.next)
  | x => .ok (.literal ⟨c.ahead, x, false⟩, c.next)

/-- A class that stands for itself. -/
def ofClass : ClassSet → Pattern
  | .bracketed e negated body => .bracketed e negated body
  | set => .empty set.extent

def isVerbose (verbose : Bool) (items : List FlagItem) : Bool :=
  (flagState .ignoreBlanks false items).getD verbose

/-- Reads up to the parenthesis that closes the group, or to the end if none is open. -/
def readParts (opened : Option Extent) :
    Nat → Bool → GroupNames → Draft → Cursor → Except Fault ((Pattern × GroupNames) × Cursor)
  | 0, _, names, d, c => .ok ((d.finish c, names), c)
  | fuel + 1, verbose, names, d, c =>
    let c := c.settle verbose
    match c.rest with
    | [] =>
      match opened with
      | some extent => fail .groupUnclosed extent
      | none => .ok ((d.finish c, names), c)
    | ')' :: _ =>
      if opened.isSome then .ok ((d.finish c, names), c) else fail .groupUnopened c.ahead
    | '(' :: _ => do
      let ((opening, names), inner) ← readOpeningParenthesis verbose names c
      match opening with
      | .flags items =>
        let d := d.add (.flags (inner.since c.position) items)
        readParts opened fuel (isVerbose verbose items) names d inner
      | .group items =>
        let ((body, names), behind) ← readParts (some c.ahead) fuel (isVerbose verbose items) names
          (.blank inner.position) inner
        let after := behind.next
        readParts opened fuel verbose names
          (d.add (.group (after.since c.position) items body)) after
    | '|' :: _ => readParts opened fuel verbose names (d.split c) c.next
    | '[' :: rest => do
      let (set, after) ← readBracketed verbose (2 * rest.length + 2) c
      readParts opened fuel verbose names (d.add (ofClass set)) after
    | '\x7b' :: _ => do
      let (parts, after) ← readCounted verbose d.parts c
      readParts opened fuel verbose names { d with parts } after
    | x :: _ =>
      if x = '?' || x = '*' || x = '+' then do
        let (parts, after) ← readRepeated d.parts c
        readParts opened fuel verbose names { d with parts } after
      else do
        let (part, after) ← readSimple verbose x c
        readParts opened fuel verbose names (d.add part) after

/-! ### Depth -/

mutual

/-- The first part of a class that stands too deep, if the class has so many levels above it. -/
def ClassSet.tooDeep? (depth : Nat) : ClassSet → Option Extent
  | .bracketed e _ body =>
    if nestLimit ≤ depth then some e else body.tooDeep? (depth + 1)
  | .union e items =>
    if nestLimit ≤ depth then some e else ClassSet.anyTooDeep? (depth + 1) items
  | .operation e _ left right =>
    if nestLimit ≤ depth then some e
    else (left.tooDeep? (depth + 1)).or (right.tooDeep? (depth + 1))
  | _ => none

def ClassSet.anyTooDeep? (depth : Nat) : List ClassSet → Option Extent
  | [] => none
  | s :: rest => (s.tooDeep? depth).or (ClassSet.anyTooDeep? depth rest)

end

mutual

/-- The first part that stands too deep. -/
def tooDeep? (depth : Nat) : Pattern → Option Extent
  | .bracketed e _ body => if nestLimit ≤ depth then some e else body.tooDeep? (depth + 1)
  | .repetition e _ body | .group e _ body =>
    if nestLimit ≤ depth then some e else tooDeep? (depth + 1) body
  | .alternation e parts | .concat e parts =>
    if nestLimit ≤ depth then some e else anyTooDeep? (depth + 1) parts
  | _ => none

def anyTooDeep? (depth : Nat) : List Pattern → Option Extent
  | [] => none
  | p :: rest => (tooDeep? depth p).or (anyTooDeep? depth rest)

end

/-- Reads a whole pattern. -/
def read (s : List Char) : Except Fault Pattern := do
  let ((p, _), _) ← readParts none (s.length + 1) false [] (.blank .first) (.ofText s)
  match tooDeep? 0 p with
  | some extent => fail .nestedTooDeep extent
  | none => return p

end PolicyReach.Pattern
