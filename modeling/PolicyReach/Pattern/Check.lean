import PolicyReach.Pattern.CharSet
import PolicyReach.Pattern.Read

/-!
# Which patterns can be matched

A pattern is matched by an automaton over UTF-8. The automaton has no tables of Unicode: it knows no
properties, does not fold the case of characters beyond ASCII, and finds no edges of words unless
words are made of ASCII alone. A pattern that is not about Unicode must not match a part of a
character.
-/
namespace PolicyReach.Pattern

/-- The flags that bear on what a pattern may contain. -/
structure Mode where
  unicode : Bool
  ignoreCase : Bool

namespace Mode

def standard : Mode := ⟨true, false⟩

def alphabet (m : Mode) : Alphabet := if m.unicode then .chars else .bytes

def update (m : Mode) (items : List FlagItem) : Mode :=
  ⟨(flagState .unicode false items).getD m.unicode,
    (flagState .caseInsensitive false items).getD m.ignoreCase⟩

end Mode

/-- The members of a class, and whether it is known to hold every character in all its cases. -/
structure Members where
  ranges : List (Nat × Nat)
  folded : Bool

namespace Members

def none : Members := ⟨[], true⟩

def of (ranges : List (Nat × Nat)) : Members := ⟨CharSet.normal ranges, ranges.isEmpty⟩

def union (s t : Members) : Members := ⟨CharSet.union s.ranges t.ranges, s.folded && t.folded⟩

def isAscii (s : Members) : Bool := s.ranges.all (·.2 < 0x80)

/-- Folds the case if it is to be ignored. -/
def fold (m : Mode) (extent : Extent) (s : Members) : Except Fault Members :=
  if !m.ignoreCase then .ok s
  else if !m.unicode then .ok ⟨CharSet.foldAscii s.ranges, true⟩
  else if s.folded then .ok s
  else fail .foldingUnavailable extent

def negate (m : Mode) (negated : Bool) (s : Members) : Members :=
  if negated then
    ⟨CharSet.complement m.alphabet s.ranges, s.folded || s.ranges.isEmpty⟩
  else s

/-- A class of bytes must not take characters apart. -/
def whole (m : Mode) (extent : Extent) (s : Members) : Except Fault Members :=
  if m.unicode || s.isAscii then .ok s else fail .invalidUtf8 extent

/-- Folds, negates and checks, in this order. -/
def complete (m : Mode) (extent : Extent) (negated : Bool) (s : Members) :
    Except Fault Members := do
  whole m extent ((← s.fold m extent).negate m negated)

def combine (m : Mode) (op : SetOperation) (s t : Members) : Members :=
  ⟨CharSet.apply m.alphabet op s.ranges t.ranges, s.folded && t.folded⟩

end Members

/-- A literal beyond ASCII that is written as a byte is part of a character. -/
def checkLiteral (m : Mode) (l : Literal) : Except Fault Unit :=
  if !m.unicode && l.isByte && 0x80 ≤ l.char.toNat then fail .invalidUtf8 l.extent else .ok ()

/-- The number of a literal in a class. -/
def literalMember (m : Mode) (l : Literal) : Except Fault Nat := do
  checkLiteral m l
  if !m.unicode && 0x80 ≤ l.char.toNat then fail .unicodeNotAllowed l.extent
  return l.char.toNat

def shorthandMembers (m : Mode) (extent : Extent) (negated : Bool) (kind : Shorthand) :
    Except Fault Members :=
  if m.unicode then fail .shorthandUnavailable extent
  else ((Members.of kind.members).negate m negated).whole m extent

def checkProperty {α : Type} (m : Mode) (extent : Extent) : Except Fault α :=
  fail (if m.unicode then .propertyUnknown else .unicodeNotAllowed) extent

mutual

def ClassSet.members (m : Mode) : ClassSet → Except Fault Members
  | .empty _ => .ok .none
  | .literal l => do
    let n ← literalMember m l
    return .of [(n, n)]
  | .range _ low high => do
    let first ← literalMember m low
    return .of [(first, ← literalMember m high)]
  | .named extent negated name => (Members.of name.members).complete m extent negated
  | .shorthand extent negated kind => shorthandMembers m extent negated kind
  | .property extent => checkProperty m extent
  | .bracketed extent negated body => do (← body.members m).complete m extent negated
  | .union _ items => ClassSet.unionMembers m .none items
  | .operation _ op left right => do
    let s ← left.members m
    let t ← right.members m
    let t ← t.fold m right.extent
    let s ← s.fold m left.extent
    return s.combine m op t

def ClassSet.unionMembers (m : Mode) (s : Members) : List ClassSet → Except Fault Members
  | [] => .ok s
  | item :: rest => do ClassSet.unionMembers m (s.union (← item.members m)) rest

end

def checkCase (m : Mode) (l : Literal) : Except Fault Unit :=
  if m.unicode && m.ignoreCase then fail .foldingUnavailable l.extent else .ok ()

mutual

/-- Checks a part under a mode. Returns the mode for what follows, and whether the part looks for
edges of words that are not made of ASCII alone. -/
def check (m : Mode) : Pattern → Except Fault (Mode × Bool)
  | .empty _ => .ok (m, false)
  | .flags _ items => .ok (m.update items, false)
  | .literal l => do
    checkLiteral m l
    checkCase m l
    return (m, false)
  | .dot extent => if m.unicode then .ok (m, false) else fail .invalidUtf8 extent
  | .assertion _ wordEdge => .ok (m, wordEdge && m.unicode)
  | .shorthand extent negated kind => do
    let _ ← shorthandMembers m extent negated kind
    return (m, false)
  | .property extent => checkProperty m extent
  | .bracketed extent negated body => do
    let _ ← (← body.members m).complete m extent negated
    return (m, false)
  | .repetition _ never body => do
    let (m, edges) ← check m body
    return (m, edges && !never)
  | .group _ items body => do
    let (_, edges) ← check (m.update items) body
    return (m, edges)
  | .alternation _ parts | .concat _ parts => checkAll m false parts

def checkAll (m : Mode) (edges : Bool) : List Pattern → Except Fault (Mode × Bool)
  | [] => .ok (m, edges)
  | p :: rest => do
    let (m, more) ← check m p
    checkAll m (edges || more) rest

end

end Pattern

/-- Why a pattern cannot be matched. -/
inductive PatternError where
  | malformed (pattern : List Char) (f : Pattern.Fault)
  | wordEdges

namespace PatternError

def message : PatternError → String
  | .malformed .. => "error building NFA"
  | .wordEdges =>
    "unsupported regex feature for DFAs: cannot build DFAs for regexes with Unicode word " ++
      "boundaries; switch to ASCII word boundaries, or heuristically enable Unicode word " ++
      "boundaries or use a different regex engine"

/-- The reasons behind the message, the nearest one first. -/
def causes : PatternError → List String
  | .malformed pattern f => ["error parsing regex", f.report pattern]
  | .wordEdges => []

end PatternError

namespace Pattern

def checkText (s : List Char) : Except PatternError Unit :=
  match read s >>= check .standard with
  | .error f => .error (.malformed s f)
  | .ok (_, edges) => if edges then .error .wordEdges else .ok ()

end Pattern

end PolicyReach
