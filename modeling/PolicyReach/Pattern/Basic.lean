/-!
# Regular expressions

A pattern with the places of its parts, which error reports point at.
-/
namespace PolicyReach

/-- A place between two characters; lines and columns are counted from one. -/
structure Position where
  line : Nat
  column : Nat
  deriving DecidableEq

/-- The part of a text from one place up to another. -/
structure Extent where
  start : Position
  stop : Position
  deriving DecidableEq

namespace Position

def first : Position := ⟨1, 1⟩

/-- The place behind a character. -/
def after (p : Position) (c : Char) : Position :=
  if c = '\n' then ⟨p.line + 1, 1⟩ else ⟨p.line, p.column + 1⟩

def precedes (p q : Position) : Bool :=
  p.line < q.line || (p.line == q.line && p.column ≤ q.column)

end Position

namespace Extent

/-- The empty extent at a place. -/
def point (p : Position) : Extent := ⟨p, p⟩

def isOneLine (e : Extent) : Bool := e.start.line == e.stop.line

end Extent

namespace Pattern

/-- A single character, which may be written as an escape. -/
structure Literal where
  extent : Extent
  char : Char
  /-- Written with the two hexadecimal digits of a byte. -/
  isByte : Bool
  deriving DecidableEq

/-- The classes `\d`, `\s` and `\w`. -/
inductive Shorthand where
  | digit
  | space
  | word
  deriving DecidableEq

/-- The classes with a name between colons. -/
inductive NamedClass where
  | alnum
  | alpha
  | ascii
  | blank
  | cntrl
  | digit
  | graph
  | lower
  | print
  | punct
  | space
  | upper
  | word
  | xdigit
  deriving DecidableEq

inductive SetOperation where
  | intersection
  | difference
  | symmetricDifference
  deriving DecidableEq

/-- What stands between square brackets. -/
inductive ClassSet where
  | empty (extent : Extent)
  | literal (l : Literal)
  | range (extent : Extent) (low high : Literal)
  | named (extent : Extent) (negated : Bool) (name : NamedClass)
  | shorthand (extent : Extent) (negated : Bool) (kind : Shorthand)
  /-- A class given by a Unicode property. -/
  | property (extent : Extent)
  | bracketed (extent : Extent) (negated : Bool) (body : ClassSet)
  | union (extent : Extent) (items : List ClassSet)
  | operation (extent : Extent) (op : SetOperation) (left right : ClassSet)

inductive Flag where
  | caseInsensitive
  | multiLine
  | dotMatchesNewline
  | swapGreed
  | unicode
  | crlf
  | ignoreBlanks
  deriving DecidableEq

/-- Flags that are set or, behind a minus sign, cleared. -/
structure FlagItem where
  extent : Extent
  /-- The minus sign has no flag. -/
  flag : Option Flag
  deriving DecidableEq

end Pattern

inductive Pattern where
  | empty (extent : Extent)
  | flags (extent : Extent) (items : List Pattern.FlagItem)
  | literal (l : Pattern.Literal)
  | dot (extent : Extent)
  /-- A place in the text, perhaps one at the edge of a word. -/
  | assertion (extent : Extent) (wordEdge : Bool)
  | shorthand (extent : Extent) (negated : Bool) (kind : Pattern.Shorthand)
  | property (extent : Extent)
  | bracketed (extent : Extent) (negated : Bool) (body : Pattern.ClassSet)
  /-- A part that may be repeated, or is to occur not at all. -/
  | repetition (extent : Extent) (never : Bool) (body : Pattern)
  | group (extent : Extent) (items : List Pattern.FlagItem) (body : Pattern)
  | alternation (extent : Extent) (branches : List Pattern)
  | concat (extent : Extent) (parts : List Pattern)

namespace Pattern

def ClassSet.extent : ClassSet → Extent
  | .empty e | .range e .. | .named e .. | .shorthand e .. | .property e | .bracketed e ..
  | .union e _ | .operation e .. => e
  | .literal l => l.extent

def extent : Pattern → Extent
  | .empty e | .flags e _ | .dot e | .assertion e _ | .shorthand e .. | .property e
  | .bracketed e .. | .repetition e .. | .group e .. | .alternation e _ | .concat e _ => e
  | .literal l => l.extent

/-- Whether flags set or clear one of their kind; the first mention counts. -/
def flagState (flag : Flag) : Bool → List FlagItem → Option Bool
  | _, [] => none
  | negated, item :: rest =>
    match item.flag with
    | none => flagState flag true rest
    | some f => if f = flag then some (!negated) else flagState flag negated rest

def NamedClass.ofName? : String → Option NamedClass
  | "alnum" => some .alnum
  | "alpha" => some .alpha
  | "ascii" => some .ascii
  | "blank" => some .blank
  | "cntrl" => some .cntrl
  | "digit" => some .digit
  | "graph" => some .graph
  | "lower" => some .lower
  | "print" => some .print
  | "punct" => some .punct
  | "space" => some .space
  | "upper" => some .upper
  | "word" => some .word
  | "xdigit" => some .xdigit
  | _ => none

def NamedClass.members : NamedClass → List (Nat × Nat)
  | .alnum => [(0x30, 0x39), (0x41, 0x5A), (0x61, 0x7A)]
  | .alpha => [(0x41, 0x5A), (0x61, 0x7A)]
  | .ascii => [(0x0, 0x7F)]
  | .blank => [(0x9, 0x9), (0x20, 0x20)]
  | .cntrl => [(0x0, 0x1F), (0x7F, 0x7F)]
  | .digit => [(0x30, 0x39)]
  | .graph => [(0x21, 0x7E)]
  | .lower => [(0x61, 0x7A)]
  | .print => [(0x20, 0x7E)]
  | .punct => [(0x21, 0x2F), (0x3A, 0x40), (0x5B, 0x60), (0x7B, 0x7E)]
  | .space => [(0x9, 0xD), (0x20, 0x20)]
  | .upper => [(0x41, 0x5A)]
  | .word => [(0x30, 0x39), (0x41, 0x5A), (0x5F, 0x5F), (0x61, 0x7A)]
  | .xdigit => [(0x30, 0x39), (0x41, 0x46), (0x61, 0x66)]

def Shorthand.members : Shorthand → List (Nat × Nat)
  | .digit => NamedClass.digit.members
  | .space => NamedClass.space.members
  | .word => NamedClass.word.members

end Pattern

end PolicyReach
