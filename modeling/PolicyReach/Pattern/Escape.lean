import PolicyReach.Pattern.Cursor

/-!
# Escapes
-/
namespace PolicyReach.Pattern

/-- Characters with a meaning of their own in patterns. -/
def isMeta (c : Char) : Bool := "\\.+*?()|[]\x7b\x7d^$#&-~".toList.contains c

/-- Characters that a backslash leaves as they are. -/
def isEscapable (c : Char) : Bool :=
  isMeta c || (c.toNat < 0x80 && !c.isAlphanum && c ≠ '<' && c ≠ '>')

/-! ### Hexadecimal escapes -/

def hexDigits : Char → Nat
  | 'x' => 2
  | 'u' => 4
  | _ => 8

/-- Reads so many digits, the cursor standing on the first of them. -/
def readHexDigits (verbose : Bool) : Nat → Nat → Cursor → Except Fault (Nat × Cursor)
  | 0, value, c => .ok (value, c)
  | n + 1, value, c =>
    match c.rest with
    | [] => fail .escapeCutOff c.here
    | x :: _ =>
      match Text.hexValue? x with
      | none => fail .hexDigit c.ahead
      | some d => readHexDigits verbose n (value * 16 + d) (c.advance verbose)

/-- Reads digits up to a closing brace. -/
def readBracedHex (verbose : Bool) (brace : Position) :
    Nat → List Nat → Cursor → Except Fault (List Nat × Cursor)
  | 0, _, c => fail .escapeCutOff (c.since brace)
  | fuel + 1, ds, c =>
    match c.rest with
    | [] => fail .escapeCutOff (c.since brace)
    | x :: _ =>
      if x = '\x7d' then .ok (ds.reverse, c)
      else match Text.hexValue? x with
        | none => fail .hexDigit c.ahead
        | some d => readBracedHex verbose brace fuel (d :: ds) (c.advance verbose)

def charOf? (n : Nat) : Option Char := if n.isValidChar then some (.ofNat n) else none

/-- Reads a character by its number; the cursor stands on the letter of the escape. -/
def readHex (verbose : Bool) (start : Position) (c : Cursor) : Except Fault (Literal × Cursor) :=
  let letter := c.rest.headD 'x'
  let c := c.advance verbose
  match c.rest with
  | [] => fail .escapeCutOff c.here
  | '\x7b' :: rest => do
    let first := c.next.position
    let (ds, behind) ←
      readBracedHex verbose c.position (rest.length + 1) [] (c.advance verbose)
    let after := behind.advance verbose
    if ds.isEmpty then fail .hexEmpty (after.since c.position)
    match charOf? (ds.foldl (· * 16 + ·) 0) with
    | none => fail .hexNoCharacter ⟨first, behind.position⟩
    | some x => return (⟨after.since start, x, false⟩, after)
  | _ => do
    let (value, after) ← readHexDigits verbose (hexDigits letter) 0 c
    match charOf? value with
    | none => fail .hexNoCharacter (after.since c.position)
    | some x => return (⟨after.since start, x, letter = 'x'⟩, after)

/-! ### Classes by property -/

def passBraced (verbose : Bool) : Nat → Cursor → Except Fault (Unit × Cursor)
  | 0, c => fail .escapeCutOff c.here
  | fuel + 1, c =>
    match c.rest with
    | [] => fail .escapeCutOff c.here
    | x :: _ => if x = '\x7d' then .ok ((), c.next) else passBraced verbose fuel (c.advance verbose)

/-- Reads the name of a property, one letter or any text in braces. -/
def readProperty (verbose : Bool) (start : Position) (c : Cursor) :
    Except Fault (Pattern × Cursor) :=
  let c := c.advance verbose
  match c.rest with
  | [] => fail .escapeCutOff c.here
  | '\x7b' :: rest => do
    let (_, after) ← passBraced verbose (rest.length + 1) (c.advance verbose)
    return (.property (after.since start), after)
  | '\\' :: _ => fail .propertyInvalid c.ahead
  | _ =>
    let after := c.advance verbose
    .ok (.property (after.since start), after)

/-! ### Edges of words -/

def wordEdges : List String := ["start", "end", "start-half", "end-half"]

def isEdgeChar (c : Char) : Bool := c.isAlpha || c = '-'

def readEdgeName (verbose : Bool) : Nat → List Char → Cursor → List Char × Cursor
  | 0, name, c => (name.reverse, c)
  | fuel + 1, name, c =>
    match c.rest with
    | [] => (name.reverse, c)
    | x :: _ =>
      if isEdgeChar x then readEdgeName verbose fuel (x :: name) (c.advance verbose)
      else (name.reverse, c)

/-- Reads the kind of a word's edge in braces; what does not begin like one may be a count. -/
def readWordEdge (verbose : Bool) (start : Position) (c : Cursor) :
    Except Fault (Pattern × Cursor) :=
  let plain : Pattern := .assertion (c.since start) true
  if !c.startsWith "\x7b" then .ok (plain, c)
  else
    let first := c.advance verbose
    if first.isAtEnd then fail .wordEdgeCutOff (first.since start)
    else if !first.rest.head?.any isEdgeChar then .ok (plain, c)
    else
      let (name, behind) := readEdgeName verbose first.rest.length [] first
      if !behind.startsWith "\x7d" then fail .wordEdgeUnclosed (behind.since c.position)
      else if !wordEdges.contains (String.ofList name) then
        fail .wordEdgeUnknown (behind.since first.position)
      else .ok (.assertion (behind.next.since start) true, behind.next)

/-! ### All escapes -/

def controlChar? : Char → Option Char
  | 'a' => some '\x07'
  | 'f' => some '\x0C'
  | 't' => some '\t'
  | 'n' => some '\n'
  | 'r' => some '\r'
  | 'v' => some '\x0B'
  | _ => none

def shorthand? : Char → Option (Bool × Shorthand)
  | 'd' => some (false, .digit)
  | 's' => some (false, .space)
  | 'w' => some (false, .word)
  | 'D' => some (true, .digit)
  | 'S' => some (true, .space)
  | 'W' => some (true, .word)
  | _ => none

/-- Reads an escape; the cursor stands on the backslash. -/
def readEscape (verbose : Bool) (c : Cursor) : Except Fault (Pattern × Cursor) :=
  let start := c.position
  let c := c.next
  match c.rest with
  | [] => fail .escapeCutOff (c.since start)
  | x :: _ =>
    let after := c.next
    let whole := after.since start
    if Text.isAsciiDigit x then fail .backreference whole
    else if x = 'x' || x = 'u' || x = 'U' then
      (readHex verbose start c).map fun (l, c) => (.literal l, c)
    else if x = 'p' || x = 'P' then readProperty verbose start c
    else match shorthand? x, controlChar? x with
      | some (negated, kind), _ => .ok (.shorthand whole negated kind, after)
      | none, some y => .ok (.literal ⟨whole, y, false⟩, after)
      | none, none =>
        if isEscapable x then .ok (.literal ⟨whole, x, false⟩, after)
        else if x = 'A' || x = 'z' then .ok (.assertion whole false, after)
        else if x = 'b' then readWordEdge verbose start after
        else if x = 'B' || x = '<' || x = '>' then .ok (.assertion whole true, after)
        else fail .escapeUnknown whole

end PolicyReach.Pattern
