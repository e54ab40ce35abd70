import PolicyReach.Pattern.Check
import PolicyReach.Text.Alphanumeric
import PolicyReach.Text.Blank

/-!
# Log filters

A log filter is a list of directives. Each names a part of the program, a span with fields, a level
or several of these; a field may have a value or a pattern for values. Only the form of a filter is
of interest here: one that is malformed stops the program.
-/
namespace PolicyReach

inductive LogFilterError where
  | directive
  | level
  | field (e : PatternError)
  /-- A part of a directive would begin or end inside a character. -/
  | insideCharacter

namespace LogFilterError

def message : LogFilterError → String
  | .directive => "invalid filter directive"
  | .level =>
    "error parsing level filter: expected one of \"off\", \"error\", \"warn\", \"info\", " ++
      "\"debug\", \"trace\", or a number 0-5"
  | .field e => "invalid field filter: " ++ e.message
  | .insideCharacter => "a part of a filter directive ends inside a character"

/-- A level that is wrong is its own reason. -/
def causes : LogFilterError → List String
  | .directive | .insideCharacter => []
  | .level => [LogFilterError.level.message]
  | .field e => e.message :: e.causes

end LogFilterError

namespace LogFilter

/-! ### Cutting by bytes -/

def dropBytes? : Nat → List Char → Option (List Char)
  | 0, cs => some cs
  | _ + 1, [] => none
  | n + 1, c :: rest => if c.utf8Size ≤ n + 1 then dropBytes? (n + 1 - c.utf8Size) rest else none

def takeBytes? : Nat → List Char → Option (List Char)
  | 0, _ => some []
  | _ + 1, [] => none
  | n + 1, c :: rest =>
    if c.utf8Size ≤ n + 1 then (takeBytes? (n + 1 - c.utf8Size) rest).map (c :: ·) else none

/-- The part of a text between two numbers of bytes. -/
def slice (s : List Char) (first last : Nat) : Except LogFilterError (List Char) :=
  match (dropBytes? first s).bind (takeBytes? (last - first)) with
  | some part => .ok part
  | none => .error .insideCharacter

/-! ### Levels and values -/

def levelNames : List String := ["off", "error", "warn", "info", "debug", "trace"]

/-- A level is a name in any case, a number up to 5 or nothing. -/
def isLevel (s : List Char) : Bool :=
  s.isEmpty || levelNames.contains (String.ofList (s.map Char.toLower)) ||
    (Text.decimal? (match s with | '+' :: ds => ds | ds => ds)).any (· ≤ 5)

def isExponent : List Char → Bool
  | [] => true
  | e :: rest =>
    let ds := match rest with | '+' :: ds | '-' :: ds => ds | ds => ds
    (e = 'e' || e = 'E') && (Text.decimal? ds).isSome

/-- A number in decimal notation; digits stand before the point, behind it or on both sides. -/
def isDecimal (s : List Char) : Bool :=
  let (whole, rest) := s.span Text.isAsciiDigit
  let (fraction, rest) :=
    match rest with
    | '.' :: rest => rest.span Text.isAsciiDigit
    | rest => ([], rest)
  !(whole.isEmpty && fraction.isEmpty) && isExponent rest

/-- A value is a truth value or a number; what is none is a pattern. -/
def isValue (s : List Char) : Bool :=
  let unsigned := match s with | '+' :: rest | '-' :: rest => rest | rest => rest
  s = "true".toList || s = "false".toList || isDecimal unsigned ||
    ["inf", "infinity", "nan"].contains (String.ofList (unsigned.map Char.toLower))

/-- A field is a name, perhaps with a value or a pattern; what follows another equals sign is
ignored. -/
def checkField (s : List Char) : Except LogFilterError Unit :=
  match Text.pieces '=' s with
  | _ :: value :: _ =>
    if isValue value then .ok () else (Pattern.checkText value).mapError .field
  | _ => .ok ()

/-! ### Directives -/

/-- Where in a directive a character stands; some parts have begun behind so many bytes. -/
inductive Place where
  | start
  | target
  | span (begun : Nat)
  | field (begun : Nat)
  | fields
  | behind
  | level (begun : Nat)

/-- A target begins with a letter, a number or one of these marks. -/
def startsTarget (c : Char) : Bool := Text.isAlphanumeric c || ['-', ':', '_'].contains c

/-- Takes a character of the directive `s` that stands behind `index` bytes. -/
def step (s : List Char) (index : Nat) : Place → Char → Except LogFilterError Place
  | .start, '[' => .ok (.span (index + 1))
  | .start, c => if startsTarget c then .ok .target else .error .directive
  | .target, '=' => (slice s 0 index).map fun _ => .level (index + 1)
  | .target, '[' => (slice s 0 index).map fun _ => .span (index + 1)
  | .target, _ => .ok .target
  | .span begun, ']' => (slice s begun index).map fun _ => .behind
  | .span begun, '\x7b' => (slice s begun index).map fun _ => .field (index + 1)
  | .span begun, _ => .ok (.span begun)
  | .field begun, '\x7d' => do
    let text ← slice s begun index
    if text.isEmpty then throw .directive
    checkField text
    return .fields
  | .field begun, _ => .ok (.field begun)
  | .fields, ']' => .ok .behind
  | .behind, '=' => .ok (.level (index + 1))
  | .level begun, _ => .ok (.level begun)
  | .fields, _ | .behind, _ => .error .directive

def walk (s : List Char) (place : Place) (index : Nat) :
    List Char → Except LogFilterError Place
  | [] => .ok place
  | c :: rest => do walk s (← step s index place c) (index + c.utf8Size) rest

/-- Blanks around a directive are passed over, but its parts are cut out as if they were not. -/
def checkDirective (s : List Char) : Except LogFilterError Unit := do
  match ← walk s .start 0 (Text.trimList s) with
  | .target | .behind => return ()
  | .level begun =>
    match dropBytes? begun s with
    | some level => if isLevel level then return () else throw .level
    | none => throw .insideCharacter
  | .start | .span _ | .field _ | .fields => throw .directive

def check (s : String) : Except LogFilterError Unit :=
  ((Text.pieces ',' s.toList).filter (!·.isEmpty)).forM checkDirective

end LogFilter

end PolicyReach
