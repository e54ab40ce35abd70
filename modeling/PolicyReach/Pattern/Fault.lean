import PolicyReach.Pattern.Basic
import PolicyReach.Text.Pieces

/-!
# What is wrong with a pattern

A report quotes the pattern and points at the parts in question.
-/
namespace PolicyReach.Pattern

/-- How deep parts of a pattern may stand inside one another. -/
def nestLimit : Nat := 250

inductive Defect where
  | classEscape
  | classRange
  | classRangeBound
  | classUnclosed
  | decimalInvalid
  | hexEmpty
  | hexNoCharacter
  | hexDigit
  | escapeCutOff
  | escapeUnknown
  | flagDangling
  | flagTwice
  | flagNegatedTwice
  | flagsCutOff
  | flagUnknown
  | groupNameTwice
  | groupNameEmpty
  | groupNameInvalid
  | groupNameCutOff
  | groupUnclosed
  | groupUnopened
  | nestedTooDeep
  | countRange
  | countMissing
  | countUnclosed
  | nothingToRepeat
  | wordEdgeUnclosed
  | wordEdgeUnknown
  | wordEdgeCutOff
  | propertyInvalid
  | backreference
  | lookAround
  | unicodeNotAllowed
  | invalidUtf8
  | propertyUnknown
  | shorthandUnavailable
  | foldingUnavailable
  deriving DecidableEq

/-- A defect with its place, and that of an earlier part if the two are at odds. -/
structure Fault where
  defect : Defect
  extent : Extent
  earlier : Option Extent
  deriving DecidableEq

def Defect.message : Defect → String
  | .classEscape => "invalid escape sequence found in character class"
  | .classRange => "invalid character class range, the start must be <= the end"
  | .classRangeBound => "invalid range boundary, must be a literal"
  | .classUnclosed => "unclosed character class"
  | .decimalInvalid => "decimal literal invalid"
  | .hexEmpty => "hexadecimal literal empty"
  | .hexNoCharacter => "hexadecimal literal is not a Unicode scalar value"
  | .hexDigit => "invalid hexadecimal digit"
  | .escapeCutOff => "incomplete escape sequence, reached end of pattern prematurely"
  | .escapeUnknown => "unrecognized escape sequence"
  | .flagDangling => "dangling flag negation operator"
  | .flagTwice => "duplicate flag"
  | .flagNegatedTwice => "flag negation operator repeated"
  | .flagsCutOff => "expected flag but got end of regex"
  | .flagUnknown => "unrecognized flag"
  | .groupNameTwice => "duplicate capture group name"
  | .groupNameEmpty => "empty capture group name"
  | .groupNameInvalid => "invalid capture group character"
  | .groupNameCutOff => "unclosed capture group name"
  | .groupUnclosed => "unclosed group"
  | .groupUnopened => "unopened group"
  | .nestedTooDeep =>
    "exceed the maximum number of nested parentheses/brackets (" ++ toString nestLimit ++ ")"
  | .countRange => "invalid repetition count range, the start must be <= the end"
  | .countMissing => "repetition quantifier expects a valid decimal"
  | .countUnclosed => "unclosed counted repetition"
  | .nothingToRepeat => "repetition operator missing expression"
  | .wordEdgeUnclosed =>
    "special word boundary assertion is either unclosed or contains an invalid character"
  | .wordEdgeUnknown =>
    "unrecognized special word boundary assertion, valid choices are: start, end, start-half " ++
      "or end-half"
  | .wordEdgeCutOff =>
    "found either the beginning of a special word boundary or a bounded repetition on a \\b " ++
      "with an opening brace, but no closing brace"
  | .propertyInvalid => "invalid Unicode character class"
  | .backreference => "backreferences are not supported"
  | .lookAround => "look-around, including look-ahead and look-behind, is not supported"
  | .unicodeNotAllowed => "Unicode not allowed here"
  | .invalidUtf8 => "pattern can match invalid UTF-8"
  | .propertyUnknown => "Unicode property not found"
  | .shorthandUnavailable =>
    "Unicode-aware Perl class not found (make sure the unicode-perl feature is enabled)"
  | .foldingUnavailable =>
    "Unicode-aware case insensitivity matching is not available (make sure the unicode-case " ++
      "feature is enabled)"

namespace Fault

/-- The lines of a text, of which the last may be left unended. -/
def lines (text : List Char) : List (List Char) :=
  let parts := Text.pieces '\n' text
  let ended := parts.dropLast.map fun line =>
    if line.getLast? = some '\r' then line.dropLast else line
  match parts.getLast? with
  | none | some [] => ended
  | some line => ended ++ [line]

def extents (f : Fault) : List Extent :=
  match f.earlier with
  | none => [f.extent]
  | some e => if e.start.precedes f.extent.start then [e, f.extent] else [f.extent, e]

def fill (c : Char) (n : Nat) : String := String.ofList (List.replicate n c)

/-- Marks under a line, one after another. -/
def carets : Nat → List Extent → String
  | _, [] => ""
  | written, e :: rest =>
    let gap := e.start.column - 1 - written
    let length := max 1 (e.stop.column - e.start.column)
    fill ' ' gap ++ fill '^' length ++ carets (written + gap + length) rest

/-- A line of the pattern behind its number, if lines are numbered, and what it is marked with. -/
def quoteLine (f : Fault) (digits number : Nat) (line : List Char) : String :=
  let shown := toString number
  let lead := if digits = 0 then "    " else fill ' ' (digits - shown.length) ++ shown ++ ": "
  let marked := f.extents.filter fun e => e.isOneLine && e.start.line == number
  lead ++ String.ofList line ++ "\n" ++
    (if marked.isEmpty then ""
    else fill ' ' (if digits = 0 then 4 else digits + 2) ++ carets 0 marked ++ "\n")

def quote (f : Fault) (pattern : List Char) : String :=
  let ls := lines pattern
  let count := ls.length + (if pattern.getLast? = some '\n' then 1 else 0)
  let digits := if count ≤ 1 then 0 else (toString count).length
  String.join (ls.mapIdx fun i line => f.quoteLine digits (i + 1) line)

/-- A note on an extent of several lines. -/
def acrossLines (e : Extent) : String :=
  "on line " ++ toString e.start.line ++ " (column " ++ toString e.start.column ++
    ") through line " ++ toString e.stop.line ++ " (column " ++ toString (e.stop.column - 1) ++ ")"

/-- The report on a pattern; one of several lines stands between dividers. -/
def report (f : Fault) (pattern : List Char) : String :=
  let divider := fill '~' 79 ++ "\n"
  let across := f.extents.filter (!·.isOneLine)
  "regex parse error:\n" ++
    (if pattern.contains '\n' then
      divider ++ f.quote pattern ++ divider ++
        (if across.isEmpty then ""
        else String.intercalate "\n" (across.map acrossLines) ++ "\n")
    else f.quote pattern) ++
    "error: " ++ f.defect.message

end Fault

end PolicyReach.Pattern
