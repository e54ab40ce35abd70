import PolicyReach.Json.Value
import PolicyReach.Text.Quoted

/-!
# Writing JSON
-/
namespace PolicyReach.Json

/-- The two hexadecimal digits of a byte. -/
def hexByte (n : Nat) : List Char :=
  [Nat.digitChar (n / 16 % 16), Nat.digitChar (n % 16)]

def escapeChar (c : Char) : List Char :=
  match c with
  | '"' => ['\\', '"']
  | '\\' => ['\\', '\\']
  | '\n' => ['\\', 'n']
  | '\r' => ['\\', 'r']
  | '\t' => ['\\', 't']
  | c => if c.toNat < 0x20 then ['\\', 'u', '0', '0'] ++ hexByte c.toNat else [c]

def writeString (s : String) : String :=
  "\"" ++ String.ofList (s.toList.flatMap escapeChar) ++ "\""

def writeDecimal (negative : Bool) (significand : Nat) (scale : Int) : String :=
  (if negative then "-" else "") ++ toString significand ++
    (if scale = 0 then ".0" else "e" ++ toString scale)

/-- The text of a value that is not an array or an object with members. -/
def writeLeaf : Json → String
  | .null => "null"
  | .bool b => if b then "true" else "false"
  | .int i => toString i
  | .decimal negative significand scale => writeDecimal negative significand scale
  | .str s => writeString s
  | .arr _ => "[]"
  | .obj _ => "\x7b\x7d"
  | .unreadable => "null"

mutual

/-- The text without blanks. -/
def compact : Json → String
  | .arr (v :: rest) => "[" ++ compact v ++ compactItems rest ++ "]"
  | .obj (m :: rest) =>
    "\x7b" ++ writeString m.1 ++ ":" ++ compact m.2 ++ compactMembers rest ++ "\x7d"
  | v => writeLeaf v

def compactItems : List Json → String
  | [] => ""
  | v :: rest => "," ++ compact v ++ compactItems rest

def compactMembers : List (String × Json) → String
  | [] => ""
  | m :: rest => "," ++ writeString m.1 ++ ":" ++ compact m.2 ++ compactMembers rest

end

mutual

/-- The text with an item a line, each level two blanks further in than `indent`. -/
def pretty (indent : String) : Json → String
  | .arr (v :: rest) =>
    "[\n" ++ indent ++ "  " ++ pretty (indent ++ "  ") v ++ prettyItems indent rest ++
      "\n" ++ indent ++ "]"
  | .obj (m :: rest) =>
    "\x7b\n" ++ indent ++ "  " ++ writeString m.1 ++ ": " ++ pretty (indent ++ "  ") m.2 ++
      prettyMembers indent rest ++ "\n" ++ indent ++ "\x7d"
  | v => writeLeaf v

def prettyItems (indent : String) : List Json → String
  | [] => ""
  | v :: rest =>
    ",\n" ++ indent ++ "  " ++ pretty (indent ++ "  ") v ++ prettyItems indent rest

def prettyMembers (indent : String) : List (String × Json) → String
  | [] => ""
  | m :: rest =>
    ",\n" ++ indent ++ "  " ++ writeString m.1 ++ ": " ++ pretty (indent ++ "  ") m.2 ++
      prettyMembers indent rest

end

end PolicyReach.Json
