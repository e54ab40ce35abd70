import PolicyReach.Json.Value
import PolicyReach.Text.Quoted

/-!
# Transport protocols
-/
namespace PolicyReach

inductive Protocol where
  | tcp
  | udp
  | sctp
  deriving DecidableEq

structure ProtocolError where
  text : String
  deriving DecidableEq

namespace Protocol

def all : List Protocol := [.tcp, .udp, .sctp]

def name : Protocol → String
  | .tcp => "TCP"
  | .udp => "UDP"
  | .sctp => "SCTP"

def ofName? (s : String) : Option Protocol := all.find? (·.name == s)

/-- The case of ASCII letters does not matter. -/
def parse (s : String) : Except ProtocolError Protocol :=
  match ofName? (s.map Char.toUpper) with
  | some p => .ok p
  | none => .error ⟨s⟩

/-- A name, alone or as the only member of an object. -/
def ofJson? : Json → Option Protocol
  | .str s => ofName? s
  | .obj [(s, .null)] => ofName? s
  | _ => none

def toJson (p : Protocol) : Json := .str p.name

end Protocol

def ProtocolError.message (e : ProtocolError) : String :=
  "not a valid protocol: " ++ Text.quoted e.text ++ " (expected one of TCP, UDP, SCTP)"

end PolicyReach
