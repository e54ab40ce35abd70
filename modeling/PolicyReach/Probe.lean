import PolicyReach.Text.Blank
import PolicyReach.Topology

/-!
# Probes

A probe names the port, the protocol and the way in which every pair of workloads is tried.
-/
namespace PolicyReach

/-- A destination port by number, or by the name that the destination gives it. -/
inductive ProbePort where
  | number (n : UInt16)
  | name (s : String)
  deriving DecidableEq

/-- Whether a destination is reached by its address or by the name of its service. -/
inductive ProbeMode where
  | podIp
  | serviceName
  deriving DecidableEq

structure Probe where
  port : ProbePort
  protocol : Protocol
  mode : ProbeMode
  deriving DecidableEq

structure ProbePortError where
  text : String
  deriving DecidableEq

structure ProbeModeError where
  text : String
  deriving DecidableEq

def ProbePortError.message (e : ProbePortError) : String :=
  "invalid probe port " ++ Text.quoted e.text

def ProbeModeError.message (e : ProbeModeError) : String :=
  "invalid probe mode " ++ Text.quoted e.text ++ "; expected pod-ip or service-name"

namespace ProbePort

def text : ProbePort → String
  | .number n => toString n.toNat
  | .name s => s

/-- A row of digits is a number, whatever its length; any other text is a name. -/
def parse (s : String) : Except ProbePortError ProbePort :=
  let s := Text.trim s
  if s.isEmpty then .error ⟨s⟩
  else match Text.decimal? s.toList with
    | some n => if 0 < n && n < 0x10000 then .ok (.number (.ofNat n)) else .error ⟨s⟩
    | none => .ok (.name s)

/-- The port to try at a destination, which may not declare the name. -/
def resolve (port : ProbePort) (destination : Workload) (protocol : Protocol) : Option UInt16 :=
  match port with
  | .number n => some n
  | .name s => destination.resolvePort s protocol

end ProbePort

namespace ProbeMode

def text : ProbeMode → String
  | .podIp => "pod-ip"
  | .serviceName => "service-name"

def parse : String → Except ProbeModeError ProbeMode
  | "pod-ip" => .ok .podIp
  | "service-name" => .ok .serviceName
  | s => .error ⟨s⟩

end ProbeMode

/-- The texts between commas. -/
def commaPieces (s : String) : List String := (Text.pieces ',' s.toList).map String.ofList

def ProbePort.parseList (s : String) : Except ProbePortError (List ProbePort) :=
  (commaPieces s).mapM ProbePort.parse

def Protocol.parseList (s : String) : Except ProtocolError (List Protocol) :=
  (commaPieces s).mapM fun p => Protocol.parse (Text.trim p)

namespace Probe

def text (p : Probe) : String :=
  p.protocol.name ++ "/" ++ p.port.text ++ " via " ++ p.mode.text

def resolve (p : Probe) (destination : Workload) : Option UInt16 :=
  p.port.resolve destination p.protocol

/-- Why a destination cannot be probed. -/
def unresolved (p : Probe) (destination : Workload) : String :=
  destination.id.text ++ " has no " ++ p.protocol.name ++ " port named " ++ p.port.text

/-- Every port with every protocol, the ports outermost. -/
def combinations (ports : List ProbePort) (protocols : List Protocol) (mode : ProbeMode) :
    List Probe :=
  ports.flatMap fun port => protocols.map fun protocol => ⟨port, protocol, mode⟩

end Probe

end PolicyReach
