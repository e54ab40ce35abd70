import PolicyReach.Probe

/-!
# Jobs

A job is one connection to be tried from a source workload.
-/
namespace PolicyReach

structure Job where
  source : WorkloadId
  destination : WorkloadId
  /-- An address or the name of a service. -/
  host : String
  port : UInt16
  protocol : Protocol
  deriving DecidableEq

namespace Job

/-- An address of the newer family stands in brackets before a port. -/
def endpoint (a : Address) (port : UInt16) : String :=
  match a.family with
  | .v4 => a.text ++ ":" ++ toString port.toNat
  | .v6 => "[" ++ a.text ++ "]:" ++ toString port.toNat

/-- Host and port in the form in which a connection is asked for. -/
def target (j : Job) : String :=
  match Address.parse? j.host with
  | some a => endpoint a j.port
  | none => j.host ++ ":" ++ toString j.port.toNat

def text (j : Job) : String :=
  j.source.text ++ " -> " ++ j.destination.text ++ " (" ++ j.protocol.name ++ " " ++ j.target ++ ")"

def defaultDomain : String := "cluster.local"

/-- The name of the service in front of a workload. -/
def serviceName (domain : String) (w : Workload) : String :=
  "s-" ++ w.ns ++ "-" ++ w.name ++ "." ++ w.ns ++ ".svc." ++ domain

def hostFor (domain : String) (mode : ProbeMode) (destination : Workload) : String :=
  match mode with
  | .podIp => destination.ip.text
  | .serviceName => serviceName domain destination

/-- There is no job if the probe names a port that the destination does not have. -/
def build? (domain : String) (source destination : Workload) (probe : Probe) : Option Job :=
  (probe.resolve destination).map fun port =>
    ⟨source.id, destination.id, hostFor domain probe.mode destination, port, probe.protocol⟩

end Job

end PolicyReach
