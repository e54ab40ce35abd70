import PolicyReach.Model

/-!
# Deciding flows

A flow passes if the source admits it for egress and the destination for ingress.
-/
namespace PolicyReach

inductive Verdict where
  | allowed
  | denied
  | unknown
  deriving DecidableEq

structure Traffic where
  source : Workload
  destination : Workload
  protocol : Protocol
  port : UInt16
  deriving DecidableEq

/-- How one side of a flow decides, and by which policies it allows. -/
inductive Admission where
  | unisolated
  | denied
  | allowed (policies : SortedSet PolicyRef)
  deriving DecidableEq

structure Evaluation where
  egress : Admission
  ingress : Admission
  deriving DecidableEq

namespace Verdict

def ofAllowed (allowed : Bool) : Verdict := if allowed then .allowed else .denied

def symbol : Verdict → String
  | .allowed => "."
  | .denied => "X"
  | .unknown => "?"

def text : Verdict → String
  | .allowed => "allowed"
  | .denied => "denied"
  | .unknown => "unknown"

end Verdict

namespace Admission

def isAllowed : Admission → Bool
  | .denied => false
  | _ => true

def verdict (a : Admission) : Verdict := .ofAllowed a.isAllowed

end Admission

namespace Evaluation

def isAllowed (e : Evaluation) : Bool := e.egress.isAllowed && e.ingress.isAllowed

def verdict (e : Evaluation) : Verdict := .ofAllowed e.isAllowed

end Evaluation

/-- The namespace of a workload; one that the topology does not list has no labels. -/
def Topology.namespaceOf (t : Topology) (w : Workload) : Namespace :=
  (t.namespace? w.ns).getD ⟨w.ns, .empty⟩

/-- Ports are those on which the destination is reached, also in egress rules. -/
def TargetRule.admits (r : TargetRule) (peer : Workload) (ns : Namespace) (t : Traffic) : Bool :=
  r.rule.acceptsPeer peer ns && r.rule.acceptsPort t.protocol t.port t.destination

namespace DirectionPolicy

/-- The policies with a rule that admits traffic with a peer. -/
def admitting (p : DirectionPolicy) (peer : Workload) (ns : Namespace) (t : Traffic) :
    SortedSet PolicyRef :=
  .ofList ((p.rules.filter (·.admits peer ns t)).map (·.policy))

def admission (p : DirectionPolicy) (peer : Workload) (ns : Namespace) (t : Traffic) : Admission :=
  if !p.isIsolated then .unisolated
  else
    let policies := p.admitting peer ns t
    if policies.isEmpty then .denied else .allowed policies

end DirectionPolicy

namespace PolicyModel

def admission (m : PolicyModel) (topology : Topology) (d : Direction) (subject peer : Workload)
    (t : Traffic) : Admission :=
  ((m.workload subject).direction d).admission peer (topology.namespaceOf peer) t

def evaluate (m : PolicyModel) (topology : Topology) (t : Traffic) : Evaluation where
  egress := m.admission topology .egress t.source t.destination t
  ingress := m.admission topology .ingress t.destination t.source t

end PolicyModel

end PolicyReach
