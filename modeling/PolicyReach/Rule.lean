import PolicyReach.Selector
import PolicyReach.Topology

/-!
# Rules

A rule admits a flow if one of its peers and one of its ports match. No peers stand for every peer,
no ports for every port of every protocol.
-/
namespace PolicyReach

inductive NamespaceMatch where
  | named (name : String)
  | selected (selector : Selector)
  deriving DecidableEq

inductive PeerMatch where
  | workloads (namespaces : NamespaceMatch) (pods : Selector)
  | network (net : NetworkMatch)
  deriving DecidableEq

inductive PortMatch where
  | all (protocol : Protocol)
  | number (protocol : Protocol) (port : UInt16)
  | range (protocol : Protocol) (first last : UInt16)
  | name (protocol : Protocol) (name : String)
  deriving DecidableEq

structure Rule where
  peers : List PeerMatch
  ports : List PortMatch
  deriving DecidableEq

namespace NamespaceMatch

def accepts : NamespaceMatch → Namespace → Bool
  | .named name, ns => name == ns.name
  | .selected selector, ns => selector.selects ns.labels

def text : NamespaceMatch → String
  | .named name => "ns:" ++ name
  | .selected selector => "ns[" ++ selector.text ++ "]"

end NamespaceMatch

namespace PeerMatch

def accepts : PeerMatch → Workload → Namespace → Bool
  | .workloads namespaces pods, w, ns => namespaces.accepts ns && pods.selects w.labels
  | .network net, w, _ => net.contains w.ip

def text : PeerMatch → String
  | .workloads namespaces pods => namespaces.text ++ " pods[" ++ pods.text ++ "]"
  | .network net => "ip[" ++ net.text ++ "]"

end PeerMatch

namespace PortMatch

def protocol : PortMatch → Protocol
  | .all p | .number p _ | .range p _ _ | .name p _ => p

/-- A name is looked up at the destination and matches nothing if it is not declared there. -/
def accepts (m : PortMatch) (protocol : Protocol) (port : UInt16) (destination : Workload) : Bool :=
  m.protocol = protocol &&
    match m with
    | .all _ => true
    | .number _ n => n == port
    | .range _ first last => first ≤ port && port ≤ last
    | .name _ s => destination.resolvePort s protocol == some port

def text : PortMatch → String
  | .all p => p.name ++ "/*"
  | .number p n => p.name ++ "/" ++ toString n.toNat
  | .range p first last => p.name ++ "/" ++ toString first.toNat ++ "-" ++ toString last.toNat
  | .name p s => p.name ++ "/" ++ s

end PortMatch

namespace Rule

def acceptsPeer (r : Rule) (w : Workload) (ns : Namespace) : Bool :=
  r.peers.isEmpty || r.peers.any (·.accepts w ns)

def acceptsPort (r : Rule) (protocol : Protocol) (port : UInt16) (destination : Workload) : Bool :=
  r.ports.isEmpty || r.ports.any (·.accepts protocol port destination)

end Rule

end PolicyReach
