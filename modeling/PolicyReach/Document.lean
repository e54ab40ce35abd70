import PolicyReach.Protocol
import PolicyReach.Selector

/-!
# Network policy documents

The parts of a policy as they are written, before any of them is checked.
-/
namespace PolicyReach

inductive Direction where
  | ingress
  | egress
  deriving DecidableEq

def Direction.text : Direction → String
  | .ingress => "ingress"
  | .egress => "egress"

/-- How a policy type is named in documents. -/
def Direction.typeName : Direction → String
  | .ingress => "Ingress"
  | .egress => "Egress"

namespace Document

/-- A port of a workload by number or by name; no port has the number 0. -/
inductive Port where
  | number (n : UInt16) (pos : n ≠ 0)
  | name (s : String)
  deriving DecidableEq

structure PortRange where
  protocol : Option Protocol
  port : Option Port
  /-- The last port of a range that begins with a number. -/
  endPort : Option UInt16
  deriving DecidableEq

structure IpBlock where
  cidr : String
  except : Option (List String)
  deriving DecidableEq

structure Peer where
  podSelector : Option Selector
  namespaceSelector : Option Selector
  ipBlock : Option IpBlock
  deriving DecidableEq

/-- Which peers may use which ports; a missing or empty list stands for all of them. -/
structure Rule where
  peers : Option (List Peer)
  ports : Option (List PortRange)
  deriving DecidableEq

structure Metadata where
  name : Option String
  ns : Option String
  deriving DecidableEq

structure Spec where
  podSelector : Option Selector
  policyTypes : Option (List Direction)
  ingress : Option (List Rule)
  egress : Option (List Rule)
  deriving DecidableEq

structure Policy where
  metadata : Metadata
  spec : Spec
  deriving DecidableEq

/-! ### Building documents -/

def Metadata.blank : Metadata := ⟨none, none⟩

def Spec.blank : Spec := ⟨none, none, none, none⟩

def Policy.named (ns name : String) (spec : Spec) : Policy := ⟨⟨some name, some ns⟩, spec⟩

def Peer.pods (s : Selector) : Peer := ⟨some s, none, none⟩

def Peer.namespaces (s : Selector) : Peer := ⟨none, some s, none⟩

def Peer.block (cidr : String) (except : List String) : Peer :=
  ⟨none, none, some ⟨cidr, if except.isEmpty then none else some except⟩⟩

def PortRange.single (protocol : Protocol) (port : Port) : PortRange :=
  ⟨some protocol, some port, none⟩

/-- The rules that a document lists for a direction. -/
def Policy.rules (p : Policy) : Direction → List Rule
  | .ingress => p.spec.ingress.getD []
  | .egress => p.spec.egress.getD []

/-- Without types a policy is about ingress, and about egress if it lists egress rules. -/
def Policy.declares (p : Policy) (d : Direction) : Bool :=
  match p.spec.policyTypes.getD [] with
  | [] => d = .ingress || !(p.rules .egress).isEmpty
  | types => types.contains d

/-! ### JSON -/

namespace Port

def text : Port → String
  | .number n _ => toString n.toNat
  | .name s => s

def ofJson? (v : Json) : Option Port :=
  match v with
  | .str s => some (.name s)
  | v => do
    let n ← v.asNat? 0x10000
    if h : UInt16.ofNat n ≠ 0 then some (.number (UInt16.ofNat n) h) else none

def toJson : Port → Json
  | .number n _ => .ofNat n.toNat
  | .name s => .str s

end Port

namespace PortRange

def ofJson? (v : Json) : Option PortRange := do
  match ← v.record? [("protocol", true), ("port", true), ("endPort", true)] with
  | [protocol, port, endPort] =>
    let protocol ← Json.nullable Protocol.ofJson? protocol
    let port ← Json.nullable Port.ofJson? port
    let endPort ← Json.nullable (fun v => (v.asNat? 0x10000).map UInt16.ofNat) endPort
    return ⟨protocol, port, endPort⟩
  | _ => none

def toJson (p : PortRange) : Json :=
  .obj (Json.optional "protocol" Protocol.toJson p.protocol ++
    Json.optional "port" Port.toJson p.port ++
    Json.optional "endPort" (fun n => .ofNat n.toNat) p.endPort)

end PortRange

namespace IpBlock

def ofJson? (v : Json) : Option IpBlock := do
  match ← v.record? [("cidr", false), ("except", true)] with
  | [some cidr, except] =>
    let cidr ← cidr.asString?
    let except ← Json.nullable (Json.asList? Json.asString?) except
    return ⟨cidr, except⟩
  | _ => none

def toJson (b : IpBlock) : Json :=
  .obj ([("cidr", .str b.cidr)] ++
    Json.optional "except" (fun es => .arr (es.map .str)) b.except)

end IpBlock

namespace Peer

def ofJson? (v : Json) : Option Peer := do
  match ← v.record? [("podSelector", true), ("namespaceSelector", true), ("ipBlock", true)] with
  | [pods, namespaces, block] =>
    let pods ← Json.nullable Selector.ofJson? pods
    let namespaces ← Json.nullable Selector.ofJson? namespaces
    let block ← Json.nullable IpBlock.ofJson? block
    return ⟨pods, namespaces, block⟩
  | _ => none

def toJson (p : Peer) : Json :=
  .obj (Json.optional "podSelector" Selector.toJson p.podSelector ++
    Json.optional "namespaceSelector" Selector.toJson p.namespaceSelector ++
    Json.optional "ipBlock" IpBlock.toJson p.ipBlock)

end Peer

namespace Rule

/-- The name under which a rule lists its peers. -/
def peersName : Direction → String
  | .ingress => "from"
  | .egress => "to"

def ofJson? (d : Direction) (v : Json) : Option Rule := do
  match ← v.record? [(peersName d, true), ("ports", true)] with
  | [peers, ports] =>
    let peers ← Json.nullable (Json.asList? Peer.ofJson?) peers
    let ports ← Json.nullable (Json.asList? PortRange.ofJson?) ports
    return ⟨peers, ports⟩
  | _ => none

def toJson (d : Direction) (r : Rule) : Json :=
  .obj (Json.optional (peersName d) (fun ps => .arr (ps.map Peer.toJson)) r.peers ++
    Json.optional "ports" (fun ps => .arr (ps.map PortRange.toJson)) r.ports)

end Rule

def typeOfName? : String → Option Direction
  | "Ingress" => some .ingress
  | "Egress" => some .egress
  | _ => none

/-- A policy type is a name, alone or as the only member of an object. -/
def typeOfJson? : Json → Option Direction
  | .str s => typeOfName? s
  | .obj [(s, .null)] => typeOfName? s
  | _ => none

namespace Metadata

def ofJson? (v : Json) : Option Metadata := do
  match ← v.record? [("name", true), ("namespace", true)] with
  | [name, ns] =>
    return ⟨← Json.nullable Json.asString? name, ← Json.nullable Json.asString? ns⟩
  | _ => none

def toJson (m : Metadata) : Json :=
  .obj (Json.optional "name" .str m.name ++ Json.optional "namespace" .str m.ns)

end Metadata

namespace Spec

def ofJson? (v : Json) : Option Spec := do
  match ← v.record?
      [("podSelector", true), ("policyTypes", true), ("ingress", true), ("egress", true)] with
  | [selector, types, ingress, egress] =>
    let selector ← Json.nullable Selector.ofJson? selector
    let types ← Json.nullable (Json.asList? typeOfJson?) types
    let ingress ← Json.nullable (Json.asList? (Rule.ofJson? .ingress)) ingress
    let egress ← Json.nullable (Json.asList? (Rule.ofJson? .egress)) egress
    return ⟨selector, types, ingress, egress⟩
  | _ => none

def toJson (s : Spec) : Json :=
  .obj (Json.optional "podSelector" Selector.toJson s.podSelector ++
    Json.optional "policyTypes" (fun ts => .arr (ts.map fun t => .str t.typeName)) s.policyTypes ++
    Json.optional "ingress" (fun rs => .arr (rs.map (Rule.toJson .ingress))) s.ingress ++
    Json.optional "egress" (fun rs => .arr (rs.map (Rule.toJson .egress))) s.egress)

end Spec

namespace Policy

def ofJson? (v : Json) : Option Policy := do
  match ← v.record? [("metadata", true), ("spec", true)] with
  | [metadata, spec] =>
    let metadata ← Json.orElse .blank Metadata.ofJson? metadata
    let spec ← Json.orElse .blank Spec.ofJson? spec
    return ⟨metadata, spec⟩
  | _ => none

def toJson (p : Policy) : Json :=
  .obj [("metadata", p.metadata.toJson), ("spec", p.spec.toJson)]

end Policy

/-! ### Documents with policies -/

/-- How deep the arrays and objects of a policies document may stand inside one another. -/
def depthLimit : Nat := 127

/-- The policies listed under the name `items`, which must be there once. -/
def itemsOf? : Json → Option (List Policy)
  | .obj members =>
    match Json.member? members ("items", false) with
    | some (some items) => Json.asList? Policy.ofJson? items
    | _ => none
  | _ => none

/-- Every part of a policies document must denote a value, also those that are ignored. -/
def isComplete (v : Json) : Bool := v.readable && v.depth ≤ depthLimit

/-- A policies document is an object with items, an array of policies or one policy: the first of
these that fits. -/
def policiesOf? (v : Json) : Option (List Policy) :=
  if isComplete v then
    (itemsOf? v).or ((Json.asList? Policy.ofJson? v).or ((Policy.ofJson? v).map ([·])))
  else none

end Document

end PolicyReach
