import PolicyReach.Labels
import PolicyReach.Network
import PolicyReach.Protocol

/-!
# Namespaces and workloads

A topology lists namespaces and workloads in the order in which they were given; every table over it
keeps that order.
-/
namespace PolicyReach

structure WorkloadId where
  ns : String
  name : String
  deriving DecidableEq

structure Namespace where
  name : String
  labels : Labels
  deriving DecidableEq

structure ContainerPort where
  name : Option String
  port : UInt16
  protocol : Protocol
  deriving DecidableEq

structure Workload where
  ns : String
  name : String
  labels : Labels
  ip : Address
  ports : List ContainerPort
  deriving DecidableEq

/-- What a resources document lists. -/
structure Resources where
  namespaces : List Namespace
  workloads : List Workload
  deriving DecidableEq

inductive TopologyError where
  | duplicateNamespace (name : String)
  | duplicateWorkload (id : WorkloadId)
  | unknownNamespace (id : WorkloadId) (ns : String)
  | invalidPort (id : WorkloadId)
  deriving DecidableEq

namespace WorkloadId

def text (id : WorkloadId) : String := id.ns ++ "/" ++ id.name

instance : Ord WorkloadId := ⟨compareLex (compareOn (·.ns)) (compareOn (·.name))⟩

instance : Std.TransOrd WorkloadId :=
  inferInstanceAs (Std.TransCmp (compareLex (compareOn WorkloadId.ns) (compareOn WorkloadId.name)))

instance : Std.LawfulEqOrd WorkloadId where
  eq_of_compare {a b} h := by
    have h := compareLex_eq_eq.mp h
    have hns := Std.LawfulEqOrd.eq_of_compare (α := String) h.1
    have hname := Std.LawfulEqOrd.eq_of_compare (α := String) h.2
    cases a; cases b; simp_all

end WorkloadId

namespace TopologyError

def message : TopologyError → String
  | .duplicateNamespace name => "namespace " ++ name ++ " is defined more than once"
  | .duplicateWorkload id => "workload " ++ id.text ++ " is defined more than once"
  | .unknownNamespace id ns => "workload " ++ id.text ++ " references unknown namespace " ++ ns
  | .invalidPort id => "workload " ++ id.text ++ " declares container port 0"

end TopologyError

namespace Namespace

def ofJson? (v : Json) : Option Namespace := do
  match ← v.record? [("name", false), ("labels", true)] with
  | [some name, labels] =>
    return ⟨← name.asString?, ← Json.orElse .empty Labels.ofJson? labels⟩
  | _ => none

def toJson (n : Namespace) : Json :=
  .obj [("name", .str n.name), ("labels", Labels.toJson n.labels)]

end Namespace

/-- A port number, which may be 0 in a document. -/
def portNumber? (v : Json) : Option UInt16 := (v.asNat? 0x10000).map UInt16.ofNat

namespace ContainerPort

def ofJson? (v : Json) : Option ContainerPort := do
  match ← v.record? [("name", true), ("port", false), ("protocol", true)] with
  | [name, some port, protocol] =>
    let name ← Json.nullable Json.asString? name
    let port ← portNumber? port
    let protocol ← Json.orElse .tcp Protocol.ofJson? protocol
    return ⟨name, port, protocol⟩
  | _ => none

def toJson (p : ContainerPort) : Json :=
  .obj (Json.optional "name" .str p.name ++
    [("port", .ofNat p.port.toNat), ("protocol", p.protocol.toJson)])

end ContainerPort

namespace Workload

def id (w : Workload) : WorkloadId := ⟨w.ns, w.name⟩

/-- The number of the first port that is declared under the name for the protocol. -/
def resolvePort (w : Workload) (name : String) (protocol : Protocol) : Option UInt16 :=
  (w.ports.find? fun p => p.protocol = protocol && p.name = some name).map (·.port)

def ofJson? (v : Json) : Option Workload := do
  match ← v.record?
      [("namespace", false), ("name", false), ("labels", true), ("ip", false), ("ports", true)] with
  | [some ns, some name, labels, some ip, ports] =>
    let ns ← ns.asString?
    let name ← name.asString?
    let labels ← Json.orElse .empty Labels.ofJson? labels
    let ip ← Address.parse? (← ip.asString?)
    let ports ← Json.orElse [] (Json.asList? ContainerPort.ofJson?) ports
    return ⟨ns, name, labels, ip, ports⟩
  | _ => none

def toJson (w : Workload) : Json :=
  .obj [("namespace", .str w.ns), ("name", .str w.name), ("labels", Labels.toJson w.labels),
    ("ip", .str w.ip.text), ("ports", .arr (w.ports.map ContainerPort.toJson))]

end Workload

namespace Resources

/-- At which places in their lists namespaces and workloads stand. -/
structure Index where
  namespaces : SortedMap String Nat
  workloads : SortedMap WorkloadId Nat
  deriving DecidableEq

/-- Gives namespaces their places under their names, which may not be taken yet. -/
def indexNamespaces (index : SortedMap String Nat) (place : Nat) :
    List Namespace → Except TopologyError (SortedMap String Nat)
  | [] => .ok index
  | n :: rest =>
    if index.contains n.name then .error (.duplicateNamespace n.name)
    else indexNamespaces (index.insert n.name place) (place + 1) rest

/-- Gives workloads of known namespaces their places under their ids, which may not be taken yet. -/
def indexWorkloads (known : SortedMap String Nat) (index : SortedMap WorkloadId Nat) (place : Nat) :
    List Workload → Except TopologyError (SortedMap WorkloadId Nat)
  | [] => .ok index
  | w :: rest =>
    if !known.contains w.ns then .error (.unknownNamespace w.id w.ns)
    else if w.ports.any (·.port == 0) then .error (.invalidPort w.id)
    else if index.contains w.id then .error (.duplicateWorkload w.id)
    else indexWorkloads known (index.insert w.id place) (place + 1) rest

/-- Checks what is listed while it is indexed. -/
def index (r : Resources) : Except TopologyError Index := do
  let namespaces ← indexNamespaces .empty 0 r.namespaces
  let workloads ← indexWorkloads namespaces .empty 0 r.workloads
  return ⟨namespaces, workloads⟩

def ofJson? (v : Json) : Option Resources := do
  match ← v.record? [("namespaces", true), ("workloads", true)] with
  | [namespaces, workloads] =>
    let namespaces ← Json.orElse [] (Json.asList? Namespace.ofJson?) namespaces
    let workloads ← Json.orElse [] (Json.asList? Workload.ofJson?) workloads
    return ⟨namespaces, workloads⟩
  | _ => none

def toJson (r : Resources) : Json :=
  .obj [("namespaces", .arr (r.namespaces.map Namespace.toJson)),
    ("workloads", .arr (r.workloads.map Workload.toJson))]

end Resources

/-- Resources that have been indexed, which only those can be that are in order. -/
structure Topology where
  resources : Resources
  index : Resources.Index
  valid : resources.index = .ok index
  deriving DecidableEq

namespace Topology

def build (r : Resources) : Except TopologyError Topology :=
  match h : r.index with
  | .ok index => .ok ⟨r, index, h⟩
  | .error e => .error e

def namespaces (t : Topology) : List Namespace := t.resources.namespaces

def workloads (t : Topology) : List Workload := t.resources.workloads

def ids (t : Topology) : List WorkloadId := t.workloads.map (·.id)

def namespace? (t : Topology) (name : String) : Option Namespace :=
  (t.index.namespaces.get? name).bind fun place => t.namespaces[place]?

def workload? (t : Topology) (id : WorkloadId) : Option Workload :=
  (t.index.workloads.get? id).bind fun place => t.workloads[place]?

end Topology

end PolicyReach
