import PolicyReach.Explain
import PolicyReach.Report

/-!
# Built-in scenarios

Each recipe is a policies document with the probes that show what it does, over three namespaces of
three pods.
-/
namespace PolicyReach

structure Recipe where
  name : String
  description : String
  policies : List Document.Policy
  probes : List (ProbePort × Protocol)

namespace Recipe

/-! ### Policies in few words -/

def pod (name : String) : Selector := ⟨some (.ofList [("pod", name)]), none⟩

def namespaceNamed (name : String) : Selector := ⟨some (.ofList [("ns", name)]), none⟩

def namespacesAmong (names : List String) : Selector :=
  ⟨none, some [⟨"ns", .isIn, .ofList names⟩]⟩

/-- Selects everything, as an empty object does. -/
def anything : Selector := .all

def tcp (n : UInt16) (h : n ≠ 0 := by decide) : Document.PortRange :=
  .single .tcp (.number n h)

def inX (name : String) (selector : Selector) (types : Option (List Direction))
    (ingress egress : Option (List Document.Rule)) : Document.Policy :=
  .named "x" name ⟨some selector, types, ingress, egress⟩

/-! ### The recipes -/

def denyAllIngress : Recipe where
  name := "deny-all-ingress"
  description := "Isolates every pod in x for ingress without admitting anything"
  policies := [inX "deny-all" anything (some [.ingress]) none none]
  probes := [(.number 80, .tcp)]

def allowByLabel : Recipe where
  name := "allow-by-label"
  description := "Admits traffic to x/a only from pods labeled pod=b in x"
  policies :=
    [inX "allow-b-to-a" (pod "a") none (some [⟨some [.pods (pod "b")], none⟩]) none]
  probes := [(.number 80, .tcp)]

def namespaceSelector : Recipe where
  name := "namespace-selector"
  description := "Admits traffic to x/a from every pod in namespaces y and z"
  policies :=
    [inX "allow-y-and-z" (pod "a") none
      (some [⟨some [.namespaces (namespacesAmong ["y", "z"])], none⟩]) none]
  probes := [(.number 80, .tcp)]

def ipBlockExcept : Recipe where
  name := "ip-block-except"
  description := "Permits egress from x/a to 10.0.0.0/16 except the pods of namespace y"
  policies :=
    [inX "egress-cidr" (pod "a") (some [.egress]) none
      (some [⟨some [.block "10.0.0.0/16" ["10.0.1.0/24"]], none⟩])]
  probes := [(.number 80, .tcp)]

def namedPorts : Recipe where
  name := "named-ports"
  description := "Admits traffic to x only on the container port named serve-81-tcp"
  policies :=
    [inX "allow-serve-81-tcp" anything none
      (some [⟨none, some [⟨none, some (.name "serve-81-tcp"), none⟩]⟩]) none]
  probes := [(.name "serve-81-tcp", .tcp), (.number 80, .tcp), (.number 81, .udp)]

def egressIsolation : Recipe where
  name := "egress-isolation"
  description := "Denies egress from x except to namespace z on TCP/80"
  policies :=
    [inX "deny-egress" anything (some [.egress]) none none,
     inX "allow-egress-to-z" anything (some [.egress]) none
      (some [⟨some [.namespaces (namespaceNamed "z")], some [tcp 80]⟩])]
  probes := [(.number 80, .tcp), (.number 81, .tcp)]

def allNamespaces : Recipe where
  name := "all-namespaces"
  description := "Admits traffic to x from pods labeled pod=a in any namespace"
  policies :=
    [inX "allow-a-anywhere" anything none
      (some [⟨some [⟨some (pod "a"), some anything, none⟩], none⟩]) none]
  probes := [(.number 80, .tcp)]

def dnsEgress : Recipe where
  name := "dns-egress"
  description := "Permits egress from x only to DNS on UDP/53 and TCP/53"
  policies :=
    [inX "allow-dns" anything (some [.egress]) none
      (some [⟨none, some [.single .udp (.number 53 (by decide)), tcp 53]⟩])]
  probes := [(.number 53, .udp), (.number 53, .tcp), (.number 80, .tcp)]

def port5000 : Recipe where
  name := "port-5000"
  description := "Admits traffic to x/a from namespace y on TCP/5000 only"
  policies :=
    [inX "allow-y-on-5000" (pod "a") none
      (some [⟨some [.namespaces (namespaceNamed "y")],
        some [⟨none, some (.number 5000 (by decide)), none⟩]⟩]) none]
  probes := [(.number 5000, .tcp), (.number 80, .tcp)]

def all : List Recipe :=
  [denyAllIngress, allowByLabel, namespaceSelector, ipBlockExcept, namedPorts, egressIsolation,
    allNamespaces, dnsEgress, port5000]

/-! ### The topology of the recipes -/

def namespaceNames : List String := ["x", "y", "z"]

def podNames : List String := ["a", "b", "c"]

def servedPorts : List ContainerPort :=
  [80, 81].flatMap fun port => Protocol.all.map fun protocol =>
    ⟨some ("serve-" ++ toString port.toNat ++ "-" ++ protocol.name.map Char.toLower), port,
      protocol⟩

/-- The address `10.0.i.(j+1)`. -/
def podAddress (i j : Nat) : Address where
  family := .v4
  value := 0xA000000 + i % 256 * 256 + (j + 1) % 256
  inRange := by simp only [Family.width]; omega

def standardResources : Resources where
  namespaces := namespaceNames.map fun ns => ⟨ns, .ofList [("ns", ns)]⟩
  workloads := (namespaceNames.mapIdx fun i ns => podNames.mapIdx fun j name =>
    ⟨ns, name, .ofList [("pod", name)], podAddress i j, servedPorts⟩).flatten

def standardTopology : Topology := ⟨standardResources, _, rfl⟩

/-! ### Running -/

/-- Recipes probe through services. -/
def probeConfigs (r : Recipe) : List Probe :=
  r.probes.map fun (port, protocol) => ⟨port, protocol, .serviceName⟩

def tables (r : Recipe) (model : PolicyModel) (topology : Topology) : List Table :=
  r.probeConfigs.map fun probe => .expected model topology probe false

def report (r : Recipe) (topology : Topology) : Except Invalid String := do
  let model ← PolicyModel.compile r.policies topology
  return "=== " ++ r.name ++ ": " ++ r.description ++ " ===\n\n" ++
    "Policies:\n" ++ model.policies.explain ++ "\n\n" ++
    String.join ((r.tables model topology).map fun t => t.report true false)

end Recipe

end PolicyReach
