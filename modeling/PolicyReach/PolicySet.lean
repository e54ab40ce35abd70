import PolicyReach.Document
import PolicyReach.Rule

/-!
# Sets of compiled policies

Compiling a document checks all that it declares and turns it into rules. One malformed document
fails the whole set: leaving it out would change which workloads are isolated.
-/
namespace PolicyReach

structure PolicyRef where
  ns : String
  name : String
  deriving DecidableEq

structure RuleRef where
  policy : PolicyRef
  direction : Direction
  index : Nat
  deriving DecidableEq

structure Policy where
  id : PolicyRef
  target : Selector
  /-- The rules for a direction, if the policy declares it. -/
  ingress : Option (List Rule)
  egress : Option (List Rule)
  deriving DecidableEq

/-- The member of a peer that holds a selector. -/
inductive SelectorField where
  | pods
  | namespaces
  deriving DecidableEq

inductive Invalid where
  | missingNamespace (name : Option String)
  | missingName (ns : String)
  | missingPodSelector (policy : PolicyRef)
  | duplicate (policy : PolicyRef)
  | invalidTarget (policy : PolicyRef) (source : SelectorError)
  | invalidPeerSelector (rule : RuleRef) (field : SelectorField) (source : SelectorError)
  | emptyPeer (rule : RuleRef)
  | ambiguousPeer (rule : RuleRef)
  | invalidCidr (rule : RuleRef) (cidr : String)
  | exceptOutsideCidr (rule : RuleRef) (cidr except : Network)
  | endPortWithoutNumber (rule : RuleRef) (endPort : UInt16)
  | invalidPortRange (rule : RuleRef) (first last : UInt16)
  deriving DecidableEq

namespace PolicyRef

def text (id : PolicyRef) : String := id.ns ++ "/" ++ id.name

instance : Ord PolicyRef := ⟨compareLex (compareOn (·.ns)) (compareOn (·.name))⟩

instance : Std.TransOrd PolicyRef :=
  inferInstanceAs (Std.TransCmp (compareLex (compareOn PolicyRef.ns) (compareOn PolicyRef.name)))

instance : Std.LawfulEqOrd PolicyRef where
  eq_of_compare {a b} h := by
    have h := compareLex_eq_eq.mp h
    have hns := Std.LawfulEqOrd.eq_of_compare (α := String) h.1
    have hname := Std.LawfulEqOrd.eq_of_compare (α := String) h.2
    cases a; cases b; simp_all

end PolicyRef

def RuleRef.text (r : RuleRef) : String :=
  "policy " ++ r.policy.text ++ " " ++ r.direction.text ++ " rule " ++ toString r.index

def SelectorField.text : SelectorField → String
  | .pods => "podSelector"
  | .namespaces => "namespaceSelector"

namespace Invalid

def message : Invalid → String
  | .missingNamespace name => "policy " ++ Text.quotedOption name ++ " has no namespace"
  | .missingName ns => "policy in namespace " ++ ns ++ " has no name"
  | .missingPodSelector policy => "policy " ++ policy.text ++ " has no pod selector"
  | .duplicate policy => "policy " ++ policy.text ++ " is defined more than once"
  | .invalidTarget policy source =>
    "policy " ++ policy.text ++ " has an invalid pod selector: " ++ source.message
  | .invalidPeerSelector rule field source =>
    rule.text ++ " has an invalid " ++ field.text ++ ": " ++ source.message
  | .emptyPeer rule => rule.text ++ " has a peer with neither selectors nor an IP block"
  | .ambiguousPeer rule => rule.text ++ " has a peer that combines an IP block with selectors"
  | .invalidCidr rule cidr => rule.text ++ " has an invalid CIDR " ++ Text.quoted cidr
  | .exceptOutsideCidr rule cidr except =>
    rule.text ++ " excepts " ++ except.text ++ ", which is not within " ++ cidr.text
  | .endPortWithoutNumber rule endPort =>
    rule.text ++ " sets endPort " ++ toString endPort.toNat ++ " without a numeric port"
  | .invalidPortRange rule first last =>
    rule.text ++ " sets endPort " ++ toString last.toNat ++ " below port " ++ toString first.toNat

/-- The selector's error that is behind this one. -/
def source? : Invalid → Option SelectorError
  | .invalidTarget _ source | .invalidPeerSelector _ _ source => some source
  | _ => none

end Invalid

/-! ### Compiling -/

def compileBlock (rule : RuleRef) (cidr : String) : Except Invalid Network :=
  match Network.parseBlock? cidr with
  | some net => .ok net
  | none => .error (.invalidCidr rule cidr)

def compileExcept (rule : RuleRef) (net : Network) (cidr : String) : Except Invalid Network := do
  let except ← compileBlock rule cidr
  if net.covers except then return except
  else throw (.exceptOutsideCidr rule net except)

def checkSelector (rule : RuleRef) (field : SelectorField) (s : Selector) : Except Invalid Unit :=
  match s.check with
  | .ok () => .ok ()
  | .error e => .error (.invalidPeerSelector rule field e)

/-- A peer without a namespace selector is in the policy's own namespace. -/
def compilePeer (rule : RuleRef) (p : Document.Peer) : Except Invalid PeerMatch :=
  match p.ipBlock, p.podSelector, p.namespaceSelector with
  | some block, none, none => do
    let net ← compileBlock rule block.cidr
    let except ← (block.except.getD []).mapM (compileExcept rule net)
    return .network ⟨net, except⟩
  | some _, _, _ => .error (.ambiguousPeer rule)
  | none, none, none => .error (.emptyPeer rule)
  | none, pods, namespaces => do
    let pods := pods.getD .all
    checkSelector rule .pods pods
    match namespaces with
    | some s =>
      checkSelector rule .namespaces s
      return .workloads (.selected s) pods
    | none => return .workloads (.named rule.policy.ns) pods

def compilePort (rule : RuleRef) (p : Document.PortRange) : Except Invalid PortMatch :=
  let protocol := p.protocol.getD .tcp
  match p.port, p.endPort with
  | none, none => .ok (.all protocol)
  | some (.number n _), none => .ok (.number protocol n)
  | some (.number n _), some last =>
    if last < n then .error (.invalidPortRange rule n last) else .ok (.range protocol n last)
  | some (.name s), none => .ok (.name protocol s)
  | some (.name _), some last | none, some last => .error (.endPortWithoutNumber rule last)

def compileRule (rule : RuleRef) (r : Document.Rule) : Except Invalid Rule := do
  let peers ← (r.peers.getD []).mapM (compilePeer rule)
  let ports ← (r.ports.getD []).mapM (compilePort rule)
  return ⟨peers, ports⟩

/-- Compiles rules of which the first has the given index. -/
def compileRules (policy : PolicyRef) (d : Direction) (index : Nat) :
    List Document.Rule → Except Invalid (List Rule)
  | [] => .ok []
  | r :: rest => do
    let rule ← compileRule ⟨policy, d, index⟩ r
    let rules ← compileRules policy d (index + 1) rest
    return rule :: rules

/-- Rules of a direction that is not declared are not looked at. -/
def compileDirection (policy : PolicyRef) (doc : Document.Policy) (d : Direction) :
    Except Invalid (Option (List Rule)) :=
  if doc.declares d then (compileRules policy d 0 (doc.rules d)).map some else .ok none

/-- The identity and the target of a document. -/
def compileTarget (doc : Document.Policy) : Except Invalid (PolicyRef × Selector) :=
  match doc.metadata.ns, doc.metadata.name, doc.spec.podSelector with
  | none, name, _ => .error (.missingNamespace name)
  | some ns, none, _ => .error (.missingName ns)
  | some ns, some name, none => .error (.missingPodSelector ⟨ns, name⟩)
  | some ns, some name, some target =>
    match target.check with
    | .ok () => .ok (⟨ns, name⟩, target)
    | .error e => .error (.invalidTarget ⟨ns, name⟩ e)

namespace Policy

def compile (doc : Document.Policy) : Except Invalid Policy := do
  let (id, target) ← compileTarget doc
  let ingress ← compileDirection id doc .ingress
  let egress ← compileDirection id doc .egress
  return ⟨id, target, ingress, egress⟩

def selects (p : Policy) (w : Workload) : Bool :=
  w.ns == p.id.ns && p.target.selects w.labels

def rules (p : Policy) : Direction → Option (List Rule)
  | .ingress => p.ingress
  | .egress => p.egress

end Policy

/-- Policies in strictly ascending order of their ids. -/
structure PolicySet where
  policies : List Policy
  deriving DecidableEq

namespace PolicySet

def idLe (p q : Policy) : Bool := (compare p.id q.id).isLE

/-- The first policy whose successor has the same id. -/
def firstDuplicate? : List Policy → Option PolicyRef
  | p :: q :: rest => if p.id = q.id then some p.id else firstDuplicate? (q :: rest)
  | _ => none

def compile (docs : List Document.Policy) : Except Invalid PolicySet := do
  let policies := (← docs.mapM Policy.compile).mergeSort idLe
  match firstDuplicate? policies with
  | some id => throw (.duplicate id)
  | none => return ⟨policies⟩

/-- Looks for an id in the middle of what is left, then in the half where it must be. -/
def search (id : PolicyRef) (policies : Array Policy) : Nat → Nat → Option Policy
  | lo, hi =>
    if _h : lo < hi then
      let mid := (lo + hi) / 2
      match policies[mid]? with
      | none => none
      | some p =>
        match compare p.id id with
        | .eq => some p
        | .lt => search id policies (mid + 1) hi
        | .gt => search id policies lo mid
    else none
termination_by lo hi => hi - lo

def get? (s : PolicySet) (id : PolicyRef) : Option Policy :=
  search id s.policies.toArray 0 s.policies.length

end PolicySet

end PolicyReach
