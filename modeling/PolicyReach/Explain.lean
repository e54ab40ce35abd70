import PolicyReach.PolicySet
import PolicyReach.Text.Grid

/-!
# Explaining a policy set

A table with a row for each rule, and one for each declared direction that has no rule.
-/
namespace PolicyReach

namespace Rule

def peersText (r : Rule) : String :=
  if r.peers.isEmpty then "all" else String.intercalate "\n" (r.peers.map PeerMatch.text)

def portsText (r : Rule) : String :=
  if r.ports.isEmpty then "all" else String.intercalate "\n" (r.ports.map PortMatch.text)

end Rule

namespace Policy

def explainRow (p : Policy) (d : Direction) (peers ports : String) : List String :=
  [p.id.text, "pods[" ++ p.target.text ++ "]", d.text, peers, ports]

def explainRows (p : Policy) (d : Direction) : List (List String) :=
  match p.rules d with
  | none => []
  | some [] => [p.explainRow d "(none: deny all)" "-"]
  | some rules => rules.map fun r => p.explainRow d r.peersText r.portsText

end Policy

namespace PolicySet

def explainRows (s : PolicySet) : List (List String) :=
  s.policies.flatMap fun p => p.explainRows .ingress ++ p.explainRows .egress

def explain (s : PolicySet) : String :=
  Text.grid (["Policy", "Target", "Direction", "Peers", "Ports"] :: s.explainRows)

end PolicySet

end PolicyReach
