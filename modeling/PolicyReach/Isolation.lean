import PolicyReach.PolicySet

/-!
# What applies to a workload

Every policy that selects a workload contributes to it. Contributions are united: the workload is
isolated in a direction if some contribution declares that direction, and it then admits what one
of the rules admits.
-/
namespace PolicyReach

/-- A rule with the policy that lists it and its place there. -/
structure TargetRule where
  policy : PolicyRef
  index : Nat
  rule : Rule
  deriving DecidableEq

structure DirectionPolicy where
  isolatedBy : SortedSet PolicyRef
  rules : List TargetRule
  deriving DecidableEq

structure WorkloadPolicy where
  ingress : DirectionPolicy
  egress : DirectionPolicy
  deriving DecidableEq

namespace TargetRule

/-- The order of attributed rules: by policy, then by their place in it. -/
def le (a b : TargetRule) : Bool :=
  (compareLex (compareOn TargetRule.policy) (compareOn TargetRule.index) a b).isLE

end TargetRule

namespace DirectionPolicy

def unisolated : DirectionPolicy := ⟨.empty, []⟩

def isIsolated (p : DirectionPolicy) : Bool := !p.isolatedBy.isEmpty

def attributed (policy : PolicyRef) (rules : List Rule) : List TargetRule :=
  rules.mapIdx fun index rule => ⟨policy, index, rule⟩

/-- What a policy with the given rules contributes, or one that does not declare the direction. -/
def declared (policy : PolicyRef) : Option (List Rule) → DirectionPolicy
  | none => unisolated
  | some rules => ⟨SortedSet.empty.insert policy, attributed policy rules⟩

/-- Rules are sorted, so that the order in which contributions are united does not show. -/
def union (a b : DirectionPolicy) : DirectionPolicy :=
  ⟨a.isolatedBy.union b.isolatedBy, (a.rules ++ b.rules).mergeSort TargetRule.le⟩

end DirectionPolicy

namespace WorkloadPolicy

def unisolated : WorkloadPolicy := ⟨.unisolated, .unisolated⟩

def direction (p : WorkloadPolicy) : Direction → DirectionPolicy
  | .ingress => p.ingress
  | .egress => p.egress

def union (a b : WorkloadPolicy) : WorkloadPolicy :=
  ⟨a.ingress.union b.ingress, a.egress.union b.egress⟩

end WorkloadPolicy

def Policy.contribution (p : Policy) : WorkloadPolicy :=
  ⟨.declared p.id (p.rules .ingress), .declared p.id (p.rules .egress)⟩

def PolicySet.resolve (s : PolicySet) (w : Workload) : WorkloadPolicy :=
  ((s.policies.filter (·.selects w)).map Policy.contribution).foldl .union .unisolated

end PolicyReach
