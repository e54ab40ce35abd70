import PolicyReach.Isolation

/-!
# Policy models

A model is a policy set together with what applies to each workload of a topology.
-/
namespace PolicyReach

structure PolicyModel where
  policies : PolicySet
  workloads : SortedMap WorkloadId WorkloadPolicy
  deriving DecidableEq

namespace PolicyModel

def build (policies : PolicySet) (topology : Topology) : PolicyModel where
  policies := policies
  workloads := .ofList (topology.workloads.map fun w => (w.id, policies.resolve w))

def compile (docs : List Document.Policy) (topology : Topology) : Except Invalid PolicyModel :=
  (PolicySet.compile docs).map (build · topology)

def get? (m : PolicyModel) (id : WorkloadId) : Option WorkloadPolicy := m.workloads.get? id

/-- A workload that the topology did not hold is resolved when it is asked for. -/
def workload (m : PolicyModel) (w : Workload) : WorkloadPolicy :=
  (m.get? w.id).getD (m.policies.resolve w)

end PolicyModel

end PolicyReach
