import PolicyReach.Proofs.Resolution

/-!
# Models and their index

A model keeps under their ids what applies to the workloads of one topology. Looking a workload up
and resolving it anew come to the same, unless the topology holds another workload under its id.
-/
namespace PolicyReach

/-- Decides a flow without an index: both ends are resolved for it. -/
def PolicySet.evaluate (s : PolicySet) (topology : Topology) (t : Traffic) : Evaluation where
  egress := ((s.resolve t.source).direction .egress).admission t.destination
    (topology.namespaceOf t.destination) t
  ingress := ((s.resolve t.destination).direction .ingress).admission t.source
    (topology.namespaceOf t.source) t

/-- The workload is listed, or nothing is listed under its id. -/
def Resources.Knows (r : Resources) (w : Workload) : Prop :=
  w ∈ r.workloads ∨ ∀ v ∈ r.workloads, v.id ≠ w.id

namespace PolicyModel

variable {s : PolicySet} {r : Resources} {indexed topology : Topology} {w : Workload} {t : Traffic}

theorem workload_build_of_knows (hindexed : indexed.resources = r) (hw : r.Knows w) :
    (build s indexed).workload w = s.resolve w := by
  subst hindexed
  rcases hw with hw | hw
  · exact workload_build_of_mem hw
  · rw [workload_build, Topology.workload?_eq_none_iff.mpr hw, Option.getD_none]

theorem evaluate_eq_of_workload_eq {m : PolicyModel}
    (hsource : m.workload t.source = s.resolve t.source)
    (hdestination : m.workload t.destination = s.resolve t.destination) :
    m.evaluate topology t = s.evaluate topology t := by
  rw [evaluate, admission, admission, hsource, hdestination]
  rfl

/-- From resources that are accepted a model indexes each workload, and nothing else, with what the
policies come to for it. So the model decides as the policies do without any index, for workloads
that the resources list and for those whose ids they do not have. -/
theorem build_agrees_with_resolve (h : Topology.build r = .ok indexed) (s : PolicySet) :
    (∀ w ∈ r.workloads, (build s indexed).get? w.id = some (s.resolve w)) ∧
    (∀ id, (∀ w ∈ r.workloads, w.id ≠ id) → (build s indexed).get? id = none) ∧
    (∀ w, r.Knows w → (build s indexed).workload w = s.resolve w) ∧
    ∀ topology t, r.Knows t.source → r.Knows t.destination →
      (build s indexed).evaluate topology t = s.evaluate topology t := by
  have hindexed := Topology.build_eq_ok_iff.mp h
  refine ⟨fun w hw => ?_, fun id hid => ?_, fun w hw => workload_build_of_knows hindexed hw,
    fun topology t hsource hdestination => ?_⟩
  · subst hindexed
    rw [get?_build, Topology.workload?_id hw, Option.map_some]
  · subst hindexed
    rw [get?_build, Topology.workload?_eq_none_iff.mpr hid, Option.map_none]
  · exact evaluate_eq_of_workload_eq (workload_build_of_knows hindexed hsource)
      (workload_build_of_knows hindexed hdestination)

end PolicyModel

namespace Sample

/-- A workload of which the topology knows nothing. -/
def stranger : Workload := workload "d" 9 (by decide)

/-- Lets nothing reach any pod. -/
def sealed : PolicySet := ⟨[⟨⟨"x", "0"⟩, .all, some [], none⟩]⟩

def noResources : Resources := ⟨[], []⟩

def emptyTopology : Topology := ⟨noResources, _, rfl⟩

/-- The stranger is closed too, and so it is for a model that has indexed nothing. -/
theorem evaluate_of_stranger :
    Topology.build topology.resources = .ok topology ∧
    Topology.build noResources = .ok emptyTopology ∧
    (PolicyModel.build sealed topology).get? a.id = some (sealed.resolve a) ∧
    (PolicyModel.build sealed topology).get? stranger.id = none ∧
    (PolicyModel.build sealed topology).workload stranger = sealed.resolve stranger ∧
    (PolicyModel.build sealed topology).evaluate topology (request a stranger) =
      ⟨.unisolated, .denied⟩ ∧
    (PolicyModel.build sealed emptyTopology).evaluate topology (request a stranger) =
      ⟨.unisolated, .denied⟩ := by
  have hbuild : Topology.build topology.resources = .ok topology := by rfl
  have hempty : Topology.build noResources = .ok emptyTopology := by rfl
  have hdenied : sealed.evaluate topology (request a stranger) = ⟨.unisolated, .denied⟩ := by cbv
  have ha : a ∈ topology.resources.workloads := by decide
  have hstranger : ∀ w ∈ topology.resources.workloads, w.id ≠ stranger.id := by decide
  have hno (w : Workload) : noResources.Knows w := .inr fun _ hmem => absurd hmem List.not_mem_nil
  obtain ⟨hget, hnone, hworkload, heval⟩ :=
    PolicyModel.build_agrees_with_resolve hbuild sealed
  obtain ⟨_, _, _, heval'⟩ := PolicyModel.build_agrees_with_resolve hempty sealed
  exact ⟨hbuild, hempty, hget a ha, hnone stranger.id hstranger,
    hworkload stranger (.inr hstranger),
    (heval topology _ (.inl ha) (.inr hstranger)).trans hdenied,
    (heval' topology _ (hno a) (hno stranger)).trans hdenied⟩

end Sample

end PolicyReach
