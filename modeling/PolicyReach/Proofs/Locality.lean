import PolicyReach.Proofs.Semantics
import PolicyReach.Proofs.Table

/-!
# What a decision depends on

A flow is decided by its two workloads, the labels of their namespaces and the documents that govern
them for the direction at hand. The rest of a cluster does not show in the decision, so a table over
some of the workloads agrees with the table over all of them.
-/
namespace PolicyReach

variable {d : Direction} {w : Workload} {t : Traffic}

/-! ### Views -/

/-- Both topologies hold the two workloads of a flow, in namespaces with the same labels. -/
def Topology.AgreeOn (topology topology' : Topology) (t : Traffic) : Prop :=
  ∀ d, t.subject d ∈ topology.workloads ∧ t.subject d ∈ topology'.workloads ∧
    (topology.namespaceOf (t.subject d)).labels = (topology'.namespaceOf (t.subject d)).labels

/-- Both lists hold the same documents among those that govern the source of a flow for egress, and
among those that govern its destination for ingress. -/
def Document.AgreeOn (docs docs' : List Document.Policy) (t : Traffic) : Prop :=
  ∀ d doc, doc.Governs (t.subject d) → doc.Declares d → (doc ∈ docs ↔ doc ∈ docs')

/-- Both sets hold the same policies among those that isolate a workload in a direction. -/
def PolicySet.AgreeOn (s u : PolicySet) (d : Direction) (w : Workload) : Prop :=
  ∀ p, p.isolates d w = true → (p ∈ s.policies ↔ p ∈ u.policies)

namespace Topology

/-- A namespace is told by its name, which is that of its workloads, and by its labels. -/
theorem namespaceOf_eq_of_labels {topology topology' : Topology}
    (h : (topology.namespaceOf w).labels = (topology'.namespaceOf w).labels) :
    topology.namespaceOf w = topology'.namespaceOf w := by
  have hname : (topology.namespaceOf w).name = (topology'.namespaceOf w).name := by
    rw [namespaceOf_name, namespaceOf_name]
  cases hns : topology.namespaceOf w
  cases hns' : topology'.namespaceOf w
  simp_all

/-- The peer on one side of a flow is the subject on the other side. -/
theorem AgreeOn.namespaceOf_peer {topology topology' : Topology} (h : topology.AgreeOn topology' t)
    (d : Direction) :
    topology.namespaceOf (t.peer d) = topology'.namespaceOf (t.peer d) := by
  cases d with
  | ingress => exact namespaceOf_eq_of_labels (h .egress).2.2
  | egress => exact namespaceOf_eq_of_labels (h .ingress).2.2

/-- Workloads can be left out and rearranged. -/
theorem exists_build_of_subperm {topology : Topology} {ws : List Workload}
    (h : ws.Subperm topology.workloads) :
    ∃ topology', build ⟨topology.namespaces, ws⟩ = .ok topology' := by
  obtain ⟨hnames, hlisted, hports, hids⟩ := topology.consistent
  refine exists_build ⟨hnames, fun w hw => hlisted w (h.subset hw),
    fun w hw => hports w (h.subset hw), ?_⟩
  obtain ⟨sub, hperm, hsub⟩ := h
  exact (hperm.map Workload.id).nodup_iff.mp (hids.sublist (hsub.map Workload.id))

end Topology

/-! ### Sets of policies -/

namespace PolicySet

variable {s u : PolicySet} {peer : Workload} {ns : Namespace}

theorem AgreeOn.exists_iff (h : s.AgreeOn u d w) {P : Policy → Prop} :
    (∃ p ∈ s.policies, p.isolates d w = true ∧ P p) ↔
      ∃ p ∈ u.policies, p.isolates d w = true ∧ P p := by
  constructor
  · rintro ⟨p, hp, hiso, hP⟩
    exact ⟨p, (h p hiso).mp hp, hiso, hP⟩
  · rintro ⟨p, hp, hiso, hP⟩
    exact ⟨p, (h p hiso).mpr hp, hiso, hP⟩

/-- Policies that do not isolate a workload have no part in what it admits, not even in the set of
policies by which it does. -/
theorem AgreeOn.admission_eq (h : s.AgreeOn u d w) :
    ((s.resolve w).direction d).admission peer ns t =
      ((u.resolve w).direction d).admission peer ns t := by
  refine admission_resolve_congr ?_ fun id => h.exists_iff
  have hex := h.exists_iff (P := fun _ => True)
  simpa only [and_true] using hex

/-- Sets agree on a workload as far as their documents do. -/
theorem agreeOn_of_compile {docs docs' : List Document.Policy}
    (hs : PolicySet.compile docs = .ok s) (hu : PolicySet.compile docs' = .ok u)
    (h : ∀ doc : Document.Policy, doc.Governs w → doc.Declares d → (doc ∈ docs ↔ doc ∈ docs')) :
    s.AgreeOn u d w := by
  intro p hiso
  rw [mem_policies_iff hs, mem_policies_iff hu]
  refine exists_congr fun doc => and_congr_left fun hcompile => ?_
  obtain ⟨hgoverns, hdeclares⟩ := (Policy.isolates_iff_of_compile hcompile).mp hiso
  exact h doc hgoverns hdeclares

end PolicySet

/-! ### Models -/

namespace PolicyModel

variable {docs docs' : List Document.Policy} {topology topology' : Topology} {m m' : PolicyModel}

theorem evaluate_eq_of_agreeOn (hm : PolicyModel.compile docs topology = .ok m)
    (hm' : PolicyModel.compile docs' topology' = .ok m') (htopology : topology.AgreeOn topology' t)
    (hdocs : Document.AgreeOn docs docs' t) : m'.evaluate topology' t = m.evaluate topology t := by
  obtain ⟨s, hs, rfl⟩ := compile_eq_ok_iff.mp hm
  obtain ⟨u, hu, rfl⟩ := compile_eq_ok_iff.mp hm'
  refine Evaluation.ext_side fun d => ?_
  obtain ⟨hmem, hmem', _⟩ := htopology d
  rw [side_evaluate_build, side_evaluate_build, Topology.workload?_id hmem,
    Topology.workload?_id hmem', htopology.namespaceOf_peer d]
  exact (PolicySet.agreeOn_of_compile hs hu (hdocs d)).admission_eq.symm

/-- Over some of the workloads, the same documents predict the same cells. -/
theorem get?_expected_of_subset (hm : PolicyModel.compile docs topology = .ok m)
    (hm' : PolicyModel.compile docs topology' = .ok m')
    (hnamespaces : topology'.namespaces = topology.namespaces)
    (hworkloads : topology'.workloads ⊆ topology.workloads) {probe : Probe} {b b' : Bool}
    {source destination : WorkloadId} (hsource : source ∈ topology'.ids)
    (hdestination : destination ∈ topology'.ids) (hflag : b = b' ∨ source ≠ destination) :
    (Table.expected m' topology' probe b').get? source destination =
      (Table.expected m topology probe b).get? source destination := by
  obtain ⟨v, hv, rfl⟩ := List.mem_map.mp hsource
  obtain ⟨w, hw, rfl⟩ := List.mem_map.mp hdestination
  have hcell : Table.expectedCell m' topology' probe v w =
      Table.expectedCell m topology probe v w := by
    rw [Table.expectedCell, Table.expectedCell]
    cases probe.resolve w with
    | none => rfl
    | some port =>
      have hagree : topology.AgreeOn topology' ⟨v, w, probe.protocol, port⟩ := by
        intro d
        have hmem : (⟨v, w, probe.protocol, port⟩ : Traffic).subject d ∈ topology'.workloads := by
          cases d with
          | ingress => exact hw
          | egress => exact hv
        refine ⟨hworkloads hmem, hmem, ?_⟩
        rw [Topology.namespaceOf_congr hnamespaces]
      have heval := evaluate_eq_of_agreeOn hm hm' hagree fun _ _ _ _ => Iff.rfl
      simp only [heval]
  rw [Table.expected, Table.expected, Table.get?_tabulate hv hw,
    Table.get?_tabulate (hworkloads hv) (hworkloads hw), hcell]
  rcases hflag with rfl | hne
  · rfl
  · rw [beq_false_of_ne hne, Bool.and_false, Bool.and_false]

/-- A decision depends on its flow, on the labels of its two namespaces and on the documents about
its two sides. So workloads can be left out of a topology, or come in another order, and the cells
of the other pairs stay what they are. -/
theorem evaluate_local (h : PolicyModel.compile docs topology = .ok m) :
    (∀ docs' topology' m' t, PolicyModel.compile docs' topology' = .ok m' →
      topology.AgreeOn topology' t → Document.AgreeOn docs docs' t →
      m'.evaluate topology' t = m.evaluate topology t) ∧
    ∀ ws : List Workload, ws.Subperm topology.workloads →
      ∃ topology' m', Topology.build ⟨topology.namespaces, ws⟩ = .ok topology' ∧
        PolicyModel.compile docs topology' = .ok m' ∧
        ∀ probe b b', ∀ source ∈ topology'.ids, ∀ destination ∈ topology'.ids,
          b = b' ∨ source ≠ destination →
          (Table.expected m' topology' probe b').get? source destination =
            (Table.expected m topology probe b).get? source destination := by
  refine ⟨fun _ _ _ _ hm' => evaluate_eq_of_agreeOn h hm', fun ws hws => ?_⟩
  obtain ⟨topology', hbuild⟩ := Topology.exists_build_of_subperm hws
  have hresources := Topology.build_eq_ok_iff.mp hbuild
  have hnamespaces : topology'.namespaces = topology.namespaces := by
    rw [Topology.namespaces, hresources]
  have hworkloads : topology'.workloads ⊆ topology.workloads := by
    rw [Topology.workloads, hresources]
    exact hws.subset
  obtain ⟨s, hs, _⟩ := compile_eq_ok_iff.mp h
  have hm' : PolicyModel.compile docs topology' = .ok (build s topology') :=
    compile_eq_ok_iff.mpr ⟨s, hs, rfl⟩
  exact ⟨topology', build s topology', hbuild, hm', fun _ _ _ _ hsource _ hdestination hflag =>
    get?_expected_of_subset h hm' hnamespaces hworkloads hsource hdestination hflag⟩

end PolicyModel

namespace Sample

/-- A topology with a namespace and a workload that `a` and `b` have nothing to do with. -/
def crowd : Topology :=
  ⟨⟨[⟨"y", .empty⟩, ⟨"x", .empty⟩],
    [⟨"y", "c", .empty, ⟨.v4, 9, by decide⟩, []⟩, b, a]⟩, _, rfl⟩

/-- A document about another namespace. -/
def closeY : Document.Policy := .named "y" "3" ⟨some .all, none, none, none⟩

/-- Neither the crowd nor the document about its namespace shows in the requests between `a` and
`b`, nor does leaving `a` out of the topology show in the cell of `b`. -/
theorem evaluate_in_crowd :
    PolicyModel.compile [guardA, closeB] topology = .ok model ∧
    (∃ m', PolicyModel.compile [closeY, closeB, guardA] crowd = .ok m' ∧
      topology.AgreeOn crowd (request a b) ∧
      Document.AgreeOn [guardA, closeB] [closeY, closeB, guardA] (request a b) ∧
      m'.evaluate crowd (request a b) = model.evaluate topology (request a b)) ∧
    [b].Subperm topology.workloads ∧
    ∃ topology' m', Topology.build ⟨topology.namespaces, [b]⟩ = .ok topology' ∧
      PolicyModel.compile [guardA, closeB] topology' = .ok m' ∧
      ∀ probe b b', ∀ source ∈ topology'.ids, ∀ destination ∈ topology'.ids,
        b = b' ∨ source ≠ destination →
        (Table.expected m' topology' probe b').get? source destination =
          (Table.expected model topology probe b).get? source destination := by
  obtain ⟨hevaluate, htable⟩ := PolicyModel.evaluate_local compile_docs
  have hsub : [b].Subperm topology.workloads := ⟨[b], .refl _, by decide⟩
  have hview : topology.AgreeOn crowd (request a b) := by
    intro d
    cases d with
    | ingress => decide
    | egress => decide
  have hdocs : Document.AgreeOn [guardA, closeB] [closeY, closeB, guardA] (request a b) := by
    intro d doc hgoverns _
    -- The document that only one list holds governs no workload of this namespace.
    have hne : doc ≠ closeY := by
      rintro rfl
      cases d with
      | ingress => exact absurd hgoverns.1 (by decide)
      | egress => exact absurd hgoverns.1 (by decide)
    simp only [List.mem_cons, hne, false_or, List.not_mem_nil, or_false]
    exact or_comm
  obtain ⟨m', hm'⟩ : ∃ m', PolicyModel.compile [closeY, closeB, guardA] crowd = .ok m' :=
    ⟨.build ⟨[policyA, policyB, ⟨⟨"y", "3"⟩, .all, some [], none⟩]⟩ crowd, by cbv⟩
  exact ⟨compile_docs, ⟨m', hm', hview, hdocs, hevaluate _ _ m' _ hm' hview hdocs⟩, hsub,
    htable [b] hsub⟩

end Sample

end PolicyReach
