import PolicyReach.Proofs.Resolution

/-!
# Admissions of joined policy sets

How a side decides under two policy sets together is the join of how it decides under each. Adding
policies therefore only ever denies what no policy was about before.
-/
namespace PolicyReach

/-- An undecided side gives way to any other, and one that denies to one that allows. -/
def Admission.join : Admission → Admission → Admission
  | .unisolated, b => b
  | a, .unisolated => a
  | .denied, b => b
  | a, .denied => a
  | .allowed ps, .allowed qs => .allowed (ps.union qs)

/-- The namespace and the name under which a document is known. -/
def Document.Policy.HasId (doc : Document.Policy) (id : PolicyRef) : Prop :=
  doc.metadata.ns = some id.ns ∧ doc.metadata.name = some id.name

theorem Policy.hasId_of_compile {doc : Document.Policy} {p : Policy}
    (h : Policy.compile doc = .ok p) : doc.HasId p.id :=
  ⟨compile_ns h, compile_name h⟩

theorem Document.Policy.HasId.unique {doc : Document.Policy} {a b : PolicyRef} (ha : doc.HasId a)
    (hb : doc.HasId b) : a = b := by
  obtain ⟨ns, name⟩ := a
  obtain ⟨ns', name'⟩ := b
  have hns : ns = ns' := Option.some.inj (ha.1.symm.trans hb.1)
  have hname : name = name' := Option.some.inj (ha.2.symm.trans hb.2)
  rw [hns, hname]

/-- Where no policy isolates there is none that admits, so the parts of a decision join. -/
theorem DirectionPolicy.admission_join {r p q : DirectionPolicy} {peer : Workload}
    {ns : Namespace} {t : Traffic} (hiso : r.isIsolated = (p.isIsolated || q.isIsolated))
    (hadm : r.admitting peer ns t = (p.admitting peer ns t).union (q.admitting peer ns t))
    (hp : p.isIsolated = false → p.admitting peer ns t = .empty)
    (hq : q.isIsolated = false → q.admitting peer ns t = .empty) :
    r.admission peer ns t = (p.admission peer ns t).join (q.admission peer ns t) := by
  simp only [admission, hiso, hadm, SortedSet.isEmpty_union]
  cases hpi : p.isIsolated with
  | false =>
    rw [hp hpi]
    cases hqi : q.isIsolated with
    | false => simp [Admission.join]
    | true => simp [Admission.join, SortedSet.isEmpty_iff.mpr rfl]
  | true =>
    cases hqi : q.isIsolated with
    | false =>
      rw [hq hqi]
      cases hpe : (p.admitting peer ns t).isEmpty <;>
        simp [Admission.join, SortedSet.isEmpty_iff.mpr rfl]
    | true =>
      cases hpe : (p.admitting peer ns t).isEmpty with
      | false =>
        cases hqe : (q.admitting peer ns t).isEmpty with
        | false => simp [Admission.join]
        | true => simp [Admission.join, SortedSet.isEmpty_iff.mp hqe]
      | true =>
        cases hqe : (q.admitting peer ns t).isEmpty <;>
          simp [Admission.join, SortedSet.isEmpty_iff.mp hpe]

namespace PolicySet

variable {s a b : PolicySet} {w peer : Workload} {ns : Namespace} {t : Traffic} {d : Direction}

theorem admission_join (h : ∀ p, p ∈ s.policies ↔ p ∈ a.policies ∨ p ∈ b.policies) :
    ((s.resolve w).direction d).admission peer ns t =
      (((a.resolve w).direction d).admission peer ns t).join
        (((b.resolve w).direction d).admission peer ns t) := by
  refine DirectionPolicy.admission_join ?_ ?_ admitting_eq_empty admitting_eq_empty
  · rw [Bool.eq_iff_iff, Bool.or_eq_true]
    simp only [isIsolated_resolve, h, or_and_right, exists_or]
  · refine SortedSet.ext_mem fun id => ?_
    simp only [SortedSet.mem_union, mem_admitting_resolve, h, or_and_right, exists_or]

theorem exists_admission_alone_eq_allowed_iff {p : Policy} :
    (∃ ps, (((⟨[p]⟩ : PolicySet).resolve w).direction d).admission peer ns t = .allowed ps) ↔
      p.isolates d w ∧ p.admits d peer ns t := by
  simp only [admission_resolve_eq_allowed_iff, List.mem_singleton, exists_eq_left]
  constructor
  · rintro ⟨ps, hne, h⟩
    by_contra hnot
    refine hne (SortedSet.eq_empty_iff.mpr fun id hid => hnot ?_)
    obtain ⟨hiso, hadm, _⟩ := (h id).mp hid
    exact ⟨hiso, hadm⟩
  · rintro ⟨hiso, hadm⟩
    refine ⟨.ofList [p.id], fun hempty => ?_, fun id => ?_⟩
    · exact SortedSet.eq_empty_iff.mp hempty p.id (SortedSet.mem_ofList.mpr List.mem_cons_self)
    · simp [hiso, hadm, eq_comm]

end PolicySet

/-- The policies are those that allow a flow each on its own; any other that isolates denies it. -/
structure AllowedAlone (docs : List Document.Policy) (topology : Topology) (m : PolicyModel)
    (t : Traffic) (d : Direction) (policies : SortedSet PolicyRef) : Prop where
  ascending : policies.toList.Pairwise fun a b => compare a b = .lt
  nonempty : policies.toList ≠ []
  mem_iff : ∀ id, id ∈ policies ↔ ∃ doc ∈ docs, doc.HasId id ∧
    ∃ alone, PolicyModel.compile [doc] topology = .ok alone ∧
      ∃ ps, (alone.evaluate topology t).side d = .allowed ps
  denied : ∀ doc ∈ docs, ∀ id ∈ ((m.workload (t.subject d)).direction d).isolatedBy,
    doc.HasId id → id ∉ policies → ∃ alone, PolicyModel.compile [doc] topology = .ok alone ∧
      (alone.evaluate topology t).side d = .denied

namespace PolicyModel

variable {topology : Topology} {t : Traffic} {d : Direction}

theorem compile_singleton {doc : Document.Policy} {p : Policy} (h : Policy.compile doc = .ok p) :
    PolicyModel.compile [doc] topology = .ok (build ⟨[p]⟩ topology) :=
  compile_eq_ok_iff.mpr ⟨_, PolicySet.compile_singleton h, rfl⟩

theorem allowedAlone {docs : List Document.Policy} {m : PolicyModel}
    (h : PolicyModel.compile docs topology = .ok m) {ps : SortedSet PolicyRef}
    (hps : (m.evaluate topology t).side d = .allowed ps) : AllowedAlone docs topology m t d ps := by
  obtain ⟨s, hs, rfl⟩ := compile_eq_ok_iff.mp h
  rw [side_evaluate_build] at hps
  obtain ⟨hne, hmem⟩ := PolicySet.admission_resolve_eq_allowed_iff.mp hps
  refine ⟨ps.ascending, fun hnil => hne (SortedSet.ext hnil), fun id => ?_, ?_⟩
  · rw [hmem]
    constructor
    · rintro ⟨p, hp, hiso, hadm, rfl⟩
      obtain ⟨doc, hdoc, hcomp⟩ := (PolicySet.mem_policies_iff hs).mp hp
      refine ⟨doc, hdoc, Policy.hasId_of_compile hcomp, _, compile_singleton hcomp, ?_⟩
      simp only [side_evaluate_build]
      exact PolicySet.exists_admission_alone_eq_allowed_iff.mpr ⟨hiso, hadm⟩
    · rintro ⟨doc, hdoc, hid, alone, halone, hside⟩
      obtain ⟨p, hp, hcomp⟩ := PolicySet.exists_compile_of_mem hs hdoc
      obtain rfl := Except.ok.inj (halone.symm.trans (compile_singleton hcomp))
      simp only [side_evaluate_build] at hside
      obtain ⟨hiso, hadm⟩ := PolicySet.exists_admission_alone_eq_allowed_iff.mp hside
      exact ⟨p, hp, hiso, hadm, (Policy.hasId_of_compile hcomp).unique hid⟩
  · intro doc hdoc id hid hdocid hnot
    obtain ⟨p, hp, hcomp⟩ := PolicySet.exists_compile_of_mem hs hdoc
    obtain rfl := hdocid.unique (Policy.hasId_of_compile hcomp)
    rw [workload_build] at hid
    obtain ⟨q, hq, hiso, hqid⟩ := PolicySet.mem_isolatedBy_resolve.mp hid
    obtain rfl := PolicySet.eq_of_id_eq hs hq hp hqid
    refine ⟨_, compile_singleton hcomp, ?_⟩
    rw [side_evaluate_build]
    refine PolicySet.admission_resolve_eq_denied_iff.mpr ⟨⟨q, List.mem_cons_self, hiso⟩, ?_⟩
    simp only [List.mem_singleton, forall_eq]
    intro _
    by_contra hadm
    exact hnot ((hmem _).mpr ⟨q, hq, hiso, by simpa using hadm, rfl⟩)

/-- How a flow is admitted is a homomorphism from lists of documents to admissions. -/
theorem side_evaluate_append {A B : List Document.Policy} {m : PolicyModel}
    (h : PolicyModel.compile (A ++ B) topology = .ok m) :
    ∃ a b, PolicyModel.compile A topology = .ok a ∧ PolicyModel.compile B topology = .ok b ∧
      ∀ t : Traffic,
        (∀ d, (m.evaluate topology t).side d =
          ((a.evaluate topology t).side d).join ((b.evaluate topology t).side d)) ∧
        (∀ d ps, (m.evaluate topology t).side d = .allowed ps →
          AllowedAlone (A ++ B) topology m t d ps) ∧
        ((a.evaluate topology t).isAllowed = true → (m.evaluate topology t).isAllowed = false →
          ∃ d, (a.evaluate topology t).side d = .unisolated ∧
            (m.evaluate topology t).side d = .denied) := by
  obtain ⟨s, hs, rfl⟩ := compile_eq_ok_iff.mp h
  obtain ⟨a, b, ha, hb, hmem⟩ := PolicySet.compile_append hs
  refine ⟨build a topology, build b topology, compile_eq_ok_iff.mpr ⟨a, ha, rfl⟩,
    compile_eq_ok_iff.mpr ⟨b, hb, rfl⟩, fun t => ?_⟩
  have hjoin (d : Direction) : ((build s topology).evaluate topology t).side d =
      (((build a topology).evaluate topology t).side d).join
        (((build b topology).evaluate topology t).side d) := by
    simp only [side_evaluate_build]
    exact PolicySet.admission_join hmem
  refine ⟨hjoin, fun d ps hps => allowedAlone h hps, fun hallowed hdenied => ?_⟩
  obtain ⟨d, hd⟩ : ∃ d, ((build s topology).evaluate topology t).side d = .denied := by
    by_contra hno
    exact Bool.eq_false_iff.mp hdenied (Evaluation.isAllowed_iff.mpr fun d hd => hno ⟨d, hd⟩)
  refine ⟨d, ?_, hd⟩
  have hne := Evaluation.isAllowed_iff.mp hallowed d
  rw [hjoin d] at hd
  cases hside : ((build a topology).evaluate topology t).side d with
  | unisolated => rfl
  | denied => exact absurd hside hne
  | allowed ps =>
    rw [hside] at hd
    cases hb : ((build b topology).evaluate topology t).side d <;> simp [hb, Admission.join] at hd

end PolicyModel

namespace Sample

/-- The policy that lets `b` reach `a` does so on its own, and the one about `b` denies on its own
what no policy was about before. -/
theorem admission_of_guardA_closeB :
    PolicyModel.compile ([guardA] ++ [closeB]) topology = .ok model ∧
    AllowedAlone ([guardA] ++ [closeB]) topology model (request b a) .ingress
      (.ofList [⟨"x", "1"⟩]) ∧
    ∃ first second, PolicyModel.compile [guardA] topology = .ok first ∧
      PolicyModel.compile [closeB] topology = .ok second ∧
      (first.evaluate topology (request a b)).side .ingress = .unisolated ∧
      (second.evaluate topology (request a b)).side .ingress = .denied ∧
      (model.evaluate topology (request a b)).side .ingress = .denied := by
  have hdocs : PolicyModel.compile ([guardA] ++ [closeB]) topology = .ok model := compile_docs
  obtain ⟨first, second, hfirst, hsecond, h⟩ := PolicyModel.side_evaluate_append hdocs
  have hallowed : (model.evaluate topology (request b a)).side .ingress =
      .allowed (.ofList [⟨"x", "1"⟩]) := by cbv
  refine ⟨hdocs, (h _).2.1 .ingress _ hallowed, first, second, hfirst, hsecond, ?_⟩
  have hA : PolicyModel.compile [guardA] topology = .ok (.build ⟨[policyA]⟩ topology) := by cbv
  have hB : PolicyModel.compile [closeB] topology = .ok (.build ⟨[policyB]⟩ topology) := by cbv
  obtain rfl := Except.ok.inj (hfirst.symm.trans hA)
  obtain rfl := Except.ok.inj (hsecond.symm.trans hB)
  have hunisolated : ((PolicyModel.build ⟨[policyA]⟩ topology).evaluate topology
      (request a b)).side .ingress = .unisolated := by cbv
  have hdenied : ((PolicyModel.build ⟨[policyB]⟩ topology).evaluate topology
      (request a b)).side .ingress = .denied := by cbv
  exact ⟨hunisolated, hdenied, by rw [(h _).1, hunisolated, hdenied]; rfl⟩

end Sample

end PolicyReach
