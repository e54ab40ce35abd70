import PolicyReach.Explain
import PolicyReach.Proofs.Resolution
import PolicyReach.Table

/-!
# The order of documents

Documents may come in any order: they compile to the same model, or to the same complaint about an
id that is used twice.
-/
namespace PolicyReach

/-- What the metadata of a document with an id are. -/
def PolicyRef.metadata (id : PolicyRef) : Document.Metadata := ⟨some id.name, some id.ns⟩

theorem PolicyRef.metadata_injective : Function.Injective PolicyRef.metadata := by
  rintro ⟨ns, name⟩ ⟨ns', name'⟩ heq
  simp only [metadata, Document.Metadata.mk.injEq, Option.some.injEq] at heq
  rw [heq.1, heq.2]

theorem Policy.map_metadata {docs : List Document.Policy} {ps : List Policy}
    (h : docs.map Policy.compile = ps.map .ok) :
    docs.map (·.metadata) = (ps.map (·.id)).map PolicyRef.metadata := by
  induction docs generalizing ps with
  | nil =>
    obtain rfl : ps = [] := by simpa using h.symm
    rfl
  | cons doc rest ih =>
    obtain ⟨p, ps, rfl, hp, hrest⟩ := List.map_eq_cons_iff.mp h.symm
    rw [List.map_cons, List.map_cons, List.map_cons, ih hrest.symm]
    congr 1
    rw [PolicyRef.metadata, ← Policy.compile_ns hp.symm, ← Policy.compile_name hp.symm]

/-- The metadata of a document are its id, so ids repeat where metadata do. -/
theorem Policy.nodup_ids_iff {docs : List Document.Policy} {ps : List Policy}
    (h : docs.map Policy.compile = ps.map .ok) :
    (ps.map (·.id)).Nodup ↔ (docs.map (·.metadata)).Nodup := by
  rw [map_metadata h]
  exact (List.nodup_map_iff PolicyRef.metadata_injective).symm

namespace PolicyModel

theorem compile_eq_of_perm {docs docs' : List Document.Policy} (h : docs.Perm docs')
    {ps : List Policy} (hps : docs.map Policy.compile = ps.map .ok) (topology : Topology) :
    PolicyModel.compile docs' topology = PolicyModel.compile docs topology := by
  rw [PolicyModel.compile, PolicyModel.compile, PolicySet.compile_eq_of_perm h hps]

theorem compile_eq_ok_of_perm {docs docs' : List Document.Policy} (h : docs.Perm docs')
    {topology : Topology} {m : PolicyModel} (hm : PolicyModel.compile docs topology = .ok m) :
    PolicyModel.compile docs' topology = .ok m := by
  obtain ⟨s, hs, _⟩ := compile_eq_ok_iff.mp hm
  obtain ⟨ps, hps⟩ := PolicySet.exists_of_compile hs
  rw [compile_eq_of_perm h hps, hm]

/-- Valid documents whose ids repeat are rejected for an id that depends on the ids alone. -/
theorem compile_duplicate {docs : List Document.Policy} {ps : List Policy}
    (hps : docs.map Policy.compile = ps.map .ok) (hd : ¬ (ps.map (·.id)).Nodup)
    (topology : Topology) : ∃ id, PolicyModel.compile docs topology = .error (.duplicate id) := by
  rw [← PolicySet.firstDuplicate?_sort_eq_none_iff] at hd
  obtain ⟨id, hid⟩ := Option.ne_none_iff_exists'.mp hd
  refine ⟨id, ?_⟩
  rw [PolicyModel.compile, PolicySet.compile_of_valid hps, hid]
  rfl

/-- Neither whether documents compile, nor to what, depends on the order in which they come. -/
theorem compile_perm {docs docs' : List Document.Policy} (h : docs.Perm docs')
    (topology : Topology) :
    ((∃ m, PolicyModel.compile docs topology = .ok m) ↔
      ∃ m, PolicyModel.compile docs' topology = .ok m) ∧
    (∀ m m', PolicyModel.compile docs topology = .ok m →
      PolicyModel.compile docs' topology = .ok m' →
      m = m' ∧ (∀ w, m.workload w = m'.workload w) ∧
      (∀ t, m.evaluate topology t = m'.evaluate topology t) ∧
      (∀ probe ignoreLoopback, Table.expected m topology probe ignoreLoopback =
        Table.expected m' topology probe ignoreLoopback) ∧
      m.policies.explain = m'.policies.explain) ∧
    ((∀ doc ∈ docs, ∃ p, Policy.compile doc = .ok p) → ¬ (docs.map (·.metadata)).Nodup →
      ∃ id, PolicyModel.compile docs topology = .error (.duplicate id) ∧
        PolicyModel.compile docs' topology = .error (.duplicate id)) := by
  refine ⟨?_, ?_, ?_⟩
  · constructor
    · rintro ⟨m, hm⟩
      exact ⟨m, compile_eq_ok_of_perm h hm⟩
    · rintro ⟨m, hm⟩
      exact ⟨m, compile_eq_ok_of_perm h.symm hm⟩
  · intro m m' hm hm'
    obtain rfl : m = m' := Except.ok.inj ((compile_eq_ok_of_perm h hm).symm.trans hm')
    exact ⟨rfl, fun _ => rfl, fun _ => rfl, fun _ _ => rfl, rfl⟩
  · intro hvalid hrepeat
    obtain ⟨ps, hps⟩ := PolicySet.exists_of_valid hvalid
    obtain ⟨id, hid⟩ := compile_duplicate hps
      (fun hd => hrepeat ((Policy.nodup_ids_iff hps).mp hd)) topology
    exact ⟨id, hid, (compile_eq_of_perm h hps topology).trans hid⟩

end PolicyModel

namespace Sample

/-- The same documents the other way round, and a second document under the name of the first. -/
theorem compile_reversed :
    [guardA, closeB].Perm [closeB, guardA] ∧
    PolicyModel.compile [closeB, guardA] topology = .ok model ∧
    ∃ id, PolicyModel.compile [guardA, { guardA with spec := closeB.spec }] topology =
        .error (.duplicate id) ∧
      PolicyModel.compile [{ guardA with spec := closeB.spec }, guardA] topology =
        .error (.duplicate id) := by
  have hperm (p q : Document.Policy) : [p, q].Perm [q, p] := .swap q p []
  refine ⟨hperm _ _, ?_, ?_⟩
  · have h := PolicyModel.compile_perm (hperm guardA closeB) topology
    obtain ⟨m, hm⟩ := h.1.mp ⟨model, compile_docs⟩
    rw [hm, (h.2.1 model m compile_docs hm).1]
  · refine (PolicyModel.compile_perm (hperm _ _) topology).2.2 ?_ (by decide)
    simp only [List.forall_mem_cons]
    exact ⟨⟨policyA, by cbv⟩, ⟨{ policyB with id := ⟨"x", "1"⟩ }, by cbv⟩, nofun⟩

end Sample

end PolicyReach
