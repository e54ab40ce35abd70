import Mathlib.Data.List.Basic
import PolicyReach.Proofs.JobTargets

/-!
# Names of services

The name of a service joins the namespace and the name of a workload by a hyphen, which may stand in
either of them. It still tells both, since it says the namespace once more behind the last dot in
front of what all names have in common.
-/
namespace PolicyReach

namespace Text

variable {sep : Char} {xs ys as bs : List Char}

/-- The only separator of a text stands where the text begins with it. -/
theorem nil_of_append_cons (has : sep ∉ as) {cs : List Char} (h : sep :: as = cs ++ sep :: bs) :
    cs = [] := by
  cases cs with
  | nil => rfl
  | cons c rest =>
    obtain ⟨-, rfl⟩ := List.cons.inj h
    exact absurd (List.mem_append_right rest List.mem_cons_self) has

/-- A text is cut at its last separator in one way only. -/
theorem append_cons_inj_of_last (has : sep ∉ as) (hbs : sep ∉ bs)
    (h : xs ++ sep :: as = ys ++ sep :: bs) : xs = ys ∧ as = bs := by
  rcases List.append_eq_append_iff.mp h with ⟨cs, rfl, hcs⟩ | ⟨cs, rfl, hcs⟩
  · obtain rfl := nil_of_append_cons has hcs
    exact ⟨(List.append_nil xs).symm, (List.cons.inj hcs).2⟩
  · obtain rfl := nil_of_append_cons hbs hcs
    exact ⟨List.append_nil ys, (List.cons.inj hcs).2.symm⟩

end Text

namespace Job

variable {domain : String} {source destination : Workload} {probe : Probe} {j : Job}

theorem toList_serviceName (domain : String) (w : Workload) : (serviceName domain w).toList =
    (("s-".toList ++ w.ns.toList ++ ['-']) ++ w.name.toList) ++
      '.' :: w.ns.toList ++ (".svc.".toList ++ domain.toList) := by
  simp [serviceName]

theorem id_eq_of_serviceName_eq {v w : Workload} (hv : '.' ∉ v.ns.toList)
    (hw : '.' ∉ w.ns.toList) (h : serviceName domain v = serviceName domain w) : v.id = w.id := by
  have hlist := congrArg String.toList h
  rw [toList_serviceName, toList_serviceName] at hlist
  -- The name may hold dots too, so the cut is at the last one, behind which the namespace stands.
  obtain ⟨hfront, hns⟩ := Text.append_cons_inj_of_last hv hw (List.append_cancel_right hlist)
  rw [hns] at hfront
  have hname : v.name.toList = w.name.toList := List.append_cancel_left hfront
  rw [Workload.id, Workload.id, String.toList_inj.mp hns, String.toList_inj.mp hname]

theorem serviceName_congr {v w : Workload} (h : v.id = w.id) :
    serviceName domain v = serviceName domain w := by
  obtain ⟨hns, hname⟩ := WorkloadId.mk.inj h
  rw [serviceName, serviceName, hns, hname]

theorem host_of_build? (h : build? domain source destination probe = some j)
    (hmode : probe.mode = .serviceName) :
    j.host = serviceName domain destination ∧ j.destination = destination.id := by
  obtain ⟨port, _, rfl⟩ := build?_eq_some_iff.mp h
  refine ⟨?_, rfl⟩
  change hostFor domain probe.mode destination = _
  rw [hmode]
  rfl

/-- Below namespaces without dots no two workloads have a service of one name, so jobs that go
through services have the same host only for the same destination. -/
theorem serviceName_identifies (domain : String) (v w : Workload) (hv : '.' ∉ v.ns.toList)
    (hw : '.' ∉ w.ns.toList) :
    (serviceName domain v = serviceName domain w ↔ v.id = w.id) ∧
    ∀ source source' probe probe' j k, probe.mode = .serviceName → probe'.mode = .serviceName →
      build? domain source v probe = some j → build? domain source' w probe' = some k →
      (j.host = k.host ↔ j.destination = k.destination) := by
  have hid : serviceName domain v = serviceName domain w ↔ v.id = w.id :=
    ⟨id_eq_of_serviceName_eq hv hw, serviceName_congr⟩
  refine ⟨hid, ?_⟩
  intro source source' probe probe' j k hmode hmode' hj hk
  obtain ⟨hhost, hdestination⟩ := host_of_build? hj hmode
  obtain ⟨hhost', hdestination'⟩ := host_of_build? hk hmode'
  rw [hhost, hhost', hdestination, hdestination']
  exact hid

end Job

namespace Sample

def placed (ns name : String) : Workload := ⟨ns, name, .empty, ⟨.v4, 1, by decide⟩, []⟩

/-- A dot in a namespace can make two services one. -/
example : Job.serviceName "local" (placed "a" "b.a-y.a-b") =
    Job.serviceName "local" (placed "a-b.a" "y") := by decide

/-- Up to the dot both names are the same. -/
theorem serviceName_hyphens :
    '.' ∉ (placed "a-b" "c.d").ns.toList ∧ '.' ∉ (placed "a" "b-c.d").ns.toList ∧
    Job.serviceName "local" (placed "a-b" "c.d") = "s-a-b-c.d.a-b.svc.local" ∧
    Job.serviceName "local" (placed "a" "b-c.d") = "s-a-b-c.d.a.svc.local" ∧
    Job.serviceName "local" (placed "a-b" "c.d") ≠
      Job.serviceName "local" (placed "a" "b-c.d") ∧
    ∃ j k, Job.build? "local" a (placed "a-b" "c.d") ⟨.number 80, .tcp, .serviceName⟩ = some j ∧
      Job.build? "local" a (placed "a" "b-c.d") ⟨.number 80, .tcp, .serviceName⟩ = some k ∧
      j.host ≠ k.host := by
  have hv : '.' ∉ (placed "a-b" "c.d").ns.toList := by decide
  have hw : '.' ∉ (placed "a" "b-c.d").ns.toList := by decide
  have hne : (placed "a-b" "c.d").id ≠ (placed "a" "b-c.d").id := by decide
  obtain ⟨hname, hhost⟩ := Job.serviceName_identifies "local" _ _ hv hw
  refine ⟨hv, hw, by decide, by decide, fun heq => hne (hname.mp heq), _, _, rfl, rfl,
    fun heq => hne ?_⟩
  exact (hhost a a ⟨.number 80, .tcp, .serviceName⟩ ⟨.number 80, .tcp, .serviceName⟩ _ _ rfl rfl rfl
    rfl).mp heq

end Sample

end PolicyReach
