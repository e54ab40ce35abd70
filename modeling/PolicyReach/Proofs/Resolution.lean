import PolicyReach.Proofs.Compilation
import PolicyReach.Proofs.Topology

/-!
# What applies to a workload, policy by policy

Uniting contributions sorts and merges. What the union holds, and how it decides a flow, can still
be told from the single policies.
-/
namespace PolicyReach

variable {d : Direction} {w : Workload}

/-- Selecting a workload and declaring a direction isolates the workload in it. -/
def Policy.isolates (p : Policy) (d : Direction) (w : Workload) : Bool :=
  p.selects w && (p.rules d).isSome

/-- Some rule of the policy for the direction matches the peer and the port. -/
def Policy.admits (p : Policy) (d : Direction) (peer : Workload) (ns : Namespace) (t : Traffic) :
    Bool :=
  ((p.rules d).getD []).any fun r =>
    r.acceptsPeer peer ns && r.acceptsPort t.protocol t.port t.destination

/-- The workload whose policies decide a direction of a flow. -/
def Traffic.subject (t : Traffic) : Direction → Workload
  | .ingress => t.destination
  | .egress => t.source

/-- The workload at the other end. -/
def Traffic.peer (t : Traffic) : Direction → Workload
  | .ingress => t.source
  | .egress => t.destination

def Evaluation.side (e : Evaluation) : Direction → Admission
  | .ingress => e.ingress
  | .egress => e.egress

namespace Verdict

theorem ofAllowed_eq_allowed_iff {b : Bool} : ofAllowed b = .allowed ↔ b = true := by
  cases b <;> decide

theorem ofAllowed_eq_denied_iff {b : Bool} : ofAllowed b = .denied ↔ b = false := by
  cases b <;> decide

end Verdict

theorem Evaluation.isAllowed_iff {e : Evaluation} :
    e.isAllowed = true ↔ ∀ d, e.side d ≠ .denied := by
  have hne (a : Admission) : a.isAllowed = true ↔ a ≠ .denied := by
    cases a <;> simp [Admission.isAllowed]
  rw [isAllowed, Bool.and_eq_true, hne, hne]
  constructor
  · rintro ⟨he, hi⟩ d
    cases d with
    | ingress => exact hi
    | egress => exact he
  · intro h
    exact ⟨h .egress, h .ingress⟩

theorem Evaluation.ext_side {e e' : Evaluation} (h : ∀ d, e.side d = e'.side d) : e = e' := by
  obtain ⟨egress, ingress⟩ := e
  obtain ⟨egress', ingress'⟩ := e'
  have hegress : egress = egress' := h .egress
  have hingress : ingress = ingress' := h .ingress
  rw [hegress, hingress]

/-- The rules of a policy do not matter for what it isolates. -/
theorem Policy.isolates_congr {p q : Policy} (hid : q.id = p.id) (htarget : q.target = p.target)
    (hdeclared : (q.rules d).isSome = (p.rules d).isSome) : q.isolates d w = p.isolates d w := by
  rw [isolates, isolates, selects, selects, hid, htarget, hdeclared]

/-! ### Unions -/

namespace DirectionPolicy

theorem mem_isolatedBy_declared {policy id : PolicyRef} {rules : Option (List Rule)} :
    id ∈ (declared policy rules).isolatedBy ↔ rules.isSome ∧ policy = id := by
  cases rules <;> simp [declared, unisolated, eq_comm]

theorem mem_rules_declared {policy : PolicyRef} {rules : Option (List Rule)} {r : TargetRule} :
    r ∈ (declared policy rules).rules ↔
      r.policy = policy ∧ (rules.getD [])[r.index]? = some r.rule := by
  obtain ⟨policy', index, rule⟩ := r
  cases rules with
  | none => simp [declared, unisolated]
  | some rules =>
    simp only [declared, attributed, List.mem_mapIdx, TargetRule.mk.injEq, Option.getD_some]
    constructor
    · rintro ⟨i, hi, rfl, rfl, rfl⟩
      exact ⟨rfl, List.getElem?_eq_getElem hi⟩
    · rintro ⟨rfl, h⟩
      obtain ⟨hi, hr⟩ := List.getElem?_eq_some_iff.mp h
      exact ⟨index, hi, rfl, rfl, hr⟩

theorem mem_isolatedBy_union {a b : DirectionPolicy} {id : PolicyRef} :
    id ∈ (a.union b).isolatedBy ↔ id ∈ a.isolatedBy ∨ id ∈ b.isolatedBy := by
  simp [union]

theorem mem_rules_union {a b : DirectionPolicy} {r : TargetRule} :
    r ∈ (a.union b).rules ↔ r ∈ a.rules ∨ r ∈ b.rules := by
  simp [union]

end DirectionPolicy

theorem WorkloadPolicy.direction_union (a b : WorkloadPolicy) (d : Direction) :
    (a.union b).direction d = (a.direction d).union (b.direction d) := by
  cases d <;> rfl

theorem WorkloadPolicy.direction_unisolated (d : Direction) :
    unisolated.direction d = .unisolated := by
  cases d <;> rfl

theorem Policy.direction_contribution (p : Policy) (d : Direction) :
    p.contribution.direction d = .declared p.id (p.rules d) := by
  cases d <;> rfl

namespace PolicySet

theorem mem_isolatedBy_foldl {l : List WorkloadPolicy} {a : WorkloadPolicy} {id : PolicyRef} :
    id ∈ ((l.foldl .union a).direction d).isolatedBy ↔
      id ∈ (a.direction d).isolatedBy ∨ ∃ b ∈ l, id ∈ (b.direction d).isolatedBy := by
  induction l generalizing a with
  | nil => simp
  | cons b rest ih =>
    rw [List.foldl_cons, ih, WorkloadPolicy.direction_union, DirectionPolicy.mem_isolatedBy_union]
    simp [or_assoc]

theorem mem_rules_foldl {l : List WorkloadPolicy} {a : WorkloadPolicy} {r : TargetRule} :
    r ∈ ((l.foldl .union a).direction d).rules ↔
      r ∈ (a.direction d).rules ∨ ∃ b ∈ l, r ∈ (b.direction d).rules := by
  induction l generalizing a with
  | nil => simp
  | cons b rest ih =>
    rw [List.foldl_cons, ih, WorkloadPolicy.direction_union, DirectionPolicy.mem_rules_union]
    simp [or_assoc]

theorem mem_isolatedBy_resolve {s : PolicySet} {id : PolicyRef} :
    id ∈ ((s.resolve w).direction d).isolatedBy ↔
      ∃ p ∈ s.policies, p.isolates d w ∧ p.id = id := by
  rw [resolve, mem_isolatedBy_foldl, WorkloadPolicy.direction_unisolated]
  simp [DirectionPolicy.unisolated, Policy.direction_contribution,
    DirectionPolicy.mem_isolatedBy_declared, Policy.isolates, and_assoc]

theorem mem_rules_resolve {s : PolicySet} {r : TargetRule} :
    r ∈ ((s.resolve w).direction d).rules ↔
      ∃ p ∈ s.policies, p.selects w ∧ r.policy = p.id ∧
        ((p.rules d).getD [])[r.index]? = some r.rule := by
  rw [resolve, mem_rules_foldl, WorkloadPolicy.direction_unisolated]
  simp [DirectionPolicy.unisolated, Policy.direction_contribution,
    DirectionPolicy.mem_rules_declared, and_assoc]

/-! ### Decisions -/

variable {s : PolicySet} {peer : Workload} {ns : Namespace} {t : Traffic}

theorem mem_admitting_resolve {id : PolicyRef} :
    id ∈ ((s.resolve w).direction d).admitting peer ns t ↔
      ∃ p ∈ s.policies, p.isolates d w ∧ p.admits d peer ns t ∧ p.id = id := by
  simp only [DirectionPolicy.admitting, SortedSet.mem_ofList, List.mem_map, List.mem_filter,
    mem_rules_resolve]
  constructor
  · rintro ⟨r, ⟨⟨p, hp, hw, hid, hr⟩, hadm⟩, rfl⟩
    have hmem := List.mem_of_getElem? hr
    refine ⟨p, hp, ?_, List.any_eq_true.mpr ⟨r.rule, hmem, hadm⟩, hid.symm⟩
    cases hrules : p.rules d with
    | none => simp [hrules] at hmem
    | some rules => simp [Policy.isolates, hw, hrules]
  · rintro ⟨p, hp, hiso, hadm, rfl⟩
    obtain ⟨rule, hmem, hrule⟩ := List.any_eq_true.mp hadm
    obtain ⟨i, hi⟩ := List.mem_iff_getElem?.mp hmem
    have hw : p.selects w := (Bool.and_eq_true_iff.mp hiso).1
    exact ⟨⟨p.id, i, rule⟩, ⟨⟨p, hp, hw, rfl, hi⟩, hrule⟩, rfl⟩

theorem isIsolated_resolve :
    ((s.resolve w).direction d).isIsolated = true ↔ ∃ p ∈ s.policies, p.isolates d w := by
  rw [DirectionPolicy.isIsolated, Bool.not_eq_true', Bool.eq_false_iff, ne_eq,
    SortedSet.isEmpty_iff, SortedSet.eq_empty_iff]
  simp [mem_isolatedBy_resolve]

theorem admitting_eq_empty (h : ((s.resolve w).direction d).isIsolated = false) :
    ((s.resolve w).direction d).admitting peer ns t = .empty := by
  refine SortedSet.eq_empty_iff.mpr fun id hid => ?_
  obtain ⟨p, hp, hiso, _⟩ := mem_admitting_resolve.mp hid
  exact Bool.eq_false_iff.mp h (isIsolated_resolve.mpr ⟨p, hp, hiso⟩)

/-- A side decides by which policies isolate it and which of these admit the flow. -/
theorem admission_resolve_congr {u : PolicySet}
    (hisolates : (∃ p ∈ s.policies, p.isolates d w) ↔ ∃ p ∈ u.policies, p.isolates d w)
    (hadmits : ∀ id, (∃ p ∈ s.policies, p.isolates d w ∧ p.admits d peer ns t ∧ p.id = id) ↔
      ∃ p ∈ u.policies, p.isolates d w ∧ p.admits d peer ns t ∧ p.id = id) :
    ((s.resolve w).direction d).admission peer ns t =
      ((u.resolve w).direction d).admission peer ns t := by
  have hisolated : ((s.resolve w).direction d).isIsolated =
      ((u.resolve w).direction d).isIsolated := by
    rw [Bool.eq_iff_iff, isIsolated_resolve, isIsolated_resolve, hisolates]
  have hadmitting : ((s.resolve w).direction d).admitting peer ns t =
      ((u.resolve w).direction d).admitting peer ns t := by
    refine SortedSet.ext_mem fun id => ?_
    rw [mem_admitting_resolve, mem_admitting_resolve, hadmits]
  rw [DirectionPolicy.admission, DirectionPolicy.admission, hisolated, hadmitting]

/-- The three ways in which a side decides, in terms of the single policies. -/
theorem admission_resolve_eq_unisolated_iff :
    ((s.resolve w).direction d).admission peer ns t = .unisolated ↔
      ∀ p ∈ s.policies, p.isolates d w = false := by
  rw [DirectionPolicy.admission]
  by_cases h : ((s.resolve w).direction d).isIsolated
  · have := isIsolated_resolve.mp h
    simp only [h, Bool.not_true, Bool.false_eq_true, if_false]
    split <;> simpa using this
  · have hno : ¬ ∃ p ∈ s.policies, p.isolates d w := fun hex => h (isIsolated_resolve.mpr hex)
    simpa [h] using hno

theorem admission_resolve_eq_allowed_iff {ps : SortedSet PolicyRef} :
    ((s.resolve w).direction d).admission peer ns t = .allowed ps ↔
      ps ≠ .empty ∧
      ∀ id, id ∈ ps ↔ ∃ p ∈ s.policies, p.isolates d w ∧ p.admits d peer ns t ∧ p.id = id := by
  have hps : ((s.resolve w).direction d).admitting peer ns t = ps ↔
      ∀ id, id ∈ ps ↔ ∃ p ∈ s.policies, p.isolates d w ∧ p.admits d peer ns t ∧ p.id = id := by
    constructor
    · rintro rfl id
      exact mem_admitting_resolve
    · intro h
      exact SortedSet.ext_mem fun id => mem_admitting_resolve.trans (h id).symm
  rw [← hps, DirectionPolicy.admission]
  by_cases h : ((s.resolve w).direction d).isIsolated
  · simp only [h, Bool.not_true, Bool.false_eq_true, if_false, SortedSet.isEmpty_iff]
    split
    · next hempty => simp [hempty, eq_comm]
    · next hne =>
      simp only [Admission.allowed.injEq]
      exact ⟨fun heq => ⟨heq ▸ hne, heq⟩, fun hand => hand.2⟩
  · simp [h, admitting_eq_empty (Bool.eq_false_iff.mpr h), eq_comm]

theorem admission_resolve_eq_denied_iff :
    ((s.resolve w).direction d).admission peer ns t = .denied ↔
      (∃ p ∈ s.policies, p.isolates d w) ∧
      ∀ p ∈ s.policies, p.isolates d w → p.admits d peer ns t = false := by
  have hempty : ((s.resolve w).direction d).admitting peer ns t = .empty ↔
      ∀ p ∈ s.policies, p.isolates d w → p.admits d peer ns t = false := by
    rw [SortedSet.eq_empty_iff]
    constructor
    · intro h p hp hiso
      by_contra hadm
      exact h p.id (mem_admitting_resolve.mpr ⟨p, hp, hiso, by simpa using hadm, rfl⟩)
    · intro h id hid
      obtain ⟨p, hp, hiso, hadm, _⟩ := mem_admitting_resolve.mp hid
      simp [h p hp hiso] at hadm
  rw [← isIsolated_resolve, ← hempty, DirectionPolicy.admission]
  by_cases h : ((s.resolve w).direction d).isIsolated
  · simp only [h, Bool.not_true, Bool.false_eq_true, if_false, SortedSet.isEmpty_iff, true_and]
    split
    · next hadm => simp [hadm]
    · next hadm => simp [hadm]
  · simp [h]

end PolicySet

/-! ### Models -/

namespace PolicyModel

/-- A model holds what applies to the workloads of its topology. -/
theorem get?_build (s : PolicySet) (topology : Topology) (id : WorkloadId) :
    (build s topology).get? id = (topology.workload? id).map s.resolve := by
  have hlookup (l : List Workload) : (l.map fun w => (w.id, s.resolve w)).lookup id =
      (l.find? (·.id == id)).map s.resolve := by
    induction l with
    | nil => rfl
    | cons w rest ih =>
      rw [List.map_cons, List.lookup_cons, List.find?_cons, ih, BEq.comm]
      cases w.id == id <;> rfl
  rw [get?, build, SortedMap.get?_ofList, hlookup, Topology.workload?_eq_find?]
  · rw [List.map_map]
    exact topology.ids_nodup

/-- An id of the topology stands for the workload that the topology holds under it. -/
theorem workload_build (s : PolicySet) (topology : Topology) (w : Workload) :
    (build s topology).workload w = s.resolve ((topology.workload? w.id).getD w) := by
  rw [workload, get?_build]
  cases topology.workload? w.id <;> rfl

theorem workload_build_of_mem {s : PolicySet} {topology : Topology} (hw : w ∈ topology.workloads) :
    (build s topology).workload w = s.resolve w := by
  rw [workload_build, Topology.workload?_id hw]
  rfl

/-- The topology that a flow is decided in, which need not be the one that the model was built for,
tells the labels of namespaces. -/
theorem side_evaluate_build (s : PolicySet) (topology current : Topology) (t : Traffic)
    (d : Direction) :
    ((build s topology).evaluate current t).side d =
      ((s.resolve ((topology.workload? (t.subject d).id).getD (t.subject d))).direction d).admission
        (t.peer d) (current.namespaceOf (t.peer d)) t := by
  cases d <;> simp [Evaluation.side, evaluate, admission, workload_build, Traffic.subject,
    Traffic.peer]

theorem compile_eq_ok_iff {docs : List Document.Policy} {topology : Topology} {m : PolicyModel} :
    PolicyModel.compile docs topology = .ok m ↔
      ∃ s, PolicySet.compile docs = .ok s ∧ m = build s topology := by
  rw [PolicyModel.compile, map_eq_ok_iff]
  simp only [eq_comm]

end PolicyModel

/-! ### A small cluster -/

namespace Sample

def pods (name : String) : Selector := ⟨some (.ofList [("pod", name)]), none⟩

def workload (name : String) (ip : Nat) (h : ip < 1 <<< 32) : Workload :=
  ⟨"x", name, .ofList [("pod", name)], ⟨.v4, ip, h⟩, [⟨some "http", 80, .tcp⟩]⟩

def a : Workload := workload "a" 1 (by decide)

def b : Workload := workload "b" 2 (by decide)

def topology : Topology := ⟨⟨[⟨"x", .empty⟩], [a, b]⟩, _, rfl⟩

/-- Lets pods `b`, and no others, reach pods `a`. -/
def guardA : Document.Policy :=
  .named "x" "1" ⟨some (pods "a"), none, some [⟨some [.pods (pods "b")], none⟩], none⟩

/-- Lets nothing reach pods `b`. -/
def closeB : Document.Policy := .named "x" "2" ⟨some (pods "b"), none, none, none⟩

def policyA : Policy :=
  ⟨⟨"x", "1"⟩, pods "a", some [⟨[.workloads (.named "x") (pods "b")], []⟩], none⟩

def policyB : Policy := ⟨⟨"x", "2"⟩, pods "b", some [], none⟩

def model : PolicyModel := .build ⟨[policyA, policyB]⟩ topology

def request (source destination : Workload) : Traffic := ⟨source, destination, .tcp, 80⟩

theorem compile_docs : PolicyModel.compile [guardA, closeB] topology = .ok model := by cbv

end Sample

end PolicyReach
