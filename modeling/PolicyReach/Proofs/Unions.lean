import PolicyReach.Proofs.Resolution

/-!
# Unions in any order

What applies to a workload is put together from the contributions of single policies. Every union
sorts the rules again, by policy and place, and where no two policies have the same id this leaves
no trace of how the contributions were put together.
-/
namespace PolicyReach

/-! ### The order of rules -/

namespace TargetRule

/-- Strictly before, in the order of attributed rules. -/
def Precedes (a b : TargetRule) : Prop :=
  compare a.policy b.policy = .lt ∨ a.policy = b.policy ∧ a.index < b.index

theorem Precedes.le {a b : TargetRule} (h : a.Precedes b) : a.le b = true := by
  have hlt : compareLex (compareOn TargetRule.policy) (compareOn TargetRule.index) a b = .lt := by
    simp only [compareLex, compareOn, Ordering.then_eq_lt, Nat.compare_eq_lt,
      Std.compare_eq_iff_eq]
    exact h
  rw [TargetRule.le, hlt]
  rfl

theorem le_trans (a b c : TargetRule) (hab : a.le b) (hbc : b.le c) : a.le c :=
  Std.TransCmp.isLE_trans hab hbc

theorem le_total (a b : TargetRule) : a.le b || b.le a := isLE_total a b

theorem key_eq_of_le {a b : TargetRule} (hab : a.le b) (hba : b.le a) :
    a.policy = b.policy ∧ a.index = b.index := by
  have heq := compareLex_eq_eq.mp (Std.OrientedCmp.isLE_antisymm hab hba)
  exact ⟨Std.LawfulEqOrd.eq_of_compare heq.1, Std.LawfulEqOrd.eq_of_compare heq.2⟩

end TargetRule

namespace Policy

variable {p : Policy} {ps : List Policy} {d : Direction} {r r' : TargetRule}

/-- The rules of a policy for a direction, each with the policy and its place there. -/
def ownRules (p : Policy) (d : Direction) : List TargetRule :=
  ((p.rules d).getD []).zipIdx.map fun r => ⟨p.id, r.2, r.1⟩

theorem mem_ownRules_iff :
    r ∈ p.ownRules d ↔ r.policy = p.id ∧ ((p.rules d).getD [])[r.index]? = some r.rule := by
  obtain ⟨policy, index, rule⟩ := r
  simp only [ownRules, List.mem_map, TargetRule.mk.injEq]
  constructor
  · rintro ⟨⟨rule', index'⟩, hmem, rfl, rfl, rfl⟩
    exact ⟨rfl, List.mk_mem_zipIdx_iff_getElem?.mp hmem⟩
  · rintro ⟨rfl, hrule⟩
    exact ⟨(rule, index), List.mk_mem_zipIdx_iff_getElem?.mpr hrule, rfl, rfl, rfl⟩

theorem pairwise_ownRules (p : Policy) (d : Direction) :
    (p.ownRules d).Pairwise TargetRule.Precedes := by
  rw [ownRules, List.pairwise_map, List.pairwise_iff_getElem]
  intro i j hi hj hij
  right
  simpa using hij

theorem nodup_ids_of_ascending (h : ps.Pairwise fun p q => compare p.id q.id = .lt) :
    (ps.map (·.id)).Nodup := by
  refine List.pairwise_map.mpr (h.imp fun hlt heq => ?_)
  simp [heq, Std.ReflCmp.compare_self] at hlt

/-- Where no id repeats, a rule is known by its policy and its place. -/
theorem eq_of_mem_ownRules (hids : (ps.map (·.id)).Nodup) (hr : r ∈ ps.flatMap (·.ownRules d))
    (hr' : r' ∈ ps.flatMap (·.ownRules d)) (hpolicy : r.policy = r'.policy)
    (hindex : r.index = r'.index) : r = r' := by
  obtain ⟨p, hp, hr⟩ := List.mem_flatMap.mp hr
  obtain ⟨q, hq, hr'⟩ := List.mem_flatMap.mp hr'
  obtain ⟨hpid, hrule⟩ := mem_ownRules_iff.mp hr
  obtain ⟨hqid, hrule'⟩ := mem_ownRules_iff.mp hr'
  obtain rfl : p = q := List.inj_on_of_nodup_map hids hp hq (hpid.symm.trans (hpolicy.trans hqid))
  rw [hindex, hrule'] at hrule
  cases r; cases r'
  simp_all

/-- Policies in ascending order have their rules in ascending order. -/
theorem pairwise_flatMap_ownRules (h : ps.Pairwise fun p q => compare p.id q.id = .lt) :
    (ps.flatMap (·.ownRules d)).Pairwise TargetRule.Precedes := by
  refine List.pairwise_flatMap.mpr ⟨fun p _ => p.pairwise_ownRules d, h.imp fun hlt => ?_⟩
  intro r hr r' hr'
  left
  rwa [(mem_ownRules_iff.mp hr).1, (mem_ownRules_iff.mp hr').1]

theorem flatMap_ownRules_filter (ps : List Policy) (d : Direction) :
    (ps.filter fun p => (p.rules d).isSome).flatMap (·.ownRules d) =
      ps.flatMap (·.ownRules d) := by
  induction ps with
  | nil => rfl
  | cons p rest ih =>
    cases hrules : p.rules d with
    | none =>
      have hnil : p.ownRules d = [] := by simp [ownRules, hrules]
      simp [hrules, hnil, ih]
    | some rules => simp [hrules, ih]

end Policy

/-! ### What a union holds -/

namespace DirectionPolicy

variable {a b : DirectionPolicy} {d : Direction} {ps qs : List Policy}

/-- The direction is that of the policies together: isolated by those that declare it, with all of
their rules in order. -/
structure Unites (a : DirectionPolicy) (d : Direction) (ps : List Policy) : Prop where
  mem_isolatedBy : ∀ id, id ∈ a.isolatedBy ↔ ∃ p ∈ ps, (p.rules d).isSome ∧ p.id = id
  perm : a.rules.Perm (ps.flatMap (·.ownRules d))
  sorted : a.rules.Pairwise fun r r' => r.le r'

theorem unites_unisolated (d : Direction) : unisolated.Unites d [] :=
  ⟨by simp [unisolated], .nil, .nil⟩

theorem unites_declared (p : Policy) (d : Direction) :
    (declared p.id (p.rules d)).Unites d [p] := by
  have hrules : (declared p.id (p.rules d)).rules = p.ownRules d := by
    cases h : p.rules d with
    | none => simp [declared, unisolated, Policy.ownRules, h]
    | some rules => simp [declared, attributed, Policy.ownRules, h, List.mapIdx_eq_zipIdx_map]
  refine ⟨fun id => ?_, ?_, ?_⟩
  · rw [mem_isolatedBy_declared]
    simp
  · simp [hrules]
  · rw [hrules]
    exact (p.pairwise_ownRules d).imp TargetRule.Precedes.le

theorem Unites.union (ha : a.Unites d ps) (hb : b.Unites d qs) :
    (a.union b).Unites d (ps ++ qs) := by
  refine ⟨fun id => ?_, ?_, List.pairwise_mergeSort TargetRule.le_trans TargetRule.le_total _⟩
  · rw [mem_isolatedBy_union, ha.mem_isolatedBy, hb.mem_isolatedBy]
    simp only [List.mem_append, or_and_right, exists_or]
  · rw [List.flatMap_append]
    exact (List.mergeSort_perm _ _).trans (ha.perm.append hb.perm)

/-- Policies whose ids do not repeat can be united in one way only. -/
theorem Unites.unique (ha : a.Unites d ps) (hb : b.Unites d qs) (hperm : ps.Perm qs)
    (hids : (ps.map (·.id)).Nodup) : a = b := by
  have hisolated : a.isolatedBy = b.isolatedBy := by
    refine SortedSet.ext_mem fun id => ?_
    rw [ha.mem_isolatedBy, hb.mem_isolatedBy]
    simp only [hperm.mem_iff]
  have hrules : a.rules = b.rules := by
    have hsame : a.rules.Perm b.rules := ha.perm.trans ((hperm.flatMap_right _).trans hb.perm.symm)
    refine hsame.eq_of_pairwise (fun r r' hr hr' hle hge => ?_) ha.sorted hb.sorted
    obtain ⟨hpolicy, hindex⟩ := TargetRule.key_eq_of_le hle hge
    exact Policy.eq_of_mem_ownRules hids (ha.perm.mem_iff.mp hr)
      (ha.perm.mem_iff.mp (hsame.mem_iff.mpr hr')) hpolicy hindex
  cases a; cases b
  simp_all

/-- Of policies in ascending order the union is plain: nothing is moved. -/
theorem Unites.eq_of_ascending (ha : a.Unites d ps)
    (hps : ps.Pairwise fun p q => compare p.id q.id = .lt) :
    a.isolatedBy.toList = (ps.filter fun p => (p.rules d).isSome).map (·.id) ∧
      a.rules = ps.flatMap (·.ownRules d) := by
  have hascending := Policy.pairwise_flatMap_ownRules (d := d) hps
  constructor
  · have hids : ((ps.filter fun p => (p.rules d).isSome).map (·.id)).Pairwise
        fun a b => compare a b = .lt := List.pairwise_map.mpr (hps.filter _)
    have heq : a.isolatedBy = ⟨_, hids⟩ := by
      refine SortedSet.ext_mem fun id => ?_
      rw [ha.mem_isolatedBy]
      show _ ↔ id ∈ (ps.filter fun p => (p.rules d).isSome).map (·.id)
      simp only [List.mem_map, List.mem_filter, and_assoc]
    rw [heq]
  · refine ha.perm.eq_of_pairwise (fun r r' hr hr' hle hge => ?_) ha.sorted
      (hascending.imp TargetRule.Precedes.le)
    obtain ⟨hpolicy, hindex⟩ := TargetRule.key_eq_of_le hle hge
    have hids : (ps.map (·.id)).Nodup := Policy.nodup_ids_of_ascending hps
    exact Policy.eq_of_mem_ownRules hids (ha.perm.mem_iff.mp hr) hr' hpolicy hindex

/-- How a side decides depends on which policies isolate it and which rules it has, but not on how
often or in which order it lists them. -/
theorem admission_congr (hisolated : a.isolatedBy = b.isolatedBy)
    (hrules : ∀ r, r ∈ a.rules ↔ r ∈ b.rules) (peer : Workload) (ns : Namespace) (t : Traffic) :
    a.admission peer ns t = b.admission peer ns t := by
  have hadmitting : a.admitting peer ns t = b.admitting peer ns t := by
    refine SortedSet.ext_mem fun id => ?_
    simp only [admitting, SortedSet.mem_ofList, List.mem_map, List.mem_filter, hrules]
  rw [admission, admission, isIsolated, isIsolated, hisolated, hadmitting]

end DirectionPolicy

/-! ### Ways to put contributions together -/

/-- A way to unite contributions: nothing at all, the one of a policy, or the union of two ways. -/
inductive Grouping where
  | nothing
  | single (p : Policy)
  | union (first second : Grouping)

namespace Grouping

/-- The policies that contribute, from left to right. -/
def policies : Grouping → List Policy
  | .nothing => []
  | .single p => [p]
  | .union first second => first.policies ++ second.policies

def value : Grouping → WorkloadPolicy
  | .nothing => .unisolated
  | .single p => p.contribution
  | .union first second => first.value.union second.value

theorem unites_value (g : Grouping) (d : Direction) :
    (g.value.direction d).Unites d g.policies := by
  induction g with
  | nothing =>
    rw [value, WorkloadPolicy.direction_unisolated]
    exact DirectionPolicy.unites_unisolated d
  | single p =>
    rw [value, Policy.direction_contribution]
    exact DirectionPolicy.unites_declared p d
  | union first second ihFirst ihSecond =>
    rw [value, WorkloadPolicy.direction_union]
    exact ihFirst.union ihSecond

theorem value_eq_of_perm {g g' : Grouping} (hperm : g.policies.Perm g'.policies)
    (hids : (g.policies.map (·.id)).Nodup) : g.value = g'.value := by
  have hdirection (d : Direction) : g.value.direction d = g'.value.direction d :=
    (g.unites_value d).unique (g'.unites_value d) hperm hids
  have hingress := hdirection .ingress
  have hegress := hdirection .egress
  cases hg : g.value; cases hg' : g'.value
  simp_all [WorkloadPolicy.direction]

/-- Policies united one after another with what is there already. -/
def extend (g : Grouping) (ps : List Policy) : Grouping :=
  ps.foldl (fun g p => .union g (.single p)) g

theorem policies_extend (g : Grouping) (ps : List Policy) :
    (g.extend ps).policies = g.policies ++ ps := by
  induction ps generalizing g with
  | nil => simp [extend]
  | cons p rest ih =>
    rw [extend, List.foldl_cons, ← extend, ih, policies, policies]
    simp

theorem value_extend (g : Grouping) (ps : List Policy) :
    (g.extend ps).value = (ps.map Policy.contribution).foldl .union g.value := by
  induction ps generalizing g with
  | nil => rfl
  | cons p rest ih =>
    rw [extend, List.foldl_cons, ← extend, ih, List.map_cons, List.foldl_cons]
    rfl

end Grouping

namespace PolicySet

variable {docs : List Document.Policy} {s : PolicySet}

/-- What applies to a workload is one of the ways to unite the policies that select it. -/
theorem resolve_eq_value (s : PolicySet) (w : Workload) :
    s.resolve w = (Grouping.nothing.extend (s.policies.filter (·.selects w))).value := by
  rw [Grouping.value_extend]
  rfl

theorem unites_resolve (s : PolicySet) (w : Workload) (d : Direction) :
    ((s.resolve w).direction d).Unites d (s.policies.filter (·.selects w)) := by
  have h := (Grouping.nothing.extend (s.policies.filter (·.selects w))).unites_value d
  rwa [← resolve_eq_value, Grouping.policies_extend] at h

/-- For each direction the ids and the rules of the policies that isolate a workload are put
together in the order of the policies. Uniting the contributions in any other order and grouping,
with nothing as often as one likes, comes to the same, and uniting it all with itself decides no
flow otherwise. -/
theorem resolve_canonical (h : PolicySet.compile docs = .ok s) (w : Workload) :
    (s.policies.Pairwise fun p q => compare p.id q.id = .lt) ∧
    (∀ d,
      ((s.resolve w).direction d).isolatedBy.toList =
        (s.policies.filter (·.isolates d w)).map (·.id) ∧
      ((s.resolve w).direction d).rules =
        (s.policies.filter (·.isolates d w)).flatMap (·.ownRules d) ∧
      ((s.resolve w).direction d).rules.Pairwise TargetRule.Precedes) ∧
    (∀ g : Grouping, g.policies.Perm (s.policies.filter (·.selects w)) →
      g.value = s.resolve w) ∧
    ∀ d,
      (((s.resolve w).union (s.resolve w)).direction d).isolatedBy =
        ((s.resolve w).direction d).isolatedBy ∧
      ∀ peer ns t, (((s.resolve w).union (s.resolve w)).direction d).admission peer ns t =
        ((s.resolve w).direction d).admission peer ns t := by
  have hascending := pairwise_policies h
  have hselected := hascending.filter (·.selects w)
  refine ⟨hascending, fun d => ?_, fun g hg => ?_, fun d => ?_⟩
  · obtain ⟨hisolated, hrules⟩ := (unites_resolve s w d).eq_of_ascending hselected
    have hboth : (s.policies.filter (·.selects w)).filter (fun p => (p.rules d).isSome) =
        s.policies.filter (·.isolates d w) := by
      rw [List.filter_filter]
      simp only [Policy.isolates, Bool.and_comm]
    refine ⟨by rw [hisolated, hboth], ?_, hrules ▸ Policy.pairwise_flatMap_ownRules hselected⟩
    rw [hrules, ← Policy.flatMap_ownRules_filter, hboth]
  · rw [resolve_eq_value]
    refine Grouping.value_eq_of_perm (by rwa [Grouping.policies_extend]) ?_
    exact (hg.map (·.id)).nodup_iff.mpr (Policy.nodup_ids_of_ascending hselected)
  · rw [WorkloadPolicy.direction_union]
    have hisolated : (((s.resolve w).direction d).union ((s.resolve w).direction d)).isolatedBy =
        ((s.resolve w).direction d).isolatedBy :=
      SortedSet.ext_mem fun id => by rw [DirectionPolicy.mem_isolatedBy_union, or_self]
    exact ⟨hisolated, DirectionPolicy.admission_congr hisolated fun r => by
      rw [DirectionPolicy.mem_rules_union, or_self]⟩

end PolicySet

namespace Sample

/-- Closes all pods to everything and lets them reach everything. -/
def sealAll : Document.Policy := .named "x" "0" ⟨some .all, none, none, some [⟨none, none⟩]⟩

def policyAll : Policy := ⟨⟨"x", "0"⟩, .all, some [], some [⟨[], []⟩]⟩

/-- Two policies select the pod, and united the other way round and with nothing in between they
come to the same. -/
theorem resolve_of_guardA_sealAll :
    ∃ s, PolicySet.compile [guardA, sealAll] = .ok s ∧
      (s.resolve a).ingress.isolatedBy.toList = [⟨"x", "0"⟩, ⟨"x", "1"⟩] ∧
      (s.resolve a).ingress.rules = policyA.ownRules .ingress ∧
      (s.resolve a).egress.rules = [⟨⟨"x", "0"⟩, 0, ⟨[], []⟩⟩] ∧
      (Grouping.union (.single policyA) (.union .nothing (.single policyAll))).value =
        s.resolve a := by
  have hcompile : PolicySet.compile [guardA, sealAll] = .ok ⟨[policyAll, policyA]⟩ := by cbv
  obtain ⟨_, hsides, hgrouped, _⟩ := PolicySet.resolve_canonical hcompile a
  have hingress : [policyAll, policyA].filter (·.isolates .ingress a) = [policyAll, policyA] := by
    cbv
  have hegress : [policyAll, policyA].filter (·.isolates .egress a) = [policyAll] := by cbv
  have hselected : [policyAll, policyA].filter (·.selects a) = [policyAll, policyA] := by cbv
  refine ⟨_, hcompile, (hsides .ingress).1.trans ?_, (hsides .ingress).2.1.trans ?_,
    (hsides .egress).2.1.trans ?_, hgrouped _ ?_⟩
  · rw [hingress]
    rfl
  · rw [hingress]
    rfl
  · rw [hegress]
    rfl
  · rw [hselected]
    exact .swap policyAll policyA []

end Sample

end PolicyReach
