import PolicyReach.Explain
import PolicyReach.Proofs.Unions

/-!
# The explanation of a policy set

The explanation and the union of what applies to a workload go through the policies independently of
each other. They come upon the same rules: what a workload gets can be read off the rows of the
policies that isolate it, and every declared direction has a row, also if it has no rule.
-/
namespace PolicyReach

/-- What a row is about: a rule and its place in the direction, or a direction without rules. -/
structure Explained where
  policy : Policy
  direction : Direction
  rule : Option (ℕ × Rule)
  deriving DecidableEq

namespace Explained

def denyRow (e : Explained) : List String :=
  e.policy.explainRow e.direction "(none: deny all)" "-"

def row (e : Explained) : List String :=
  match e.rule with
  | none => e.denyRow
  | some (_, r) => e.policy.explainRow e.direction r.peersText r.portsText

/-- The place of the rule. A direction without rules has one row, which stands first. -/
def place (e : Explained) : ℕ := (e.rule.map Prod.fst).getD 0

def targetRule? (e : Explained) : Option TargetRule :=
  e.rule.map fun r => ⟨e.policy.id, r.1, r.2⟩

/-- Strictly before: by policy, then ingress before egress, then by place. -/
def Precedes (e e' : Explained) : Prop :=
  compare e.policy.id e'.policy.id = .lt ∨ e.policy = e'.policy ∧
    (e.direction = .ingress ∧ e'.direction = .egress ∨
      e.direction = e'.direction ∧ e.place < e'.place)

/-- What a policy has to explain. Of a direction that it does not declare this is nothing. -/
inductive Declared : Explained → Prop
  | rule {p : Policy} {d : Direction} {rules : List Rule} {i : ℕ} {r : Rule}
    (hrules : p.rules d = some rules) (hr : rules[i]? = some r) : Declared ⟨p, d, some (i, r)⟩
  | denyAll {p : Policy} {d : Direction} (hrules : p.rules d = some []) : Declared ⟨p, d, none⟩

theorem Declared.isSome_rules {e : Explained} (h : e.Declared) :
    (e.policy.rules e.direction).isSome := by
  cases h with
  | rule hrules => simp [hrules]
  | denyAll hrules => simp [hrules]

theorem Declared.isolates_eq {e : Explained} (h : e.Declared) (w : Workload) :
    e.policy.isolates e.direction w = e.policy.selects w := by
  rw [Policy.isolates, h.isSome_rules, Bool.and_true]

end Explained

/-! ### Rules and denials -/

theorem PortMatch.slash_mem_text (m : PortMatch) : '/' ∈ m.text.toList := by
  cases m <;> simp [text]

theorem Rule.portsText_ne_dash (r : Rule) : r.portsText ≠ "-" := by
  cases hports : r.ports with
  | nil => simp [portsText, hports]
  | cons m rest =>
    have hslash : '/' ∈ r.portsText.toList := by
      have := m.slash_mem_text
      cases rest <;> simp_all [portsText]
    intro heq
    rw [heq] at hslash
    exact absurd hslash (by decide)

/-- No row of a rule reads like the row of a direction without rules. -/
theorem Explained.row_eq_denyRow_iff {e : Explained} : e.row = e.denyRow ↔ e.rule = none := by
  cases hrule : e.rule with
  | none => simp [row, hrule]
  | some r => simp [row, hrule, denyRow, Policy.explainRow, r.2.portsText_ne_dash]

/-! ### Single policies -/

namespace Policy

variable {p : Policy} {d : Direction} {e : Explained}

def explained (p : Policy) (d : Direction) : List Explained :=
  match p.rules d with
  | none => []
  | some [] => [⟨p, d, none⟩]
  | some rules => rules.zipIdx.map fun r => ⟨p, d, some (r.2, r.1)⟩

theorem explainRows_eq (p : Policy) (d : Direction) :
    p.explainRows d = (p.explained d).map Explained.row := by
  rw [explainRows, explained]
  cases p.rules d with
  | none => rfl
  | some rules =>
    cases rules with
    | nil => rfl
    | cons r rest =>
      have hrow : Explained.row ∘ (fun r : Rule × ℕ => ⟨p, d, some (r.2, r.1)⟩) =
          (fun r => p.explainRow d r.peersText r.portsText) ∘ Prod.fst := rfl
      simp only [List.map_map, hrow]
      rw [← List.map_map, List.zipIdx_map_fst]

theorem mem_explained_iff :
    e ∈ p.explained d ↔ e.Declared ∧ e.policy = p ∧ e.direction = d := by
  constructor
  · intro he
    rw [explained] at he
    split at he
    · exact absurd he List.not_mem_nil
    · next hrules =>
      obtain rfl := List.mem_singleton.mp he
      exact ⟨.denyAll hrules, rfl, rfl⟩
    · next rules _ hrules =>
      obtain ⟨r, hr, rfl⟩ := List.mem_map.mp he
      exact ⟨.rule hrules (List.mk_mem_zipIdx_iff_getElem?.mp hr), rfl, rfl⟩
  · rintro ⟨hdeclared, rfl, rfl⟩
    cases hdeclared with
    | denyAll hrules => simp [explained, hrules]
    | @rule p d rules i r hrules hr =>
      cases rules with
      | nil => simp at hr
      | cons first rest =>
        rw [explained, hrules]
        exact List.mem_map.mpr ⟨(r, i), List.mk_mem_zipIdx_iff_getElem?.mpr hr, rfl⟩

theorem pairwise_explained (p : Policy) (d : Direction) :
    (p.explained d).Pairwise Explained.Precedes := by
  rw [explained]
  split
  · exact .nil
  · exact List.pairwise_singleton _ _
  · rw [List.pairwise_map, List.pairwise_iff_getElem]
    intro i j hi hj hij
    exact .inr ⟨rfl, .inr ⟨rfl, by simpa [Explained.place] using hij⟩⟩

theorem filter_explained (keep : Policy → Direction → Bool) (p : Policy) (d : Direction) :
    (p.explained d).filter (fun e => keep e.policy e.direction) =
      if keep p d then p.explained d else [] := by
  have hkeep : ∀ e ∈ p.explained d, keep e.policy e.direction = keep p d := by
    intro e he
    obtain ⟨_, rfl, rfl⟩ := mem_explained_iff.mp he
    rfl
  rw [List.filter_congr hkeep]
  split
  · next h => simp [h]
  · next h => simp [h]

theorem filterMap_explained (p : Policy) (d : Direction) :
    (p.explained d).filterMap Explained.targetRule? = p.ownRules d := by
  rw [explained, ownRules]
  cases p.rules d with
  | none => rfl
  | some rules =>
    cases rules with
    | nil => rfl
    | cons r rest => simp [List.filterMap_map, Explained.targetRule?, Function.comp_def]

end Policy

/-! ### Sets of policies -/

namespace PolicySet

variable {docs : List Document.Policy} {s : PolicySet} {e : Explained} {w : Workload}

def explained (s : PolicySet) : List Explained :=
  s.policies.flatMap fun p => p.explained .ingress ++ p.explained .egress

theorem explain_eq (s : PolicySet) : s.explain =
    Text.grid (["Policy", "Target", "Direction", "Peers", "Ports"] ::
      s.explained.map Explained.row) := by
  simp only [explain, explainRows, explained, Policy.explainRows_eq, List.map_flatMap,
    List.map_append]

theorem mem_explained_iff : e ∈ s.explained ↔ e.policy ∈ s.policies ∧ e.Declared := by
  simp only [explained, List.mem_flatMap, List.mem_append, Policy.mem_explained_iff]
  constructor
  · rintro ⟨p, hp, ⟨hdeclared, rfl, _⟩ | ⟨hdeclared, rfl, _⟩⟩ <;> exact ⟨hp, hdeclared⟩
  · rintro ⟨hp, hdeclared⟩
    refine ⟨e.policy, hp, ?_⟩
    cases hd : e.direction with
    | ingress => exact .inl ⟨hdeclared, rfl, rfl⟩
    | egress => exact .inr ⟨hdeclared, rfl, rfl⟩

theorem pairwise_explained (h : PolicySet.compile docs = .ok s) :
    s.explained.Pairwise Explained.Precedes := by
  refine List.pairwise_flatMap.mpr ⟨fun p _ => ?_, (pairwise_policies h).imp fun hlt => ?_⟩
  · refine List.pairwise_append.mpr ⟨p.pairwise_explained _, p.pairwise_explained _, ?_⟩
    intro e he e' he'
    obtain ⟨_, hpolicy, hingress⟩ := Policy.mem_explained_iff.mp he
    obtain ⟨_, hpolicy', hegress⟩ := Policy.mem_explained_iff.mp he'
    exact .inr ⟨hpolicy.trans hpolicy'.symm, .inl ⟨hingress, hegress⟩⟩
  · intro e he e' he'
    have hpolicy {p : Policy} {e : Explained}
        (he : e ∈ p.explained .ingress ++ p.explained .egress) : e.policy = p := by
      rcases List.mem_append.mp he with he | he <;> exact (Policy.mem_explained_iff.mp he).2.1
    rw [Explained.Precedes, hpolicy he, hpolicy he']
    exact .inl hlt

/-- The rows of a direction that belong to policies with a certain property. -/
theorem filter_explained (s : PolicySet) (d : Direction) (keep : Policy → Bool) :
    s.explained.filter (fun e => e.direction = d ∧ keep e.policy) =
      (s.policies.filter keep).flatMap (·.explained d) := by
  rw [explained]
  induction s.policies with
  | nil => rfl
  | cons p rest ih =>
    have hrows (d' : Direction) := p.filter_explained (fun p d' => d' = d ∧ keep p) d'
    rw [List.flatMap_cons, List.filter_append, List.filter_append, hrows, hrows, ih]
    cases hkeep : keep p <;> cases d <;> simp [hkeep]

theorem filterMap_filter_explained (s : PolicySet) (d : Direction) (w : Workload) :
    (s.explained.filter fun e => e.direction = d ∧ e.policy.isolates d w).filterMap
        Explained.targetRule? = (s.policies.filter (·.selects w)).flatMap (·.ownRules d) := by
  -- A row's policy declares the direction of the row, so selecting is enough for it to isolate.
  have hisolates : ∀ e ∈ s.explained, decide (e.direction = d ∧ e.policy.isolates d w) =
      decide (e.direction = d ∧ e.policy.selects w) := by
    intro e he
    have heq := (mem_explained_iff.mp he).2.isolates_eq w
    rw [decide_eq_decide, and_congr_right_iff]
    rintro rfl
    rw [heq]
  rw [List.filter_congr hisolates, s.filter_explained d (·.selects w), List.filterMap_flatMap]
  simp only [Policy.filterMap_explained]

/-- Every isolated direction has a row, though perhaps no rule. -/
theorem isIsolated_iff_explained {d : Direction} :
    ((s.resolve w).direction d).isIsolated = true ↔
      ∃ e ∈ s.explained, e.direction = d ∧ e.policy.selects w := by
  rw [isIsolated_resolve]
  constructor
  · rintro ⟨p, hp, hisolates⟩
    obtain ⟨hselects, hdeclared⟩ := Bool.and_eq_true_iff.mp hisolates
    obtain ⟨rules, hrules⟩ := Option.isSome_iff_exists.mp hdeclared
    cases rules with
    | nil => exact ⟨⟨p, d, none⟩, mem_explained_iff.mpr ⟨hp, .denyAll hrules⟩, rfl, hselects⟩
    | cons r rest =>
      exact ⟨⟨p, d, some (0, r)⟩, mem_explained_iff.mpr ⟨hp, .rule hrules rfl⟩, rfl, hselects⟩
  · rintro ⟨e, he, rfl, hselects⟩
    obtain ⟨hp, hdeclared⟩ := mem_explained_iff.mp he
    exact ⟨e.policy, hp, (hdeclared.isolates_eq w).trans hselects⟩

/-- The rows of the explanation stand in order and are those of all that the policies declare. What
a model holds for a workload has just the rules of the rows of the policies that isolate it, each
one once, and isolates it where some row of a policy that selects it stands. -/
theorem explain_complete (h : PolicySet.compile docs = .ok s) :
    s.explain = Text.grid (["Policy", "Target", "Direction", "Peers", "Ports"] ::
      s.explained.map Explained.row) ∧
    s.explained.Pairwise Explained.Precedes ∧
    (∀ e, e ∈ s.explained ↔ e.policy ∈ s.policies ∧ e.Declared) ∧
    (∀ e ∈ s.explained, e.row = e.denyRow ↔ e.rule = none) ∧
    (∀ topology : Topology, ∀ w ∈ topology.workloads,
      (PolicyModel.build s topology).get? w.id = some (s.resolve w)) ∧
    ∀ w d,
      ((s.resolve w).direction d).rules =
        (s.explained.filter fun e => e.direction = d ∧ e.policy.isolates d w).filterMap
          Explained.targetRule? ∧
      ((s.resolve w).direction d).rules.Pairwise TargetRule.Precedes ∧
      (((s.resolve w).direction d).isIsolated = true ↔
        ∃ e ∈ s.explained, e.direction = d ∧ e.policy.selects w) := by
  refine ⟨explain_eq s, pairwise_explained h, fun e => mem_explained_iff,
    fun e _ => Explained.row_eq_denyRow_iff, fun topology w hw => ?_, fun w d => ?_⟩
  · rw [PolicyModel.get?_build, Topology.workload?_id hw, Option.map_some]
  · have hselected := (pairwise_policies h).filter (·.selects w)
    obtain ⟨_, hrules⟩ := (unites_resolve s w d).eq_of_ascending hselected
    refine ⟨?_, hrules ▸ Policy.pairwise_flatMap_ownRules hselected, isIsolated_iff_explained⟩
    rw [hrules, filterMap_filter_explained]

end PolicySet

namespace Sample

/-- Pods `a` get one rule from two policies, and pods `b` none from two. -/
theorem explain_of_guardA_closeB_sealAll :
    ∃ s, PolicySet.compile [guardA, closeB, sealAll] = .ok s ∧
      s.explain = Text.grid [["Policy", "Target", "Direction", "Peers", "Ports"],
        ["x/0", "pods[all]", "ingress", "(none: deny all)", "-"],
        ["x/0", "pods[all]", "egress", "all", "all"],
        ["x/1", "pods[pod=a]", "ingress", "ns:x pods[pod=b]", "all"],
        ["x/2", "pods[pod=b]", "ingress", "(none: deny all)", "-"]] ∧
      (PolicyModel.build s topology).get? a.id = some (s.resolve a) ∧
      (s.resolve a).ingress.rules = policyA.ownRules .ingress ∧
      (s.resolve b).ingress.rules = [] ∧ (s.resolve b).ingress.isIsolated = true ∧
      ⟨policyB, .egress, none⟩ ∉ s.explained := by
  have hcompile : PolicySet.compile [guardA, closeB, sealAll] =
      .ok ⟨[policyAll, policyA, policyB]⟩ := by cbv
  obtain ⟨hexplain, _, hmem, _, hmodel, hsides⟩ := PolicySet.explain_complete hcompile
  obtain ⟨hrulesA, _, _⟩ := hsides a .ingress
  obtain ⟨hrulesB, _, hisolatedB⟩ := hsides b .ingress
  have ha : a ∈ topology.workloads := by decide
  have hdenyB : ⟨policyB, .ingress, none⟩ ∈ PolicySet.explained ⟨[policyAll, policyA, policyB]⟩ :=
    (hmem _).mpr ⟨by decide, .denyAll rfl⟩
  refine ⟨_, hcompile, hexplain.trans ?_, hmodel topology a ha, hrulesA.trans ?_,
    hrulesB.trans ?_, hisolatedB.mpr ⟨_, hdenyB, rfl, ?_⟩, fun he => ?_⟩
  · exact congrArg (fun rows => Text.grid (_ :: rows)) (by cbv)
  · cbv
  · cbv
  · cbv
  · cases ((hmem _).mp he).2 with
    | denyAll hrules => cases hrules

end Sample

end PolicyReach
