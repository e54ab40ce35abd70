import PolicyReach.Proofs.Resolution

/-!
# Adding a rule to a policy

What a rule compiles to does not depend on its place in the list, only what is said of its defects
does. A policy that gets one more rule for a direction that it declares therefore keeps the others:
it isolates the same workloads, and whatever it admitted it still admits.
-/
namespace PolicyReach

section Except

variable {ε α β : Type}

theorem toOption_eq_some_iff {x : Except ε α} {a : α} : x.toOption = some a ↔ x = .ok a := by
  cases x <;> simp [Except.toOption]

theorem toOption_bind (x : Except ε α) (f : α → Except ε β) :
    (x >>= f).toOption = x.toOption.bind fun a => (f a).toOption := by
  cases x <;> rfl

theorem toOption_mapM_congr {f g : α → Except ε β} (h : ∀ a, (f a).toOption = (g a).toOption)
    (l : List α) : (l.mapM f).toOption = (l.mapM g).toOption := by
  induction l with
  | nil => rfl
  | cons a rest ih => simp only [List.mapM_cons, toOption_bind, h, ih]

end Except

theorem Evaluation.verdict_eq_allowed_iff {e : Evaluation} :
    e.verdict = .allowed ↔ ∀ d, e.side d ≠ .denied := by
  rw [← isAllowed_iff, verdict, Verdict.ofAllowed_eq_allowed_iff]

/-! ### Places of rules -/

section Places

variable {a b : RuleRef}

theorem toOption_compileBlock (a b : RuleRef) (cidr : String) :
    (compileBlock a cidr).toOption = (compileBlock b cidr).toOption := by
  rw [compileBlock, compileBlock]
  cases Network.parseBlock? cidr <;> rfl

theorem toOption_compileExcept (a b : RuleRef) (net : Network) (cidr : String) :
    (compileExcept a net cidr).toOption = (compileExcept b net cidr).toOption := by
  rw [compileExcept, compileExcept, toOption_bind, toOption_bind, toOption_compileBlock a b]
  refine Option.bind_congr fun except _ => ?_
  split <;> rfl

theorem toOption_checkSelector (a b : RuleRef) (field : SelectorField) (s : Selector) :
    (checkSelector a field s).toOption = (checkSelector b field s).toOption := by
  rw [checkSelector, checkSelector]
  cases s.check <;> rfl

/-- The place of a rule shows in a peer only by the namespace of the policy. -/
theorem toOption_compilePeer (h : a.policy.ns = b.policy.ns) (p : Document.Peer) :
    (compilePeer a p).toOption = (compilePeer b p).toOption := by
  obtain ⟨pods, namespaces, block⟩ := p
  cases block with
  | some block =>
    cases pods with
    | some pods => rfl
    | none =>
      cases namespaces with
      | some namespaces => rfl
      | none =>
        simp only [compilePeer, toOption_bind, toOption_compileBlock a b,
          toOption_mapM_congr (toOption_compileExcept a b _)]
  | none =>
    cases namespaces with
    | some namespaces =>
      cases pods <;> simp only [compilePeer, toOption_bind, toOption_checkSelector a b]
    | none =>
      cases pods with
      | none => rfl
      | some pods =>
        simp only [compilePeer, toOption_bind, toOption_checkSelector a b, h]

theorem toOption_compilePort (a b : RuleRef) (p : Document.PortRange) :
    (compilePort a p).toOption = (compilePort b p).toOption := by
  obtain ⟨protocol, port, last⟩ := p
  rcases port with - | ⟨n, _⟩ | s <;> cases last <;> try rfl
  simp only [compilePort]
  split <;> rfl

theorem toOption_compileRule (h : a.policy.ns = b.policy.ns) (r : Document.Rule) :
    (compileRule a r).toOption = (compileRule b r).toOption := by
  simp only [compileRule, toOption_bind, toOption_mapM_congr (toOption_compilePeer h),
    toOption_mapM_congr (toOption_compilePort a b)]

end Places

theorem compileRule_place (policy : PolicyRef) (d : Direction) (i j : ℕ) {r : Document.Rule}
    {rule : Rule} :
    compileRule ⟨policy, d, i⟩ r = .ok rule ↔ compileRule ⟨policy, d, j⟩ r = .ok rule := by
  have h := toOption_compileRule (a := ⟨policy, d, i⟩) (b := ⟨policy, d, j⟩) rfl r
  rw [← toOption_eq_some_iff, ← toOption_eq_some_iff, h]

/-- The rules of a list compile as if each stood first. -/
theorem compileRules_eq_ok_iff {policy : PolicyRef} {d : Direction} {index : ℕ}
    {docs : List Document.Rule} {rules : List Rule} :
    compileRules policy d index docs = .ok rules ↔
      docs.map (compileRule ⟨policy, d, 0⟩) = rules.map .ok := by
  induction docs generalizing index rules with
  | nil => cases rules <;> simp [compileRules]
  | cons r rest ih =>
    simp only [compileRules, bind_eq_ok_iff, pure_eq_ok_iff, ih, compileRule_place policy d index 0]
    constructor
    · rintro ⟨rule, hr, rules, hrest, rfl⟩
      simp [hr, hrest]
    · intro h
      obtain ⟨rule, rules, rfl, hr, hrest⟩ := List.map_eq_cons_iff.mp h.symm
      exact ⟨rule, hr.symm, rules, hrest.symm, rfl⟩

theorem Policy.mem_rules_iff_of_compile {doc : Document.Policy} {p : Policy}
    (h : Policy.compile doc = .ok p) {d : Direction} (hd : doc.declares d = true) {rule : Rule} :
    rule ∈ (p.rules d).getD [] ↔
      ∃ r ∈ doc.rules d, compileRule ⟨p.id, d, 0⟩ r = .ok rule := by
  have hrules := compileDirection_eq_ok_iff.mp ((compile_eq_ok_iff.mp h).2 d)
  rw [if_pos hd] at hrules
  obtain ⟨rules, hcompiled, hrules⟩ := hrules
  have hmap := compileRules_eq_ok_iff.mp hcompiled
  rw [hrules, Option.getD_some, ← List.mem_map, hmap,
    List.mem_map_of_injective fun a b hab => by simpa using hab]

/-! ### Policies with more rules -/

/-- Both are about the same workloads and directions, and `q` has all rules of `p`. -/
structure Policy.Extends (p q : Policy) : Prop where
  id : q.id = p.id
  target : q.target = p.target
  declared : ∀ d, (q.rules d).isSome = (p.rules d).isSome
  rules : ∀ d, ∀ r ∈ (p.rules d).getD [], r ∈ (q.rules d).getD []

namespace Policy.Extends

variable {p q : Policy} {d : Direction} {w : Workload}

theorem refl (p : Policy) : p.Extends p := ⟨rfl, rfl, fun _ => rfl, fun _ _ h => h⟩

theorem isolates (h : p.Extends q) : q.isolates d w = p.isolates d w :=
  isolates_congr h.id h.target (h.declared d)

theorem admits (h : p.Extends q) {peer : Workload} {ns : Namespace} {t : Traffic}
    (hp : p.admits d peer ns t = true) : q.admits d peer ns t = true := by
  obtain ⟨r, hr, hmatch⟩ := List.any_eq_true.mp hp
  exact List.any_eq_true.mpr ⟨r, h.rules d r hr, hmatch⟩

end Policy.Extends

/-- Each policy of one set is extended by one of the other, and no other policy is there. -/
structure PolicySet.Extends (s u : PolicySet) : Prop where
  forth : ∀ p ∈ s.policies, ∃ q ∈ u.policies, p.Extends q
  back : ∀ q ∈ u.policies, ∃ p ∈ s.policies, p.Extends q

namespace PolicySet.Extends

variable {s u : PolicySet} {d : Direction} {w peer : Workload} {ns : Namespace} {t : Traffic}

theorem isolatedBy_resolve (h : s.Extends u) :
    ((u.resolve w).direction d).isolatedBy = ((s.resolve w).direction d).isolatedBy := by
  refine SortedSet.ext_mem fun id => ?_
  rw [mem_isolatedBy_resolve, mem_isolatedBy_resolve]
  constructor
  · rintro ⟨q, hq, hiso, rfl⟩
    obtain ⟨p, hp, hpq⟩ := h.back q hq
    exact ⟨p, hp, hpq.isolates ▸ hiso, hpq.id.symm⟩
  · rintro ⟨p, hp, hiso, rfl⟩
    obtain ⟨q, hq, hpq⟩ := h.forth p hp
    exact ⟨q, hq, hpq.isolates.trans hiso, hpq.id⟩

/-- The policies that admit a flow still do. -/
theorem admission_resolve_eq_allowed (h : s.Extends u) {ps : SortedSet PolicyRef}
    (hps : ((s.resolve w).direction d).admission peer ns t = .allowed ps) :
    ∃ qs, ((u.resolve w).direction d).admission peer ns t = .allowed qs ∧ ∀ id ∈ ps, id ∈ qs := by
  obtain ⟨hne, hmem⟩ := admission_resolve_eq_allowed_iff.mp hps
  have hsubset : ∀ id ∈ ps, id ∈ ((u.resolve w).direction d).admitting peer ns t := by
    intro id hid
    obtain ⟨p, hp, hiso, hadm, rfl⟩ := (hmem id).mp hid
    obtain ⟨q, hq, hpq⟩ := h.forth p hp
    exact mem_admitting_resolve.mpr ⟨q, hq, hpq.isolates.trans hiso, hpq.admits hadm, hpq.id⟩
  refine ⟨_, admission_resolve_eq_allowed_iff.mpr ⟨fun hempty => hne ?_, fun id =>
    mem_admitting_resolve⟩, hsubset⟩
  refine SortedSet.eq_empty_iff.mpr fun id hid => ?_
  exact SortedSet.eq_empty_iff.mp hempty id (hsubset id hid)

/-- A side that denies denied before. -/
theorem admission_resolve_eq_denied (h : s.Extends u)
    (hu : ((u.resolve w).direction d).admission peer ns t = .denied) :
    ((s.resolve w).direction d).admission peer ns t = .denied := by
  obtain ⟨⟨q, hq, hiso⟩, hno⟩ := admission_resolve_eq_denied_iff.mp hu
  obtain ⟨p, hp, hpq⟩ := h.back q hq
  refine admission_resolve_eq_denied_iff.mpr ⟨⟨p, hp, hpq.isolates ▸ hiso⟩, ?_⟩
  intro p hp hiso
  obtain ⟨q, hq, hpq⟩ := h.forth p hp
  by_contra hadm
  have hq := hno q hq (hpq.isolates.trans hiso)
  exact Bool.eq_false_iff.mp hq (hpq.admits (by simpa using hadm))

end PolicySet.Extends

/-! ### Documents with one more rule -/

namespace Document.Policy

/-- The same document with a rule added at a place of a direction's list. -/
def insertRule (doc : Policy) (d : Direction) (place : ℕ) (r : Rule) : Policy :=
  doc.withRules d (some ((doc.rules d).insertIdx place r))

variable {doc : Policy} {d : Direction}

theorem mem_rules_insertRule {e : Direction} {r : Rule} (place : ℕ) (new : Rule)
    (h : r ∈ doc.rules e) : r ∈ (doc.insertRule d place new).rules e := by
  rw [insertRule, rules_withRules]
  by_cases hed : e = d
  · subst hed
    by_cases hplace : place ≤ (doc.rules e).length
    · simpa [List.mem_insertIdx hplace] using .inr h
    · simpa [List.insertIdx_of_length_lt (Nat.lt_of_not_le hplace)] using h
  · simpa [hed] using h

/-- Without types the rules themselves tell the directions, so the new one must not be the first. -/
theorem declares_insertRule (hd : doc.declares d = true) (place : ℕ) (r : Rule) (e : Direction) :
    (doc.insertRule d place r).declares e = doc.declares e := by
  by_cases htypes : doc.spec.policyTypes.getD [] = []
  · have hrules : ((doc.insertRule d place r).rules .egress).isEmpty =
        (doc.rules .egress).isEmpty := by
      cases d with
      | ingress => simp [insertRule, rules_withRules]
      | egress =>
        have hne : (doc.rules .egress).isEmpty = false := by simpa [declares, htypes] using hd
        obtain ⟨rule, hrule⟩ := List.exists_mem_of_ne_nil _ (List.isEmpty_eq_false_iff.mp hne)
        rw [hne, List.isEmpty_eq_false_iff]
        exact List.ne_nil_of_mem (mem_rules_insertRule place r hrule)
    rw [declares, declares, insertRule, policyTypes_withRules, ← insertRule, htypes, hrules]
  · exact declares_withRules htypes d e _

end Document.Policy

/-- A document with a rule more compiles to a policy with a rule more. -/
theorem Policy.extends_of_insertRule {doc : Document.Policy} {d : Direction} {place : ℕ}
    {r : Document.Rule} {p q : Policy} (hd : doc.declares d = true)
    (hp : Policy.compile doc = .ok p) (hq : Policy.compile (doc.insertRule d place r) = .ok q) :
    p.Extends q := by
  obtain ⟨hid, htarget⟩ := id_and_target_eq (compileTarget_withRules doc d _) hp hq
  refine ⟨hid, htarget, fun e => ?_, fun e rule hrule => ?_⟩
  · rw [isSome_rules hq, isSome_rules hp, Document.Policy.declares_insertRule hd]
  · have he : doc.declares e = true := by
      rw [← isSome_rules hp]
      cases hrules : p.rules e with
      | none => simp [hrules] at hrule
      | some rules => rfl
    obtain ⟨raw, hraw, hcompiled⟩ := (mem_rules_iff_of_compile hp he).mp hrule
    have he' := (Document.Policy.declares_insertRule hd place r e).trans he
    refine (mem_rules_iff_of_compile hq he').mpr
      ⟨raw, Document.Policy.mem_rules_insertRule place r hraw, ?_⟩
    rw [hid]
    exact hcompiled

namespace PolicySet

variable {A B : List Document.Policy} {doc doc' : Document.Policy} {s u : PolicySet}

/-- Replacing a document leaves all policies but its own. -/
theorem mem_policies_of_replaced (h : PolicySet.compile (A ++ doc :: B) = .ok s)
    (h' : PolicySet.compile (A ++ doc' :: B) = .ok u) {p : Policy} (hp : p ∈ s.policies) :
    p ∈ u.policies ∨ Policy.compile doc = .ok p := by
  obtain ⟨raw, hraw, hcompiled⟩ := (mem_policies_iff h).mp hp
  by_cases hdoc : raw = doc
  · exact .inr (hdoc ▸ hcompiled)
  · refine .inl ((mem_policies_iff h').mpr ⟨raw, ?_, hcompiled⟩)
    simp only [List.mem_append, List.mem_cons, hdoc, false_or] at hraw ⊢
    exact hraw.imp_right .inr

theorem extends_of_compile (h : PolicySet.compile (A ++ doc :: B) = .ok s)
    (h' : PolicySet.compile (A ++ doc' :: B) = .ok u)
    (hdoc : ∀ p q, Policy.compile doc = .ok p → Policy.compile doc' = .ok q → p.Extends q) :
    s.Extends u := by
  obtain ⟨p', hpmem, hp'⟩ := exists_compile_of_mem h (List.mem_append_right A List.mem_cons_self)
  obtain ⟨q', hqmem, hq'⟩ := exists_compile_of_mem h' (List.mem_append_right A List.mem_cons_self)
  constructor
  · intro p hp
    rcases mem_policies_of_replaced h h' hp with hq | hcompiled
    · exact ⟨p, hq, .refl p⟩
    · exact ⟨q', hqmem, hdoc p q' hcompiled hq'⟩
  · intro q hq
    rcases mem_policies_of_replaced h' h hq with hp | hcompiled
    · exact ⟨q, hp, .refl q⟩
    · exact ⟨p', hpmem, hdoc p' q hp' hcompiled⟩

end PolicySet

namespace PolicyModel

/-- A rule more for a direction that a policy declares isolates nothing else, and what was allowed
is still allowed by the same policies and perhaps by others. -/
theorem insertRule_monotone {A B : List Document.Policy} {doc : Document.Policy} {p : Policy}
    {d : Direction} (place : ℕ) (r : Document.Rule) {topology : Topology} {m m' : PolicyModel}
    (hp : Policy.compile doc = .ok p) (hd : (p.rules d).isSome)
    (h : PolicyModel.compile (A ++ doc :: B) topology = .ok m)
    (h' : PolicyModel.compile (A ++ doc.insertRule d place r :: B) topology = .ok m') :
    (∀ w e, ((m'.workload w).direction e).isolatedBy = ((m.workload w).direction e).isolatedBy) ∧
    (∀ t, (m.evaluate topology t).verdict = .allowed →
      (m'.evaluate topology t).verdict = .allowed) ∧
    ∀ t e ps, (m.evaluate topology t).side e = .allowed ps →
      ∃ qs, (m'.evaluate topology t).side e = .allowed qs ∧ ∀ id ∈ ps, id ∈ qs := by
  obtain ⟨s, hs, rfl⟩ := compile_eq_ok_iff.mp h
  obtain ⟨u, hu, rfl⟩ := compile_eq_ok_iff.mp h'
  have hdeclared : doc.declares d = true := (Policy.isSome_rules hp d).symm.trans hd
  have hextends : s.Extends u := PolicySet.extends_of_compile hs hu fun _ _ =>
    Policy.extends_of_insertRule hdeclared
  refine ⟨fun w e => ?_, fun t hallowed => ?_, fun t e ps hps => ?_⟩
  · rw [workload_build, workload_build]
    exact hextends.isolatedBy_resolve
  · rw [Evaluation.verdict_eq_allowed_iff] at hallowed ⊢
    intro e hdenied
    rw [side_evaluate_build] at hdenied
    refine hallowed e ?_
    rw [side_evaluate_build]
    exact hextends.admission_resolve_eq_denied hdenied
  · rw [side_evaluate_build] at hps ⊢
    exact hextends.admission_resolve_eq_allowed hps

end PolicyModel

namespace Sample

/-- Lets pods `a` reach what the policy is about, on one port. -/
def fromA : Document.Rule := ⟨some [.pods (pods "a")], some [.single .tcp (.name "http")]⟩

/-- Policy `1` with that rule before its own. -/
def policyAB : Policy :=
  ⟨⟨"x", "1"⟩, pods "a",
    some [⟨[.workloads (.named "x") (pods "a")], [.name .tcp "http"]⟩,
      ⟨[.workloads (.named "x") (pods "b")], []⟩], none⟩

/-- The rule for pods `b` goes down to the second place and still lets them reach `a`. -/
theorem allowed_of_insertRule :
    (policyA.rules .ingress).isSome ∧
    ∃ m, PolicyModel.compile ([] ++ guardA.insertRule .ingress 0 fromA :: [closeB]) topology =
        .ok m ∧
      (∀ w e, ((m.workload w).direction e).isolatedBy =
        ((model.workload w).direction e).isolatedBy) ∧
      (model.evaluate topology (request b a)).verdict = .allowed ∧
      (m.evaluate topology (request b a)).verdict = .allowed ∧
      ∃ qs, (m.evaluate topology (request b a)).side .ingress = .allowed qs ∧ ⟨"x", "1"⟩ ∈ qs := by
  have hp : Policy.compile guardA = .ok policyA := by cbv
  have hm : PolicyModel.compile ([] ++ guardA.insertRule .ingress 0 fromA :: [closeB]) topology =
      .ok (.build ⟨[policyAB, policyB]⟩ topology) := by cbv
  obtain ⟨hisolated, hverdict, hside⟩ :=
    PolicyModel.insertRule_monotone 0 fromA hp (d := .ingress) rfl (A := []) compile_docs hm
  have hallowed : (model.evaluate topology (request b a)).verdict = .allowed := by cbv
  have hadmitted : (model.evaluate topology (request b a)).side .ingress =
      .allowed (.ofList [⟨"x", "1"⟩]) := by cbv
  obtain ⟨qs, hqs, hsubset⟩ := hside _ _ _ hadmitted
  exact ⟨rfl, _, hm, hisolated, hallowed, hverdict _ hallowed, qs, hqs,
    hsubset _ (SortedSet.mem_ofList.mpr List.mem_cons_self)⟩

end Sample

end PolicyReach
