import PolicyReach.Model
import PolicyReach.Proofs.Checks

/-!
# What compiling accepts

A set compiles if each document does and no two of them have the same id. The compiled policies are
then those of the documents, sorted by id, so that the order of the documents leaves no trace.
-/
namespace PolicyReach

/-- The shortest part from the front of a list that fails ends in the element that is to blame. -/
theorem exists_first_failure {α : Type} {P : List α → Prop} {l : List α} (hnil : P [])
    (h : ¬ P l) : ∃ before a after, l = before ++ a :: after ∧ P before ∧ ¬ P (before ++ [a]) := by
  induction l using List.reverseRecOn with
  | nil => exact absurd hnil h
  | append_singleton rest a ih =>
    by_cases hrest : P rest
    · exact ⟨rest, a, [], rfl, hrest, h⟩
    · obtain ⟨before, b, after, hsplit, hbefore, hfails⟩ := ih hrest
      refine ⟨before, b, after ++ [a], ?_, hbefore, hfails⟩
      rw [hsplit, List.append_assoc, List.cons_append]

/-- Of any two values one is not behind the other. -/
theorem isLE_total {α : Type} {cmp : α → α → Ordering} [Std.OrientedCmp cmp] (a b : α) :
    (cmp a b).isLE || (cmp b a).isLE := by
  have hswap : cmp b a = (cmp a b).swap := Std.OrientedCmp.eq_swap
  rw [hswap]
  cases cmp a b <;> rfl

/-! ### One document -/

theorem compileTarget_eq_ok_iff {doc : Document.Policy} {id : PolicyRef} {target : Selector} :
    compileTarget doc = .ok (id, target) ↔
      doc.metadata.ns = some id.ns ∧ doc.metadata.name = some id.name ∧
      doc.spec.podSelector = some target ∧ target.check = .ok () := by
  obtain ⟨ns, name⟩ := id
  rw [compileTarget]
  split
  · next h => simp [h]
  · next h h' => simp [h, h']
  · next h h' h'' => simp [h, h', h'']
  · next n m s h h' h'' =>
    cases hs : s.check with
    | ok =>
      simp only [h, h', h'', Except.ok.injEq, Prod.mk.injEq, PolicyRef.mk.injEq, Option.some.injEq]
      constructor
      · rintro ⟨⟨rfl, rfl⟩, rfl⟩
        exact ⟨rfl, rfl, rfl, hs⟩
      · rintro ⟨rfl, rfl, rfl, _⟩
        exact ⟨⟨rfl, rfl⟩, rfl⟩
    | error e =>
      simp only [h, h', h'', reduceCtorEq, false_iff, Option.some.injEq]
      rintro ⟨_, _, rfl, hc⟩
      simp [hs] at hc

namespace Policy

theorem compile_eq_ok_iff {doc : Document.Policy} {p : Policy} :
    Policy.compile doc = .ok p ↔
      compileTarget doc = .ok (p.id, p.target) ∧
      ∀ d, compileDirection p.id doc d = .ok (p.rules d) := by
  obtain ⟨id, target, ingress, egress⟩ := p
  simp only [Policy.compile, bind_eq_ok_iff, pure_eq_ok_iff, Policy.mk.injEq, Prod.exists]
  constructor
  · rintro ⟨_, _, ht, _, hi, _, he, rfl, rfl, rfl, rfl⟩
    refine ⟨ht, fun d => ?_⟩
    cases d with
    | ingress => exact hi
    | egress => exact he
  · rintro ⟨ht, hd⟩
    exact ⟨id, target, ht, ingress, hd .ingress, egress, hd .egress, rfl, rfl, rfl, rfl⟩

theorem compile_ns {doc : Document.Policy} {p : Policy} (h : Policy.compile doc = .ok p) :
    doc.metadata.ns = some p.id.ns :=
  (compileTarget_eq_ok_iff.mp (compile_eq_ok_iff.mp h).1).1

theorem compile_name {doc : Document.Policy} {p : Policy} (h : Policy.compile doc = .ok p) :
    doc.metadata.name = some p.id.name :=
  (compileTarget_eq_ok_iff.mp (compile_eq_ok_iff.mp h).1).2.1

/-- Documents about the same workloads under the same name keep both when they compile. -/
theorem id_and_target_eq {doc doc' : Document.Policy} {p q : Policy}
    (htarget : compileTarget doc' = compileTarget doc) (hp : Policy.compile doc = .ok p)
    (hq : Policy.compile doc' = .ok q) : q.id = p.id ∧ q.target = p.target := by
  have hpair := (compile_eq_ok_iff.mp hq).1
  rw [htarget, (compile_eq_ok_iff.mp hp).1] at hpair
  obtain ⟨hid, htarget⟩ := Prod.mk.inj (Except.ok.inj hpair)
  exact ⟨hid.symm, htarget.symm⟩

end Policy

theorem compileDirection_eq_ok_iff {policy : PolicyRef} {doc : Document.Policy} {d : Direction}
    {rules : Option (List Rule)} :
    compileDirection policy doc d = .ok rules ↔
      if doc.declares d then ∃ rs, compileRules policy d 0 (doc.rules d) = .ok rs ∧ rules = some rs
      else rules = none := by
  rw [compileDirection]
  split
  · simp only [map_eq_ok_iff, eq_comm (a := rules)]
  · simp [eq_comm]

/-- The rules of a list compile one by one, each under its own place. -/
theorem forall₂_of_compileRules {policy : PolicyRef} {d : Direction} {index : Nat}
    {docs : List Document.Rule} {rules : List Rule}
    (h : compileRules policy d index docs = .ok rules) :
    List.Forall₂ (fun doc rule => ∃ i, compileRule ⟨policy, d, i⟩ doc = .ok rule) docs rules := by
  induction docs generalizing index rules with
  | nil =>
    simp only [compileRules, Except.ok.injEq] at h
    subst h
    exact .nil
  | cons r rest ih =>
    simp only [compileRules, bind_eq_ok_iff, pure_eq_ok_iff] at h
    obtain ⟨rule, hr, rules, hrest, rfl⟩ := h
    exact .cons ⟨index, hr⟩ (ih hrest)

namespace Policy

/-- A compiled policy has rules for exactly the directions that its document declares. -/
theorem isSome_rules {doc : Document.Policy} {p : Policy} (h : Policy.compile doc = .ok p)
    (d : Direction) : (p.rules d).isSome = doc.declares d := by
  have hd := compileDirection_eq_ok_iff.mp ((compile_eq_ok_iff.mp h).2 d)
  split at hd
  · next hdecl =>
    obtain ⟨rs, _, hrs⟩ := hd
    simp [hrs, hdecl]
  · next hdecl => simp [hd, hdecl]

theorem forall₂_of_compile {doc : Document.Policy} {p : Policy} (h : Policy.compile doc = .ok p)
    {d : Direction} {rules : List Rule} (hrules : p.rules d = some rules) :
    List.Forall₂ (fun doc rule => ∃ i, compileRule ⟨p.id, d, i⟩ doc = .ok rule)
      (doc.rules d) rules := by
  have hd := compileDirection_eq_ok_iff.mp ((compile_eq_ok_iff.mp h).2 d)
  split at hd
  · obtain ⟨rs, hcompiled, hrs⟩ := hd
    obtain rfl : rules = rs := by simpa [hrules] using hrs
    exact forall₂_of_compileRules hcompiled
  · simp [hrules] at hd

end Policy

/-! ### Documents with other rules -/

namespace Document.Policy

/-- The same document with other rules for a direction. -/
def withRules (doc : Policy) (d : Direction) (rules : Option (List Rule)) : Policy :=
  match d with
  | .ingress => { doc with spec := { doc.spec with ingress := rules } }
  | .egress => { doc with spec := { doc.spec with egress := rules } }

theorem rules_withRules (doc : Policy) (d e : Direction) (rules : Option (List Rule)) :
    (doc.withRules d rules).rules e = if e = d then rules.getD [] else doc.rules e := by
  cases d <;> cases e <;> rfl

theorem policyTypes_withRules (doc : Policy) (d : Direction) (rules : Option (List Rule)) :
    (doc.withRules d rules).spec.policyTypes = doc.spec.policyTypes := by
  cases d <;> rfl

theorem declares_of_types {doc : Policy} (h : doc.spec.policyTypes.getD [] ≠ []) (d : Direction) :
    doc.declares d = (doc.spec.policyTypes.getD []).contains d := by
  rw [declares]
  split
  · next hnil => exact absurd hnil h
  · rfl

/-- Where types are listed, the rules do not matter. -/
theorem declares_withRules {doc : Policy} (h : doc.spec.policyTypes.getD [] ≠ [])
    (d e : Direction) (rules : Option (List Rule)) :
    (doc.withRules d rules).declares e = doc.declares e := by
  rw [declares_of_types h, declares_of_types ((policyTypes_withRules doc d rules).symm ▸ h),
    policyTypes_withRules]

end Document.Policy

/-- What a document is about does not depend on its rules. -/
theorem compileTarget_withRules (doc : Document.Policy) (d : Direction)
    (rules : Option (List Document.Rule)) :
    compileTarget (doc.withRules d rules) = compileTarget doc := by
  cases d <;> rfl

/-! ### A list of documents -/

namespace PolicySet

theorem idLe_trans (p q r : Policy) (hpq : idLe p q) (hqr : idLe q r) : idLe p r :=
  Std.TransCmp.isLE_trans hpq hqr

theorem idLe_total (p q : Policy) : idLe p q || idLe q p := isLE_total p.id q.id

theorem id_eq_of_idLe {p q : Policy} (hpq : idLe p q) (hqp : idLe q p) : p.id = q.id :=
  Std.LawfulEqOrd.eq_of_compare (Std.OrientedCmp.isLE_antisymm hpq hqp)

theorem pairwise_sort (ps : List Policy) : (ps.mergeSort idLe).Pairwise fun p q => idLe p q :=
  List.pairwise_mergeSort idLe_trans idLe_total ps

/-- In a sorted list equal ids stand side by side. -/
theorem not_mem_ids_of_ne {p q : Policy} {rest : List Policy}
    (h : (p :: q :: rest).Pairwise fun p q => idLe p q) (hne : p.id ≠ q.id) :
    p.id ∉ (q :: rest).map (·.id) := by
  have ⟨hp, hrest⟩ := List.pairwise_cons.mp h
  intro hmem
  obtain ⟨r, hr, heq⟩ := List.mem_map.mp hmem
  have hqr : idLe q r := by
    rcases List.mem_cons.mp hr with rfl | hr
    · simpa using idLe_total r r
    · exact (List.pairwise_cons.mp hrest).1 r hr
  have hrp : idLe r p := by simp [idLe, heq, Std.ReflCmp.compare_self]
  exact hne (id_eq_of_idLe (hp q List.mem_cons_self) (idLe_trans q r p hqr hrp))

theorem firstDuplicate?_eq_none_iff {ps : List Policy} (h : ps.Pairwise fun p q => idLe p q) :
    firstDuplicate? ps = none ↔ (ps.map (·.id)).Nodup := by
  induction ps with
  | nil => simp [firstDuplicate?]
  | cons p rest ih =>
    cases rest with
    | nil => simp [firstDuplicate?]
    | cons q rest =>
      rw [firstDuplicate?]
      by_cases hpq : p.id = q.id
      · simp [hpq]
      · rw [if_neg hpq, ih h.of_cons, List.map_cons (l := q :: rest), List.nodup_cons]
        exact (and_iff_right (not_mem_ids_of_ne h hpq)).symm

/-- Of the ids that repeat in a sorted list the first one found is the least. -/
theorem duplicate_of_firstDuplicate? {ps : List Policy} {id : PolicyRef}
    (h : ps.Pairwise fun p q => idLe p q) (hid : firstDuplicate? ps = some id) :
    (ps.map (·.id)).Duplicate id ∧
      ∀ other, (ps.map (·.id)).Duplicate other → (compare id other).isLE := by
  induction ps with
  | nil => cases hid
  | cons p rest ih =>
    cases rest with
    | nil => cases hid
    | cons q rest =>
      rw [firstDuplicate?] at hid
      split at hid
      · next hpq =>
        obtain rfl := Option.some.inj hid
        refine ⟨List.Mem.duplicate_cons_self (by simp [hpq]), fun other hother => ?_⟩
        obtain ⟨r, hr, rfl⟩ := List.mem_map.mp hother.mem
        rcases List.mem_cons.mp hr with rfl | hr
        · simp [Std.ReflCmp.compare_self]
        · exact (List.pairwise_cons.mp h).1 r hr
      · next hpq =>
        obtain ⟨hdup, hleast⟩ := ih h.of_cons hid
        refine ⟨hdup.duplicate_cons p.id, fun other hother => ?_⟩
        rcases List.duplicate_cons_iff.mp hother with ⟨rfl, hmem⟩ | hother
        · exact absurd hmem (not_mem_ids_of_ne h hpq)
        · exact hleast other hother

theorem firstDuplicate?_sort_eq_none_iff {ps : List Policy} :
    firstDuplicate? (ps.mergeSort idLe) = none ↔ (ps.map (·.id)).Nodup := by
  rw [firstDuplicate?_eq_none_iff (pairwise_sort ps),
    ((List.mergeSort_perm ps idLe).map (·.id)).nodup_iff]

theorem firstDuplicate?_congr {ps qs : List Policy} (h : ps.map (·.id) = qs.map (·.id)) :
    firstDuplicate? ps = firstDuplicate? qs := by
  induction ps generalizing qs with
  | nil =>
    obtain rfl : qs = [] := by simpa using h.symm
    rfl
  | cons p ps ih =>
    obtain ⟨q, qs, rfl, hq, hqs⟩ := List.map_eq_cons_iff.mp h.symm
    cases ps with
    | nil =>
      obtain rfl : qs = [] := by simpa using hqs
      rfl
    | cons p' ps =>
      obtain ⟨q', qs, rfl, hq', _⟩ := List.map_eq_cons_iff.mp hqs
      rw [firstDuplicate?, firstDuplicate?, ih hqs.symm]
      simp only [hq, hq']

theorem sort_ids_eq_of_perm {ps qs : List Policy} (h : ps.Perm qs) :
    (ps.mergeSort idLe).map (·.id) = (qs.mergeSort idLe).map (·.id) := by
  have hperm := (List.mergeSort_perm ps idLe).trans (h.trans (List.mergeSort_perm qs idLe).symm)
  refine (hperm.map (·.id)).eq_of_pairwise
    (fun a b _ _ hab hba => Std.LawfulEqOrd.eq_of_compare (Std.OrientedCmp.isLE_antisymm hab hba))
    (List.pairwise_map.mpr (pairwise_sort ps)) (List.pairwise_map.mpr (pairwise_sort qs))

/-- Sorting is stable, which does not show where ids differ. -/
theorem sort_eq_of_perm {ps qs : List Policy} (h : ps.Perm qs) (hd : (ps.map (·.id)).Nodup) :
    ps.mergeSort idLe = qs.mergeSort idLe := by
  have hperm := (List.mergeSort_perm ps idLe).trans (h.trans (List.mergeSort_perm qs idLe).symm)
  refine hperm.eq_of_pairwise (fun a b ha hb hab hba => ?_) (pairwise_sort ps) (pairwise_sort qs)
  exact List.inj_on_of_nodup_map hd (List.mem_mergeSort.mp ha)
    (h.mem_iff.mpr (List.mem_mergeSort.mp hb)) (id_eq_of_idLe hab hba)

theorem compile_of_valid {docs : List Document.Policy} {ps : List Policy}
    (h : docs.map Policy.compile = ps.map .ok) :
    PolicySet.compile docs =
      match firstDuplicate? (ps.mergeSort idLe) with
      | some id => .error (.duplicate id)
      | none => .ok ⟨ps.mergeSort idLe⟩ := by
  rw [PolicySet.compile, mapM_eq_ok_iff.mpr h]
  rfl

theorem exists_of_compile {docs : List Document.Policy} {s : PolicySet}
    (h : PolicySet.compile docs = .ok s) : ∃ ps : List Policy,
      docs.map Policy.compile = ps.map .ok := by
  obtain ⟨ps, hps, _⟩ := bind_eq_ok_iff.mp h
  exact ⟨ps, mapM_eq_ok_iff.mp hps⟩

theorem exists_of_valid {docs : List Document.Policy}
    (h : ∀ doc ∈ docs, ∃ p, Policy.compile doc = .ok p) : ∃ ps : List Policy,
      docs.map Policy.compile = ps.map .ok := by
  induction docs with
  | nil => exact ⟨[], rfl⟩
  | cons doc rest ih =>
    obtain ⟨p, hp⟩ := h doc List.mem_cons_self
    obtain ⟨ps, hps⟩ := ih fun doc hdoc => h doc (List.mem_cons_of_mem _ hdoc)
    exact ⟨p :: ps, by simp [hp, hps]⟩

theorem compile_eq_ok_iff {docs : List Document.Policy} {s : PolicySet} :
    PolicySet.compile docs = .ok s ↔
      ∃ ps : List Policy, docs.map Policy.compile = ps.map .ok ∧ (ps.map (·.id)).Nodup ∧
        s = ⟨ps.mergeSort idLe⟩ := by
  constructor
  · intro h
    obtain ⟨ps, hps⟩ := exists_of_compile h
    rw [compile_of_valid hps] at h
    refine ⟨ps, hps, ?_⟩
    cases hd : firstDuplicate? (ps.mergeSort idLe) with
    | some id => simp [hd] at h
    | none =>
      simp only [hd, Except.ok.injEq] at h
      exact ⟨firstDuplicate?_sort_eq_none_iff.mp hd, h.symm⟩
  · rintro ⟨ps, hps, hd, rfl⟩
    rw [compile_of_valid hps, firstDuplicate?_sort_eq_none_iff.mpr hd]

/-- The policies of a set are in strictly ascending order of their ids. -/
theorem pairwise_policies {docs : List Document.Policy} {s : PolicySet}
    (h : PolicySet.compile docs = .ok s) :
    s.policies.Pairwise fun p q => compare p.id q.id = .lt := by
  obtain ⟨ps, _, hids, rfl⟩ := compile_eq_ok_iff.mp h
  have hsorted := (((List.mergeSort_perm ps idLe).map (·.id)).nodup_iff.mpr hids)
  refine (pairwise_sort ps).and (List.pairwise_map.mp hsorted) |>.imp fun ⟨hle, hne⟩ => ?_
  have hcmp : compare _ _ ≠ Ordering.eq := fun heq => hne (Std.LawfulEqOrd.eq_of_compare heq)
  exact Ordering.isLE_iff_eq_lt_or_eq_eq.mp hle |>.resolve_right hcmp

/-- Leaving documents out cannot make compiling fail. -/
theorem exists_compile_of_sublist {docs docs' : List Document.Policy} {s : PolicySet}
    (h : PolicySet.compile docs = .ok s) (hsub : docs'.Sublist docs) :
    ∃ s', PolicySet.compile docs' = .ok s' := by
  obtain ⟨ps, hps, hd, _⟩ := compile_eq_ok_iff.mp h
  obtain ⟨ps', hps', heq⟩ := List.sublist_map_iff.mp (hps ▸ hsub.map Policy.compile)
  exact ⟨_, compile_eq_ok_iff.mpr ⟨ps', heq, hd.sublist (hps'.map _), rfl⟩⟩

/-- The policies of a set are what its documents compile to, one for each. -/
theorem policies_perm {docs : List Document.Policy} {s : PolicySet}
    (h : PolicySet.compile docs = .ok s) :
    (s.policies.map Except.ok).Perm (docs.map Policy.compile) := by
  obtain ⟨ps, hps, _, rfl⟩ := compile_eq_ok_iff.mp h
  rw [hps]
  exact (List.mergeSort_perm ps idLe).map Except.ok

/-- The policies of a set are the compiled documents. -/
theorem mem_policies_iff {docs : List Document.Policy} {s : PolicySet}
    (h : PolicySet.compile docs = .ok s) {p : Policy} :
    p ∈ s.policies ↔ ∃ doc ∈ docs, Policy.compile doc = .ok p := by
  obtain ⟨ps, hps, _, rfl⟩ := compile_eq_ok_iff.mp h
  have : p ∈ ps ↔ Except.ok p ∈ docs.map Policy.compile := by
    rw [hps, List.mem_map_of_injective fun a b hab => by simpa using hab]
  rw [List.mem_mergeSort, this, List.mem_map]

theorem eq_of_id_eq {docs : List Document.Policy} {s : PolicySet}
    (h : PolicySet.compile docs = .ok s) {p q : Policy} (hp : p ∈ s.policies)
    (hq : q ∈ s.policies) (hid : p.id = q.id) : p = q := by
  obtain ⟨ps, _, hd, rfl⟩ := compile_eq_ok_iff.mp h
  exact List.inj_on_of_nodup_map hd (List.mem_mergeSort.mp hp) (List.mem_mergeSort.mp hq) hid

theorem exists_compile_of_mem {docs : List Document.Policy} {s : PolicySet}
    (h : PolicySet.compile docs = .ok s) {doc : Document.Policy} (hdoc : doc ∈ docs) :
    ∃ p ∈ s.policies, Policy.compile doc = .ok p := by
  obtain ⟨ps, hps⟩ := exists_of_compile h
  obtain ⟨p, hp, heq⟩ := List.mem_map.mp (hps ▸ List.mem_map_of_mem (f := Policy.compile) hdoc)
  exact ⟨p, (mem_policies_iff h).mpr ⟨doc, hdoc, heq.symm⟩, heq.symm⟩

theorem compile_append {A B : List Document.Policy} {s : PolicySet}
    (h : PolicySet.compile (A ++ B) = .ok s) :
    ∃ a b, PolicySet.compile A = .ok a ∧ PolicySet.compile B = .ok b ∧
      ∀ p, p ∈ s.policies ↔ p ∈ a.policies ∨ p ∈ b.policies := by
  obtain ⟨a, ha⟩ := exists_compile_of_sublist h (List.sublist_append_left A B)
  obtain ⟨b, hb⟩ := exists_compile_of_sublist h (List.sublist_append_right A B)
  refine ⟨a, b, ha, hb, fun p => ?_⟩
  simp only [mem_policies_iff h, mem_policies_iff ha, mem_policies_iff hb, List.mem_append,
    or_and_right, exists_or]

theorem compile_singleton {doc : Document.Policy} {p : Policy} (h : Policy.compile doc = .ok p) :
    PolicySet.compile [doc] = .ok ⟨[p]⟩ :=
  compile_eq_ok_iff.mpr ⟨[p], by simp [h], by simp, by simp⟩

/-- Permuted documents compile to permuted policies. -/
theorem exists_perm_of_valid {docs docs' : List Document.Policy} (h : docs.Perm docs')
    {ps : List Policy} (hps : docs.map Policy.compile = ps.map .ok) :
    ∃ ps' : List Policy, docs'.map Policy.compile = ps'.map .ok ∧ ps.Perm ps' := by
  induction h generalizing ps with
  | nil => exact ⟨ps, hps, .rfl⟩
  | cons doc _ ih =>
    obtain ⟨p, ps, rfl, hp, hrest⟩ := List.map_eq_cons_iff.mp hps.symm
    obtain ⟨ps', hps', hperm⟩ := ih hrest.symm
    exact ⟨p :: ps', by simp [hp, hps'], hperm.cons p⟩
  | swap b a rest =>
    obtain ⟨p, ps, rfl, hp, hrest⟩ := List.map_eq_cons_iff.mp hps.symm
    obtain ⟨q, ps, rfl, hq, hrest⟩ := List.map_eq_cons_iff.mp hrest
    exact ⟨q :: p :: ps, by simp [hp, hq, hrest], .swap q p ps⟩
  | trans _ _ ih ih' =>
    obtain ⟨ps', hps', hperm⟩ := ih hps
    obtain ⟨ps'', hps'', hperm'⟩ := ih' hps'
    exact ⟨ps'', hps'', hperm.trans hperm'⟩

/-- What compiling valid documents comes to does not depend on their order. -/
theorem compile_eq_of_perm {docs docs' : List Document.Policy} (h : docs.Perm docs')
    {ps : List Policy} (hps : docs.map Policy.compile = ps.map .ok) :
    PolicySet.compile docs' = PolicySet.compile docs := by
  obtain ⟨ps', hps', hperm⟩ := exists_perm_of_valid h hps
  rw [compile_of_valid hps, compile_of_valid hps',
    firstDuplicate?_congr (sort_ids_eq_of_perm hperm)]
  cases hd : firstDuplicate? (ps'.mergeSort idLe) with
  | some id => rfl
  | none => rw [sort_eq_of_perm hperm.symm (firstDuplicate?_sort_eq_none_iff.mp hd)]

end PolicySet

end PolicyReach
