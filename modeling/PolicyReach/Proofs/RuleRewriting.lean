import PolicyReach.Proofs.RuleInsertion
import PolicyReach.Proofs.Validation
import Mathlib.Logic.Relation

/-!
# Rewriting the rules of a policy

A rule asks for one of its peers and for one of its ports. It says the same as one rule for each
peer and each port, as long as a part without members, which asks for nothing, keeps none. Policies
whose rules say the same compile to policies that admit the same, and so decide every flow alike.
-/
namespace PolicyReach

namespace Document

section Parts

variable {α : Type} {P : α → Prop} {part part' : Option (List α)}

/-- What a part of a rule asks for: one of its members, or nothing if it has none. -/
def Meets (P : α → Prop) (part : Option (List α)) : Prop :=
  part.getD [] = [] ∨ ∃ x ∈ part.getD [], P x

/-- The part cut into parts with one member each. A part without members has nothing to cut. -/
def choices (part : Option (List α)) : List (Option (List α)) :=
  match part.getD [] with
  | [] => [part]
  | xs => xs.map fun x => some [x]

theorem meets_congr (h : ∀ x, x ∈ part'.getD [] ↔ x ∈ part.getD []) :
    Meets P part' ↔ Meets P part := by
  rw [Meets, Meets, List.eq_nil_iff_forall_not_mem, List.eq_nil_iff_forall_not_mem]
  simp only [h]

theorem meets_true (part : Option (List α)) : Meets (fun _ => True) part := by
  rw [Meets]
  by_cases hnil : part.getD [] = []
  · exact .inl hnil
  · obtain ⟨x, hx⟩ := List.exists_mem_of_ne_nil _ hnil
    exact .inr ⟨x, hx, trivial⟩

theorem exists_mem_choices_iff : (∃ c ∈ choices part, Meets P c) ↔ Meets P part := by
  rw [choices]
  split
  · simp
  · next xs hne =>
    rw [Meets, or_iff_right hne]
    simp [Meets]

theorem mem_of_mem_choices {c : Option (List α)} (hc : c ∈ choices part) {x : α}
    (hx : x ∈ c.getD []) : x ∈ part.getD [] := by
  rw [choices] at hc
  split at hc
  · rw [List.mem_singleton.mp hc] at hx
    exact hx
  · next xs hne =>
    obtain ⟨y, hy, rfl⟩ := List.mem_map.mp hc
    rw [List.mem_singleton.mp hx]
    exact hy

end Parts

namespace Rule

/-- One rule for each peer and each port of a rule. No peers stay no peers, which stand for all of
them, and so do ports. -/
def split (r : Rule) : List Rule :=
  (choices r.peers).flatMap fun peers => (choices r.ports).map fun ports => ⟨peers, ports⟩

/-- Both parts of the rule get what they ask for. -/
def Meets (P : Peer → Prop) (Q : PortRange → Prop) (r : Rule) : Prop :=
  Document.Meets P r.peers ∧ Document.Meets Q r.ports

theorem mem_split_iff {r c : Rule} :
    c ∈ r.split ↔ c.peers ∈ choices r.peers ∧ c.ports ∈ choices r.ports := by
  obtain ⟨peers, ports⟩ := c
  simp [split]

theorem exists_mem_split_iff {P : Peer → Prop} {Q : PortRange → Prop} {r : Rule} :
    (∃ c ∈ r.split, c.Meets P Q) ↔ r.Meets P Q := by
  rw [Meets, ← exists_mem_choices_iff, ← exists_mem_choices_iff]
  constructor
  · rintro ⟨c, hc, hpeers, hports⟩
    obtain ⟨hcpeers, hcports⟩ := mem_split_iff.mp hc
    exact ⟨⟨c.peers, hcpeers, hpeers⟩, ⟨c.ports, hcports, hports⟩⟩
  · rintro ⟨⟨peers, hcpeers, hpeers⟩, ⟨ports, hcports, hports⟩⟩
    exact ⟨⟨peers, ports⟩, mem_split_iff.mpr ⟨hcpeers, hcports⟩, hpeers, hports⟩

/-- The rules that a rule may be written as: those it splits into, or one with the same peers or the
same ports in another order and number. -/
inductive Rewrites (r : Rule) : List Rule → Prop where
  | split : r.Rewrites r.split
  | peers (peers : Option (List Peer)) (h : ∀ p, p ∈ peers.getD [] ↔ p ∈ r.peers.getD []) :
    r.Rewrites [⟨peers, r.ports⟩]
  | ports (ports : Option (List PortRange)) (h : ∀ p, p ∈ ports.getD [] ↔ p ∈ r.ports.getD []) :
    r.Rewrites [⟨r.peers, ports⟩]

end Rule

/-! ### Rules that say the same -/

/-- Whatever peers and ports match, the one list has a rule that they meet if the other has, and it
has nothing malformed that the first does not have. -/
structure Restates (rs rs' : List Rule) : Prop where
  meets : ∀ P Q, (∃ r ∈ rs', r.Meets P Q) ↔ ∃ r ∈ rs, r.Meets P Q
  wellFormed : (∀ r ∈ rs, r.WellFormed) → ∀ r ∈ rs', r.WellFormed

namespace Restates

variable {rs rs' rs'' as as' bs bs' : List Rule}

theorem of_mem_iff (h : ∀ r, r ∈ rs' ↔ r ∈ rs) : Restates rs rs' where
  meets P Q := by simp only [h]
  wellFormed hrs r hr := hrs r ((h r).mp hr)

theorem refl (rs : List Rule) : Restates rs rs := of_mem_iff fun _ => Iff.rfl

theorem trans (h : Restates rs rs') (k : Restates rs' rs'') : Restates rs rs'' where
  meets P Q := (k.meets P Q).trans (h.meets P Q)
  wellFormed hrs := k.wellFormed (h.wellFormed hrs)

theorem append (ha : Restates as as') (hb : Restates bs bs') :
    Restates (as ++ bs) (as' ++ bs') where
  meets P Q := by
    simp only [List.mem_append, or_and_right, exists_or]
    exact or_congr (ha.meets P Q) (hb.meets P Q)
  wellFormed h := by
    rw [List.forall_mem_append] at h ⊢
    exact ⟨ha.wellFormed h.1, hb.wellFormed h.2⟩

theorem of_rewrites {r : Rule} (h : r.Rewrites rs) : Restates [r] rs := by
  cases h with
  | split =>
    constructor
    · intro P Q
      rw [Rule.exists_mem_split_iff]
      simp
    · intro hr c hc
      obtain ⟨hpeers, hports⟩ := Rule.mem_split_iff.mp hc
      obtain ⟨hwpeers, hwports⟩ := hr r List.mem_cons_self
      constructor
      · intro p hp
        exact hwpeers p (mem_of_mem_choices hpeers hp)
      · intro p hp
        exact hwports p (mem_of_mem_choices hports hp)
  | peers peers h =>
    constructor
    · intro P Q
      simp [Rule.Meets, meets_congr h]
    · simp [Rule.WellFormed, h]
  | ports ports h =>
    constructor
    · intro P Q
      simp [Rule.Meets, meets_congr h]
    · simp [Rule.WellFormed, h]

/-- Splitting leaves no direction without rules: where every part gets what it asks for, having a
rule is all that is said. -/
theorem isEmpty_eq (h : Restates rs rs') : rs'.isEmpty = rs.isEmpty := by
  have hall (r : Rule) : r.Meets (fun _ => True) fun _ => True :=
    ⟨meets_true r.peers, meets_true r.ports⟩
  have hmeets := h.meets (fun _ => True) fun _ => True
  simp only [hall, and_true] at hmeets
  rw [Bool.eq_iff_iff, List.isEmpty_iff, List.isEmpty_iff, List.eq_nil_iff_forall_not_mem,
    List.eq_nil_iff_forall_not_mem, ← not_exists, ← not_exists, hmeets]

end Restates

/-! ### Documents that say the same -/

namespace Policy

/-- One step of writing a document differently: the rules for a direction in another order and
number, or one of them written as others. -/
inductive Rewrites (doc : Policy) : Policy → Prop where
  | rules (d : Direction) (rules : Option (List Rule))
    (h : ∀ r, r ∈ rules.getD [] ↔ r ∈ doc.rules d) : doc.Rewrites (doc.withRules d rules)
  | rule (d : Direction) (before : List Rule) (r : Rule) (after rs : List Rule)
    (hrules : doc.rules d = before ++ r :: after) (h : r.Rewrites rs) :
    doc.Rewrites (doc.withRules d (some (before ++ rs ++ after)))

/-- The documents differ in nothing but in how their rules are written. -/
structure Restates (doc doc' : Policy) : Prop where
  metadata : doc'.metadata = doc.metadata
  podSelector : doc'.spec.podSelector = doc.spec.podSelector
  policyTypes : doc'.spec.policyTypes = doc.spec.policyTypes
  rules : ∀ d, Document.Restates (doc.rules d) (doc'.rules d)

namespace Restates

variable {doc doc' doc'' : Policy} {d : Direction}

theorem refl (doc : Policy) : doc.Restates doc := ⟨rfl, rfl, rfl, fun d => .refl (doc.rules d)⟩

theorem trans (h : doc.Restates doc') (k : doc'.Restates doc'') : doc.Restates doc'' where
  metadata := k.metadata.trans h.metadata
  podSelector := k.podSelector.trans h.podSelector
  policyTypes := k.policyTypes.trans h.policyTypes
  rules d := (h.rules d).trans (k.rules d)

theorem of_withRules {rules : Option (List Rule)}
    (h : Document.Restates (doc.rules d) (rules.getD [])) :
    doc.Restates (doc.withRules d rules) where
  metadata := by cases d <;> rfl
  podSelector := by cases d <;> rfl
  policyTypes := policyTypes_withRules doc d rules
  rules e := by
    rw [rules_withRules]
    split
    · next he => exact he ▸ h
    · exact .refl (doc.rules e)

theorem of_rewrites (h : doc.Rewrites doc') : doc.Restates doc' := by
  cases h with
  | rules d rules h => exact of_withRules (.of_mem_iff h)
  | rule d before r after rs hrules h =>
    apply of_withRules
    rw [hrules, List.append_assoc, Option.getD_some]
    have hafter : Document.Restates ([r] ++ after) (rs ++ after) :=
      (Document.Restates.of_rewrites h).append (.refl after)
    exact (Document.Restates.refl before).append hafter

theorem of_reflTransGen (h : Relation.ReflTransGen Rewrites doc doc') : doc.Restates doc' := by
  induction h with
  | refl => exact .refl doc
  | tail _ hstep ih => exact ih.trans (of_rewrites hstep)

/-- Without types the egress rules tell whether the policy is about egress, and they still do. -/
theorem declares_eq (h : doc.Restates doc') (d : Direction) : doc'.declares d = doc.declares d := by
  rw [declares, declares, h.policyTypes, (h.rules .egress).isEmpty_eq]

theorem wellFormed (h : doc.Restates doc') (hdoc : doc.WellFormed) : doc'.WellFormed where
  ns := h.metadata ▸ hdoc.ns
  name := h.metadata ▸ hdoc.name
  podSelector := h.podSelector ▸ hdoc.podSelector
  rules d hd := by
    rw [← declares_iff, h.declares_eq, declares_iff] at hd
    exact (h.rules d).wellFormed (hdoc.rules d hd)

theorem compileTarget_eq (h : doc.Restates doc') : compileTarget doc' = compileTarget doc := by
  rw [compileTarget, compileTarget, h.metadata, h.podSelector]

end Restates

end Policy

end Document

/-! ### Policies that admit the same -/

namespace Document

/-- A member of a rule's part compiles to a match that accepts. -/
def Accepted {α β : Type} (compile : α → Except Invalid β) (accepts : β → Bool) (a : α) : Prop :=
  ∃ b, compile a = .ok b ∧ accepts b = true

theorem accepted_iff {α β : Type} {compile : α → Except Invalid β} (accepts : β → Bool) {a : α}
    {b : β} (h : compile a = .ok b) : accepts b = true ↔ Accepted compile accepts a := by
  simp [Accepted, h]

/-- What a rule asks of a flow with a peer, also of one that no topology lists. -/
def Rule.Admits (place : RuleRef) (peer : Workload) (ns : Namespace) (t : Traffic) (r : Rule) :
    Prop :=
  r.Meets (Accepted (compilePeer place) (·.accepts peer ns))
    (Accepted (compilePort place) (·.accepts t.protocol t.port t.destination))

end Document

theorem admits_iff_of_compileRule {place : RuleRef} {raw : Document.Rule} {r : Rule}
    (h : compileRule place raw = .ok r) {peer : Workload} {ns : Namespace} {t : Traffic} :
    (r.acceptsPeer peer ns && r.acceptsPort t.protocol t.port t.destination) = true ↔
      raw.Admits place peer ns t :=
  accepts_iff_of_parts h (fun _ _ hp => Document.accepted_iff (·.accepts peer ns) hp) fun _ _ hp =>
    Document.accepted_iff (·.accepts t.protocol t.port t.destination) hp

/-- The policies are about the same workloads and directions, and admit the same flows. -/
structure Policy.Alike (p q : Policy) : Prop where
  id : q.id = p.id
  target : q.target = p.target
  declared : ∀ d, (q.rules d).isSome = (p.rules d).isSome
  admits : ∀ d peer ns t, q.admits d peer ns t = p.admits d peer ns t

namespace Policy

variable {doc doc' : Document.Policy} {p q : Policy} {d : Direction} {peer : Workload}
  {ns : Namespace} {t : Traffic}

theorem admits_eq_false (h : (p.rules d).isSome = false) : p.admits d peer ns t = false := by
  rw [Option.isSome_eq_false_iff, Option.isNone_iff_eq_none] at h
  rw [admits, h]
  rfl

/-- A policy admits what a rule of its document does, the same for every place of the rule. -/
theorem admits_iff_exists_rule (h : Policy.compile doc = .ok p) (hd : doc.declares d = true) :
    p.admits d peer ns t = true ↔ ∃ r ∈ doc.rules d, r.Admits ⟨p.id, d, 0⟩ peer ns t := by
  obtain ⟨rules, hrules⟩ : ∃ rules, p.rules d = some rules := by
    rw [← Option.isSome_iff_exists, isSome_rules h, hd]
  rw [admits, hrules]
  refine any_iff_of_forall₂ (forall₂_of_compile h hrules) fun raw r hr => ?_
  obtain ⟨i, hr⟩ := hr
  exact admits_iff_of_compileRule ((compileRule_place p.id d i 0).mp hr)

theorem alike_of_restates (h : doc.Restates doc') (hp : Policy.compile doc = .ok p)
    (hq : Policy.compile doc' = .ok q) : p.Alike q := by
  obtain ⟨hid, htarget⟩ := id_and_target_eq h.compileTarget_eq hp hq
  have hdeclared (e : Direction) : (q.rules e).isSome = (p.rules e).isSome := by
    rw [isSome_rules hq, isSome_rules hp, h.declares_eq]
  refine ⟨hid, htarget, hdeclared, fun e peer ns t => ?_⟩
  -- Rules are only looked at for a direction that is declared, which both documents do or neither.
  by_cases he : doc.declares e = true
  · have he' : doc'.declares e = true := (h.declares_eq e).trans he
    rw [Bool.eq_iff_iff, admits_iff_exists_rule hq he', admits_iff_exists_rule hp he, hid]
    exact (h.rules e).meets _ _
  · have hnone : (p.rules e).isSome = false := by
      rw [isSome_rules hp]
      exact Bool.eq_false_iff.mpr he
    rw [admits_eq_false hnone, admits_eq_false ((hdeclared e).trans hnone)]

theorem Alike.isolates (h : p.Alike q) {w : Workload} : q.isolates d w = p.isolates d w :=
  isolates_congr h.id h.target (h.declared d)

end Policy

namespace PolicySet

variable {docs docs' : List Document.Policy} {s : PolicySet}

/-- Documents that say the same compile one by one to policies that are alike. -/
theorem exists_alike_of_restates (h : List.Forall₂ Document.Policy.Restates docs docs')
    {ps : List Policy} (hps : docs.map Policy.compile = ps.map .ok) :
    ∃ qs : List Policy, docs'.map Policy.compile = qs.map .ok ∧
      List.Forall₂ Policy.Alike ps qs := by
  induction h generalizing ps with
  | nil =>
    obtain rfl : ps = [] := by simpa using hps.symm
    exact ⟨[], rfl, .nil⟩
  | @cons doc doc' rest rest' hdoc _ ih =>
    obtain ⟨p, ps, rfl, hp, hrest⟩ := List.map_eq_cons_iff.mp hps.symm
    obtain ⟨qs, hqs, halike⟩ := ih hrest.symm
    have hwell : doc.WellFormed := Policy.exists_compile_iff.mp ⟨p, hp.symm⟩
    -- What the step may not do is turn a document that compiles into one that does not.
    obtain ⟨q, hq⟩ := Policy.exists_compile_iff.mpr (hdoc.wellFormed hwell)
    refine ⟨q :: qs, ?_, .cons (Policy.alike_of_restates hdoc hp.symm hq) halike⟩
    rw [List.map_cons, List.map_cons, hq, hqs]

/-- Sets of policies that are alike pairwise decide alike. -/
theorem admission_resolve_eq_of_alike {ps qs : List Policy} (h : List.Forall₂ Policy.Alike ps qs)
    {d : Direction} {w peer : Workload} {ns : Namespace} {t : Traffic} :
    ((resolve ⟨qs.mergeSort idLe⟩ w).direction d).admission peer ns t =
      ((resolve ⟨ps.mergeSort idLe⟩ w).direction d).admission peer ns t := by
  apply admission_resolve_congr
  · simp only [List.mem_mergeSort]
    refine exists_mem_iff_of_forall₂ h fun p q hpq => ?_
    rw [hpq.isolates]
  · intro id
    simp only [List.mem_mergeSort]
    refine exists_mem_iff_of_forall₂ h fun p q hpq => ?_
    rw [hpq.isolates, hpq.admits, hpq.id]

theorem exists_compile_of_restates (h : List.Forall₂ Document.Policy.Restates docs docs')
    (hs : PolicySet.compile docs = .ok s) :
    ∃ u, PolicySet.compile docs' = .ok u ∧ ∀ d w peer ns t,
      ((u.resolve w).direction d).admission peer ns t =
        ((s.resolve w).direction d).admission peer ns t := by
  obtain ⟨ps, hps, hnodup, rfl⟩ := compile_eq_ok_iff.mp hs
  obtain ⟨qs, hqs, halike⟩ := exists_alike_of_restates h hps
  have hids : ps.map (·.id) = qs.map (·.id) := by
    rw [← List.forall₂_eq_eq_eq, List.forall₂_map_left_iff, List.forall₂_map_right_iff]
    exact halike.imp fun p q hpq => hpq.id.symm
  refine ⟨_, compile_eq_ok_iff.mpr ⟨qs, hqs, hids ▸ hnodup, rfl⟩, ?_⟩
  intro d w peer ns t
  exact admission_resolve_eq_of_alike halike

end PolicySet

namespace PolicyModel

/-- However often the rules of the documents are split, reordered and repeated, a list that compiles
still does, and no flow is decided differently or by other policies. -/
theorem rewrites_preserve_evaluation {docs docs' : List Document.Policy} {topology : Topology}
    {m : PolicyModel}
    (hdocs : List.Forall₂ (Relation.ReflTransGen Document.Policy.Rewrites) docs docs')
    (h : PolicyModel.compile docs topology = .ok m) :
    ∃ m', PolicyModel.compile docs' topology = .ok m' ∧
      ∀ current t, m'.evaluate current t = m.evaluate current t := by
  obtain ⟨s, hs, rfl⟩ := compile_eq_ok_iff.mp h
  have hrestates := hdocs.imp fun doc doc' => Document.Policy.Restates.of_reflTransGen
  obtain ⟨u, hu, hadmission⟩ := PolicySet.exists_compile_of_restates hrestates hs
  refine ⟨build u topology, compile_eq_ok_iff.mpr ⟨u, hu, rfl⟩, fun current t => ?_⟩
  apply Evaluation.ext_side
  intro d
  rw [side_evaluate_build, side_evaluate_build]
  exact hadmission d _ _ _ t

end PolicyModel

namespace Sample

/-- Lets two kinds of pods use two ports. -/
def wideRule : Document.Rule :=
  ⟨some [.pods (pods "b"), .block "10.0.0.0/8" []],
    some [.single .tcp (.name "http"), .single .udp (.name "dns")]⟩

def wide : Document.Policy :=
  .named "x" "5" ⟨some (pods "a"), none, some [wideRule], none⟩

/-- The same as four rules, the last ones first and all of them twice. -/
def narrow : Document.Policy :=
  (wide.withRules .ingress (some wideRule.split)).withRules .ingress
    (some (wideRule.split.reverse ++ wideRule.split))

def policyWide : Policy :=
  ⟨⟨"x", "5"⟩, pods "a",
    some [⟨[.workloads (.named "x") (pods "b"),
        .network ⟨⟨⟨.v4, 10 <<< 24, by decide⟩, 8, by decide⟩, []⟩],
      [.name .tcp "http", .name .udp "dns"]⟩], none⟩

theorem rewrites_wide : Relation.ReflTransGen Document.Policy.Rewrites wide narrow := by
  refine .tail (.single (.rule .ingress [] wideRule [] _ rfl .split)) (.rules .ingress _ ?_)
  intro r
  rw [Option.getD_some, List.mem_append, List.mem_reverse, or_self]
  rfl

/-- One rule has become eight, and pods `b` still reach `a` on its web port and on no other. -/
theorem evaluate_of_narrow :
    List.Forall₂ (Relation.ReflTransGen Document.Policy.Rewrites) [wide, closeB] [narrow, closeB] ∧
    (narrow.rules .ingress).length = 8 ∧
    ∃ m m', PolicyModel.compile [wide, closeB] topology = .ok m ∧
      PolicyModel.compile [narrow, closeB] topology = .ok m' ∧
      (∀ current t, m'.evaluate current t = m.evaluate current t) ∧
      m'.evaluate topology (request b a) = ⟨.unisolated, .allowed (.ofList [⟨"x", "5"⟩])⟩ ∧
      m'.evaluate topology ⟨b, a, .tcp, 81⟩ = ⟨.unisolated, .denied⟩ := by
  have hdocs : List.Forall₂ (Relation.ReflTransGen Document.Policy.Rewrites)
      [wide, closeB] [narrow, closeB] := .cons rewrites_wide (.cons .refl .nil)
  have hm : PolicyModel.compile [wide, closeB] topology =
      .ok (.build ⟨[policyB, policyWide]⟩ topology) := by cbv
  obtain ⟨m', hm', heq⟩ := PolicyModel.rewrites_preserve_evaluation hdocs hm
  refine ⟨hdocs, rfl, _, m', hm, hm', heq, ?_, ?_⟩
  · rw [heq]
    cbv
  · rw [heq]
    cbv

end Sample

end PolicyReach
