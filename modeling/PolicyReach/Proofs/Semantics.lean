import PolicyReach.Proofs.Matching
import PolicyReach.Proofs.Resolution

/-!
# What documents mean

The meaning of policy documents as they are written: which workloads they govern and which flows
their rules are about. A model decides every flow of its topology by that meaning, whatever
compiling, sorting and uniting made of the documents.
-/
namespace PolicyReach

namespace Document

/-- A block is written as a network, or as an address that stands for itself. -/
def Covers (block : String) (a : Address) : Prop :=
  match Network.parse? block with
  | some n => n.Holds a
  | none => Address.parse? block = some a

def IpBlock.Matches (b : IpBlock) (a : Address) : Prop :=
  Covers b.cidr a ∧ ∀ e ∈ b.except.getD [], ¬ Covers e a

/-- Without a namespace selector a peer is in the namespace of the policy. -/
def Peer.MatchesNamespace (p : Peer) (ns : String) (topology : Topology) (w : Workload) : Prop :=
  match p.namespaceSelector with
  | none => w.ns = ns
  | some s => ∃ n ∈ topology.namespaces, n.name = w.ns ∧ s.Matches n.labels

/-- What a peer of a policy in the namespace `ns` means. -/
def Peer.Matches (p : Peer) (ns : String) (topology : Topology) (w : Workload) : Prop :=
  match p.ipBlock with
  | some b => b.Matches w.ip
  | none =>
    p.MatchesNamespace ns topology w ∧ ∀ s, p.podSelector = some s → s.Matches w.labels

def PortRange.Matches (p : PortRange) (protocol : Protocol) (port : UInt16)
    (destination : Workload) : Prop :=
  p.protocol.getD .tcp = protocol ∧
    match p.port, p.endPort with
    | none, _ => True
    | some (.number n _), none => port = n
    | some (.number first _), some last => first ≤ port ∧ port ≤ last
    | some (.name s), _ => destination.resolvePort s protocol = some port

/-- A rule is about the peers and the ports that it lists, or about all of them. -/
def Rule.Matches (r : Rule) (ns : String) (topology : Topology) (peer : Workload) (t : Traffic) :
    Prop :=
  (r.peers.getD [] = [] ∨ ∃ p ∈ r.peers.getD [], p.Matches ns topology peer) ∧
    (r.ports.getD [] = [] ∨ ∃ p ∈ r.ports.getD [], p.Matches t.protocol t.port t.destination)

namespace Policy

/-- Without types a policy is about ingress, and about egress if it lists egress rules. -/
def Declares (doc : Policy) : Direction → Prop
  | .ingress =>
    doc.spec.policyTypes.getD [] = [] ∨ Direction.ingress ∈ doc.spec.policyTypes.getD []
  | .egress =>
    Direction.egress ∈ doc.spec.policyTypes.getD [] ∨
      doc.spec.policyTypes.getD [] = [] ∧ doc.spec.egress.getD [] ≠ []

def Governs (doc : Policy) (w : Workload) : Prop :=
  doc.metadata.ns = some w.ns ∧ ∃ s, doc.spec.podSelector = some s ∧ s.Matches w.labels

end Policy

/-- A side admits a flow if no document restricts the side, or if one that does has a rule for the
flow. -/
def Admits (docs : List Policy) (topology : Topology) (t : Traffic) (d : Direction) : Prop :=
  (∀ doc ∈ docs, doc.Governs (t.subject d) → ¬ doc.Declares d) ∨
    ∃ doc ∈ docs, doc.Governs (t.subject d) ∧ doc.Declares d ∧
      ∃ r ∈ doc.rules d, r.Matches (t.subject d).ns topology (t.peer d) t

end Document

/-! ### Parts of a rule -/

section Lists

variable {α β : Type} {R : α → β → Prop} {l : List α} {ys : List β} {P : α → Prop} {f : β → Bool}

theorem exists_mem_iff_of_forall₂ {Q : β → Prop} (h : List.Forall₂ R l ys)
    (hR : ∀ a b, R a b → (Q b ↔ P a)) : (∃ b ∈ ys, Q b) ↔ ∃ a ∈ l, P a := by
  induction h with
  | nil => simp
  | cons hab _ ih => simp [hR _ _ hab, ih]

theorem any_iff_of_forall₂ (h : List.Forall₂ R l ys) (hR : ∀ a b, R a b → (f b = true ↔ P a)) :
    ys.any f = true ↔ ∃ a ∈ l, P a := by
  rw [List.any_eq_true]
  exact exists_mem_iff_of_forall₂ h hR

/-- An empty list stands for everything before and after compiling. -/
theorem isEmpty_or_any_iff_of_forall₂ (h : List.Forall₂ R l ys)
    (hR : ∀ a b, R a b → (f b = true ↔ P a)) :
    (ys.isEmpty || ys.any f) = true ↔ l = [] ∨ ∃ a ∈ l, P a := by
  rw [Bool.or_eq_true, any_iff_of_forall₂ h hR]
  cases h <;> simp

end Lists

theorem Network.contains_iff_of_parseBlock {block : String} {n : Network}
    (h : parseBlock? block = some n) {a : Address} :
    n.contains a = true ↔ Document.Covers block a := by
  rw [parseBlock?] at h
  rw [Document.Covers]
  cases hn : parse? block with
  | some net =>
    simp only [hn, Option.some.injEq] at h
    rw [← h, trunc_contains, contains_iff]
  | none =>
    simp only [hn] at h
    obtain ⟨b, hb, rfl⟩ := Option.map_eq_some_iff.mp h
    rw [hb, single_contains_iff, Option.some.injEq]

theorem contains_iff_of_compileBlock {rule : RuleRef} {block : String} {n : Network}
    (h : compileBlock rule block = .ok n) {a : Address} :
    n.contains a = true ↔ Document.Covers block a := by
  rw [compileBlock] at h
  split at h
  · next hn =>
    obtain rfl := Except.ok.inj h
    exact Network.contains_iff_of_parseBlock hn
  · cases h

theorem contains_iff_of_compileExcept {rule : RuleRef} {net n : Network} {block : String}
    (h : compileExcept rule net block = .ok n) {a : Address} :
    n.contains a = true ↔ Document.Covers block a := by
  obtain ⟨n', hn', hif⟩ := bind_eq_ok_iff.mp h
  split at hif
  · obtain rfl := pure_eq_ok_iff.mp hif
    exact contains_iff_of_compileBlock hn'
  · cases hif

theorem checkSelector_eq_ok_iff {rule : RuleRef} {field : SelectorField} {s : Selector} :
    checkSelector rule field s = .ok () ↔ s.check = .ok () := by
  rw [checkSelector]
  cases s.check <;> simp

theorem Selector.all_matches (labels : Labels) : Selector.all.Matches labels := by
  simp [Matches, all, Selector.labels, requirements]

theorem exists_of_compilePeer_block {rule : RuleRef} {pods namespaces : Option Selector}
    {block : Document.IpBlock} {m : PeerMatch}
    (h : compilePeer rule ⟨pods, namespaces, some block⟩ = .ok m) :
    ∃ net except, compileBlock rule block.cidr = .ok net ∧
      (block.except.getD []).mapM (compileExcept rule net) = .ok except ∧
      m = .network ⟨net, except⟩ := by
  cases pods with
  | some p => simp [compilePeer] at h
  | none =>
    cases namespaces with
    | some n => simp [compilePeer] at h
    | none =>
      obtain ⟨net, hnet, h⟩ := bind_eq_ok_iff.mp h
      obtain ⟨except, hexcept, h⟩ := bind_eq_ok_iff.mp h
      exact ⟨net, except, hnet, hexcept, (pure_eq_ok_iff.mp h).symm⟩

theorem exists_of_compilePeer_selectors {rule : RuleRef} {pods namespaces : Option Selector}
    {m : PeerMatch} (h : compilePeer rule ⟨pods, namespaces, none⟩ = .ok m) :
    (pods.getD .all).check = .ok () ∧ (∀ s, namespaces = some s → s.check = .ok ()) ∧
      m = .workloads (namespaces.elim (.named rule.policy.ns) .selected) (pods.getD .all) := by
  cases namespaces with
  | none =>
    cases pods with
    | none => simp [compilePeer] at h
    | some p =>
      obtain ⟨_, hp, h⟩ := bind_eq_ok_iff.mp h
      refine ⟨checkSelector_eq_ok_iff.mp hp, ?_, (pure_eq_ok_iff.mp h).symm⟩
      rintro s ⟨⟩
  | some s =>
    obtain ⟨_, hp, h⟩ : ∃ u, checkSelector rule .pods (pods.getD .all) = .ok u ∧
        (checkSelector rule .namespaces s >>= fun _ =>
          pure (PeerMatch.workloads (.selected s) (pods.getD .all))) = .ok m := by
      cases pods <;> exact bind_eq_ok_iff.mp h
    obtain ⟨_, hs, h⟩ := bind_eq_ok_iff.mp h
    refine ⟨checkSelector_eq_ok_iff.mp hp, ?_, (pure_eq_ok_iff.mp h).symm⟩
    rintro _ ⟨⟩
    exact checkSelector_eq_ok_iff.mp hs

section Documents

variable {topology : Topology} {w peer : Workload} {t : Traffic}

theorem accepts_iff_of_compilePeer {rule : RuleRef} {p : Document.Peer} {m : PeerMatch}
    (h : compilePeer rule p = .ok m) (hw : w ∈ topology.workloads) :
    m.accepts w (topology.namespaceOf w) = true ↔ p.Matches rule.policy.ns topology w := by
  obtain ⟨pods, namespaces, block⟩ := p
  cases block with
  | some block =>
    obtain ⟨net, except, hnet, hexcept, rfl⟩ := exists_of_compilePeer_block h
    have hany : except.any (·.contains w.ip) = true ↔ _ :=
      any_iff_of_forall₂ (forall₂_of_mapM hexcept) fun _ _ h => contains_iff_of_compileExcept h
    rw [PeerMatch.accepts, NetworkMatch.contains, Bool.and_eq_true, Bool.not_eq_true',
      ← Bool.not_eq_true, hany, contains_iff_of_compileBlock hnet]
    simp [Document.Peer.Matches, Document.IpBlock.Matches]
  | none =>
    obtain ⟨hpods, hnamespaces, rfl⟩ := exists_of_compilePeer_selectors h
    rw [PeerMatch.accepts, Bool.and_eq_true]
    refine and_congr ?_ ?_
    · cases namespaces with
      | none =>
        rw [Option.elim, NamespaceMatch.accepts, topology.namespaceOf_name, beq_iff_eq]
        exact eq_comm
      | some s =>
        have hs := hnamespaces s rfl
        simp only [Document.Peer.MatchesNamespace]
        rw [Topology.exists_namespace_iff hw]
        exact Selector.selects_iff hs
    · rw [Selector.selects_iff hpods]
      cases pods with
      | none => simp [Selector.all_matches]
      | some s => simp

theorem accepts_iff_of_compilePort {rule : RuleRef} {p : Document.PortRange} {m : PortMatch}
    (h : compilePort rule p = .ok m) {protocol : Protocol} {port : UInt16} :
    m.accepts protocol port w = true ↔ p.Matches protocol port w := by
  obtain ⟨protocol', port', last⟩ := p
  simp only [PortMatch.accepts, Bool.and_eq_true, decide_eq_true_eq]
  cases port' with
  | none =>
    cases last with
    | none =>
      obtain rfl := Except.ok.inj h
      simp [PortMatch.protocol, Document.PortRange.Matches]
    | some last => cases h
  | some port' =>
    cases port' with
    | number n hn =>
      cases last with
      | none =>
        obtain rfl := Except.ok.inj h
        simp [PortMatch.protocol, Document.PortRange.Matches, eq_comm (a := port)]
      | some last =>
        simp only [compilePort] at h
        split at h
        · cases h
        · obtain rfl := Except.ok.inj h
          simp [PortMatch.protocol, Document.PortRange.Matches]
    | name s =>
      cases last with
      | none =>
        obtain rfl := Except.ok.inj h
        simp [PortMatch.protocol, Document.PortRange.Matches]
      | some last => cases h

/-- Compiling keeps the two parts of a rule apart, so each can be read on its own. -/
theorem accepts_iff_of_parts {rule : RuleRef} {doc : Document.Rule} {r : Rule} {ns : Namespace}
    {P : Document.Peer → Prop} {Q : Document.PortRange → Prop} (h : compileRule rule doc = .ok r)
    (hP : ∀ p m, compilePeer rule p = .ok m → (m.accepts peer ns = true ↔ P p))
    (hQ : ∀ p m, compilePort rule p = .ok m →
      (m.accepts t.protocol t.port t.destination = true ↔ Q p)) :
    (r.acceptsPeer peer ns && r.acceptsPort t.protocol t.port t.destination) = true ↔
      (doc.peers.getD [] = [] ∨ ∃ p ∈ doc.peers.getD [], P p) ∧
        (doc.ports.getD [] = [] ∨ ∃ p ∈ doc.ports.getD [], Q p) := by
  obtain ⟨peers, hpeers, h⟩ := bind_eq_ok_iff.mp h
  obtain ⟨ports, hports, h⟩ := bind_eq_ok_iff.mp h
  obtain rfl := pure_eq_ok_iff.mp h
  rw [Bool.and_eq_true, Rule.acceptsPeer, Rule.acceptsPort]
  refine and_congr ?_ ?_
  · exact isEmpty_or_any_iff_of_forall₂ (forall₂_of_mapM hpeers) hP
  · exact isEmpty_or_any_iff_of_forall₂ (forall₂_of_mapM hports) hQ

theorem accepts_iff_of_compileRule {rule : RuleRef} {doc : Document.Rule} {r : Rule}
    (h : compileRule rule doc = .ok r) (hpeer : peer ∈ topology.workloads) :
    (r.acceptsPeer peer (topology.namespaceOf peer) &&
        r.acceptsPort t.protocol t.port t.destination) = true ↔
      doc.Matches rule.policy.ns topology peer t :=
  accepts_iff_of_parts h (fun _ _ hp => accepts_iff_of_compilePeer hp hpeer) fun _ _ hp =>
    accepts_iff_of_compilePort hp

/-! ### Policies -/

theorem Document.Policy.declares_iff {doc : Document.Policy} {d : Direction} :
    doc.declares d = true ↔ doc.Declares d := by
  rw [declares]
  split
  · next htypes => cases d <;> simp [Declares, htypes, rules]
  · next htypes =>
    have hne : doc.spec.policyTypes.getD [] ≠ [] := htypes
    cases d <;> simp [Declares, hne]

namespace Policy

variable {doc : Document.Policy} {p : Policy} {d : Direction}

theorem selects_iff_of_compile (h : Policy.compile doc = .ok p) :
    p.selects w = true ↔ doc.Governs w := by
  obtain ⟨hns, _, hsel, hcheck⟩ := compileTarget_eq_ok_iff.mp (compile_eq_ok_iff.mp h).1
  rw [selects, Bool.and_eq_true, beq_iff_eq, Selector.selects_iff hcheck, Document.Policy.Governs,
    hns, hsel]
  simp [eq_comm]

theorem ns_eq_of_governs (h : Policy.compile doc = .ok p) (hgov : doc.Governs w) :
    p.id.ns = w.ns :=
  Option.some.inj ((compile_ns h).symm.trans hgov.1)

theorem isolates_iff_of_compile (h : Policy.compile doc = .ok p) :
    p.isolates d w = true ↔ doc.Governs w ∧ doc.Declares d := by
  rw [isolates, Bool.and_eq_true, selects_iff_of_compile h, isSome_rules h,
    Document.Policy.declares_iff]

theorem admits_iff_of_compile (h : Policy.compile doc = .ok p) (hd : doc.Declares d)
    (hpeer : peer ∈ topology.workloads) :
    p.admits d peer (topology.namespaceOf peer) t = true ↔
      ∃ r ∈ doc.rules d, r.Matches p.id.ns topology peer t := by
  obtain ⟨rules, hrules⟩ : ∃ rules, p.rules d = some rules := by
    rw [← Option.isSome_iff_exists, isSome_rules h, Document.Policy.declares_iff]
    exact hd
  rw [admits, hrules]
  refine any_iff_of_forall₂ (forall₂_of_compile h hrules) fun doc r hr => ?_
  obtain ⟨i, hr⟩ := hr
  exact accepts_iff_of_compileRule hr hpeer

end Policy

/-! ### Models -/

namespace PolicyModel

variable {docs : List Document.Policy} {m : PolicyModel} {d : Direction}

/-- A side that does not deny is one that the documents let pass. -/
theorem side_evaluate_ne_denied_iff (h : PolicyModel.compile docs topology = .ok m)
    (hsubject : t.subject d ∈ topology.workloads) (hpeer : t.peer d ∈ topology.workloads) :
    (m.evaluate topology t).side d ≠ .denied ↔ Document.Admits docs topology t d := by
  obtain ⟨s, hs, rfl⟩ := compile_eq_ok_iff.mp h
  rw [side_evaluate_build, Topology.workload?_id hsubject, Option.getD_some, ne_eq,
    PolicySet.admission_resolve_eq_denied_iff, not_and_or, Document.Admits]
  refine or_congr ?_ ?_
  · constructor
    · intro hno doc hdoc hgov hdecl
      obtain ⟨p, hp, hcomp⟩ := PolicySet.exists_compile_of_mem hs hdoc
      exact hno ⟨p, hp, (Policy.isolates_iff_of_compile hcomp).mpr ⟨hgov, hdecl⟩⟩
    · rintro hno ⟨p, hp, hiso⟩
      obtain ⟨doc, hdoc, hcomp⟩ := (PolicySet.mem_policies_iff hs).mp hp
      obtain ⟨hgov, hdecl⟩ := (Policy.isolates_iff_of_compile hcomp).mp hiso
      exact hno doc hdoc hgov hdecl
  · constructor
    · intro hnot
      simp only [not_forall, Bool.not_eq_false] at hnot
      obtain ⟨p, hp, hiso, hadm⟩ := hnot
      obtain ⟨doc, hdoc, hcomp⟩ := (PolicySet.mem_policies_iff hs).mp hp
      obtain ⟨hgov, hdecl⟩ := (Policy.isolates_iff_of_compile hcomp).mp hiso
      have hns := Policy.ns_eq_of_governs hcomp hgov
      exact ⟨doc, hdoc, hgov, hdecl, hns ▸ (Policy.admits_iff_of_compile hcomp hdecl hpeer).mp hadm⟩
    · rintro ⟨doc, hdoc, hgov, hdecl, hrule⟩ hall
      obtain ⟨p, hp, hcomp⟩ := PolicySet.exists_compile_of_mem hs hdoc
      have hns := Policy.ns_eq_of_governs hcomp hgov
      have hadm := (Policy.admits_iff_of_compile hcomp hdecl hpeer).mpr (hns ▸ hrule)
      have := hall p hp ((Policy.isolates_iff_of_compile hcomp).mpr ⟨hgov, hdecl⟩)
      exact Bool.eq_false_iff.mp this hadm

/-- A flow between workloads of the topology is allowed if the documents let it leave its source and
reach its destination, and is denied otherwise. -/
theorem verdict_evaluate_iff (h : PolicyModel.compile docs topology = .ok m)
    {source destination : Workload} (hs : source ∈ topology.workloads)
    (hd : destination ∈ topology.workloads) (protocol : Protocol) (port : UInt16) :
    let t : Traffic := ⟨source, destination, protocol, port⟩
    ((m.evaluate topology t).verdict = .allowed ↔
      Document.Admits docs topology t .egress ∧ Document.Admits docs topology t .ingress) ∧
    ((m.evaluate topology t).verdict = .denied ↔
      ¬ (Document.Admits docs topology t .egress ∧ Document.Admits docs topology t .ingress)) := by
  intro t
  have hallowed : (m.evaluate topology t).isAllowed = true ↔
      Document.Admits docs topology t .egress ∧ Document.Admits docs topology t .ingress := by
    rw [← side_evaluate_ne_denied_iff (t := t) (d := .egress) h hs hd,
      ← side_evaluate_ne_denied_iff (t := t) (d := .ingress) h hd hs, Evaluation.isAllowed_iff]
    exact ⟨fun hne => ⟨hne .egress, hne .ingress⟩, fun ⟨he, hi⟩ d => by cases d <;> assumption⟩
  rw [← hallowed, Evaluation.verdict, Verdict.ofAllowed]
  cases (m.evaluate topology t).isAllowed <;> simp

end PolicyModel

end Documents

namespace Sample

/-- The request that a document lets through, and the one that another stops. -/
theorem verdict_of_requests :
    (model.evaluate topology (request b a)).verdict = .allowed ∧
    (Document.Admits [guardA, closeB] topology (request b a) .egress ∧
      Document.Admits [guardA, closeB] topology (request b a) .ingress) ∧
    (model.evaluate topology (request a b)).verdict = .denied ∧
    ¬ (Document.Admits [guardA, closeB] topology (request a b) .egress ∧
      Document.Admits [guardA, closeB] topology (request a b) .ingress) := by
  have ha : a ∈ topology.workloads := by decide
  have hb : b ∈ topology.workloads := by decide
  have hallowed : (model.evaluate topology (request b a)).verdict = .allowed := by cbv
  have hdenied : (model.evaluate topology (request a b)).verdict = .denied := by cbv
  exact ⟨hallowed, (PolicyModel.verdict_evaluate_iff compile_docs hb ha .tcp 80).1.mp hallowed,
    hdenied, (PolicyModel.verdict_evaluate_iff compile_docs ha hb .tcp 80).2.mp hdenied⟩

end Sample

end PolicyReach
