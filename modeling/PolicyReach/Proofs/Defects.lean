import PolicyReach.Proofs.Semantics

/-!
# The defects of a document

A document is well-formed if it has no defects. They are listed in the order in which they are looked
for, all of them, although compiling stops at the first one and reports that.
-/
namespace PolicyReach

/-! ### Checks and their defects -/

section Reports

variable {ε δ α β : Type}

/-- A check that fails with the first of the defects, and succeeds if there are none. -/
def Reports (x : Except ε α) (defects : List ε) : Prop :=
  match x with
  | .ok _ => defects = []
  | .error e => defects.head? = some e

theorem Reports.exists_ok_iff {x : Except ε α} {es : List ε} (h : Reports x es) :
    (∃ a, x = .ok a) ↔ es = [] := by
  cases x with
  | ok a => exact iff_of_true ⟨a, rfl⟩ h
  | error e =>
    refine iff_of_false nofun fun hnil => ?_
    rw [Reports, hnil] at h
    cases h

theorem Reports.eq_error {x : Except ε α} {e : ε} {es : List ε} (h : Reports x es)
    (he : es.head? = some e) : x = .error e := by
  cases x with
  | ok a =>
    rw [show es = [] from h] at he
    cases he
  | error e' => rw [Option.some.inj ((show es.head? = some e' from h).symm.trans he)]

theorem Reports.bind {x : Except ε α} {f : α → Except ε β} {es es' : List ε} (hx : Reports x es)
    (hf : ∀ a, x = .ok a → Reports (f a) es') : Reports (x >>= f) (es ++ es') := by
  cases x with
  | ok a =>
    rw [show es = [] from hx, List.nil_append]
    exact hf a rfl
  | error e =>
    obtain ⟨rest, rfl⟩ := List.head?_eq_some_iff.mp hx
    rfl

theorem Reports.map {x : Except ε α} {es : List ε} (h : Reports x es) (f : α → β) :
    Reports (x.map f) es := by
  cases x <;> exact h

theorem Reports.mapError {x : Except ε α} {es : List ε} (h : Reports x es) (f : ε → δ) :
    Reports (x.mapError f) (es.map f) := by
  cases x with
  | ok a => exact congrArg (List.map f) h
  | error e =>
    obtain ⟨rest, rfl⟩ := List.head?_eq_some_iff.mp h
    rfl

theorem Reports.bind_of_nil {x : Except ε α} {f : α → Except ε β} {es : List ε}
    (hx : Reports x es) (hf : ∀ a, x = .ok a → Reports (f a) []) : Reports (x >>= f) es :=
  List.append_nil es ▸ hx.bind hf

theorem reports_mapM {f : α → Except ε β} {g : α → List ε} {l : List α}
    (h : ∀ a ∈ l, Reports (f a) (g a)) : Reports (l.mapM f) (l.flatMap g) := by
  induction l with
  | nil => rfl
  | cons a rest ih =>
    have hrest := ih fun b hb => h b (List.mem_cons_of_mem a hb)
    rw [List.mapM_cons, List.flatMap_cons]
    refine (h a List.mem_cons_self).bind fun b _ => ?_
    exact hrest.bind_of_nil fun bs _ => rfl

theorem reports_forM {f : α → Except ε Unit} {g : α → List ε} {l : List α}
    (h : ∀ a ∈ l, Reports (f a) (g a)) : Reports (l.forM f) (l.flatMap g) := by
  induction l with
  | nil => rfl
  | cons a rest ih =>
    rw [List.forM, List.flatMap_cons]
    exact (h a List.mem_cons_self).bind fun _ _ => ih fun b hb => h b (List.mem_cons_of_mem a hb)

end Reports

/-! ### Selectors -/

namespace Requirement

/-- A requirement is on a label, by an operator that is known, and has values if that wants any. -/
def WellFormed (r : Requirement) : Prop :=
  r.key ≠ "" ∧
    match r.operator with
    | .isIn | .notIn => r.values ≠ .empty
    | .present | .absent => r.values = .empty
    | .unsupported _ => False

def defects (r : Requirement) : List SelectorError :=
  (if r.key = "" then [.emptyKey] else []) ++
    match r.operator with
    | .isIn | .notIn => if r.values = .empty then [.missingValues r.key r.operator] else []
    | .present | .absent => if r.values = .empty then [] else [.unexpectedValues r.key r.operator]
    | .unsupported name => [.unsupportedOperator r.key name]

theorem reports_check (r : Requirement) : Reports r.check r.defects := by
  obtain ⟨key, operator, values⟩ := r
  rw [check, defects]
  by_cases hkey : key = ""
  · simp [hkey, Reports]
  · have hkey' : key.isEmpty = false := by simpa using hkey
    simp only [hkey', Bool.false_eq_true, if_false, hkey, List.nil_append, SortedSet.isEmpty_iff]
    by_cases hvalues : values = .empty
    · cases operator <;> simp [hvalues, Reports]
    · cases operator <;> simp [hvalues, Reports]

theorem defects_eq_nil_iff {r : Requirement} : r.defects = [] ↔ r.WellFormed := by
  obtain ⟨key, operator, values⟩ := r
  rw [defects, WellFormed, List.append_eq_nil_iff]
  refine and_congr (by simp) ?_
  cases operator <;> simp

end Requirement

namespace Selector

def WellFormed (s : Selector) : Prop :=
  (∀ l ∈ s.labels, l.1 ≠ "") ∧ ∀ r ∈ s.requirements, r.WellFormed

def defects (s : Selector) : List SelectorError :=
  (s.labels.flatMap fun l => if l.1 = "" then [.emptyKey] else []) ++
    s.requirements.flatMap Requirement.defects

theorem reports_check (s : Selector) : Reports s.check s.defects := by
  refine (reports_forM fun l _ => ?_).bind fun _ _ => reports_forM fun r _ => r.reports_check
  by_cases hkey : l.1 = "" <;> simp [hkey, Reports]

theorem defects_eq_nil_iff {s : Selector} : s.defects = [] ↔ s.WellFormed := by
  rw [defects, WellFormed, List.append_eq_nil_iff, List.flatMap_eq_nil_iff, List.flatMap_eq_nil_iff]
  refine and_congr (forall₂_congr fun l _ => ?_) (forall₂_congr fun r _ => ?_)
  · simp
  · exact Requirement.defects_eq_nil_iff

end Selector

/-! ### Rules -/

namespace Document

/-- A block of addresses that can be read, as a network or as a single address. -/
def Readable (block : String) : Prop :=
  (∃ n, Network.parse? block = some n) ∨ ∃ a, Address.parse? block = some a

/-- Everything that is excepted is part of the block. -/
def IpBlock.WellFormed (b : IpBlock) : Prop :=
  Readable b.cidr ∧
    ∀ e ∈ b.except.getD [], Readable e ∧ ∀ a, Covers e a → Covers b.cidr a

/-- A peer is a block of addresses or is selected by labels, but not both. -/
def Peer.WellFormed (p : Peer) : Prop :=
  match p.ipBlock with
  | some b => p.podSelector = none ∧ p.namespaceSelector = none ∧ b.WellFormed
  | none =>
    (p.podSelector ≠ none ∨ p.namespaceSelector ≠ none) ∧
      (∀ s, p.podSelector = some s → s.WellFormed) ∧
      ∀ s, p.namespaceSelector = some s → s.WellFormed

/-- Only a port that is given by its number can begin a range. -/
def PortRange.WellFormed (p : PortRange) : Prop :=
  ∀ last, p.endPort = some last → ∃ first pos, p.port = some (.number first pos) ∧ first ≤ last

def Rule.WellFormed (r : Rule) : Prop :=
  (∀ p ∈ r.peers.getD [], p.WellFormed) ∧ ∀ p ∈ r.ports.getD [], p.WellFormed

/-- A document says what it is and which pods it is about, and its rules for the directions that it
declares are well-formed. -/
structure Policy.WellFormed (doc : Policy) : Prop where
  ns : doc.metadata.ns ≠ none
  name : doc.metadata.name ≠ none
  podSelector : ∃ s, doc.spec.podSelector = some s ∧ s.WellFormed
  rules : ∀ d, doc.Declares d → ∀ r ∈ doc.rules d, r.WellFormed

def exceptDefects (rule : RuleRef) (net : Network) (block : String) : List Invalid :=
  match Network.parseBlock? block with
  | none => [.invalidCidr rule block]
  | some except => if net.covers except then [] else [.exceptOutsideCidr rule net except]

def IpBlock.defects (rule : RuleRef) (b : IpBlock) : List Invalid :=
  match Network.parseBlock? b.cidr with
  | none => [.invalidCidr rule b.cidr]
  | some net => (b.except.getD []).flatMap (exceptDefects rule net)

def selectorDefects (rule : RuleRef) (field : SelectorField) (s : Option Selector) : List Invalid :=
  (s.getD .all).defects.map (.invalidPeerSelector rule field)

def Peer.defects (rule : RuleRef) (p : Peer) : List Invalid :=
  match p.ipBlock, p.podSelector, p.namespaceSelector with
  | some block, none, none => block.defects rule
  | some _, _, _ => [.ambiguousPeer rule]
  | none, none, none => [.emptyPeer rule]
  | none, pods, namespaces =>
    selectorDefects rule .pods pods ++ selectorDefects rule .namespaces namespaces

def PortRange.defects (rule : RuleRef) (p : PortRange) : List Invalid :=
  match p.port, p.endPort with
  | _, none => []
  | some (.number first _), some last =>
    if last < first then [.invalidPortRange rule first last] else []
  | _, some last => [.endPortWithoutNumber rule last]

/-- The defects of the peers come before those of the ports. -/
def Rule.defects (rule : RuleRef) (r : Rule) : List Invalid :=
  (r.peers.getD []).flatMap (Peer.defects rule) ++ (r.ports.getD []).flatMap (PortRange.defects rule)

/-- The defects of the rules for a direction, if the document declares it. -/
def Policy.ruleDefects (doc : Policy) (policy : PolicyRef) (d : Direction) : List Invalid :=
  if doc.declares d then
    (doc.rules d).zipIdx.flatMap fun r => r.1.defects ⟨policy, d, r.2⟩
  else []

/-- The defects of what a document says it is and which pods it is about. -/
def Policy.targetDefects (doc : Policy) : List Invalid :=
  match doc.metadata.ns, doc.metadata.name, doc.spec.podSelector with
  | none, name, _ => [.missingNamespace name]
  | some ns, none, _ => [.missingName ns]
  | some ns, some name, none => [.missingPodSelector ⟨ns, name⟩]
  | some ns, some name, some s => s.defects.map (.invalidTarget ⟨ns, name⟩)

/-- The defects of a document from the first to the last. Those of the rules are told by the id of
the document, without which they cannot be told. -/
def Policy.defects (doc : Policy) : List Invalid :=
  doc.targetDefects ++
    match doc.metadata with
    | ⟨some name, some ns⟩ =>
      doc.ruleDefects ⟨ns, name⟩ .ingress ++ doc.ruleDefects ⟨ns, name⟩ .egress
    | _ => []

end Document

section Rules

variable {rule : RuleRef}

theorem reports_compileExcept (net : Network) (block : String) :
    Reports (compileExcept rule net block) (Document.exceptDefects rule net block) := by
  rw [compileExcept, compileBlock, Document.exceptDefects]
  cases Network.parseBlock? block with
  | none => rfl
  | some except =>
    simp only [bind, Except.bind]
    split <;> rfl

theorem reports_checkSelector (field : SelectorField) (s : Selector) :
    Reports (checkSelector rule field s) (s.defects.map (.invalidPeerSelector rule field)) := by
  have hmap : checkSelector rule field s = s.check.mapError (.invalidPeerSelector rule field) := by
    rw [checkSelector]
    cases s.check <;> rfl
  rw [hmap]
  exact s.reports_check.mapError _

theorem reports_compilePeer (p : Document.Peer) :
    Reports (compilePeer rule p) (p.defects rule) := by
  obtain ⟨pods, namespaces, block⟩ := p
  cases block with
  | some block =>
    cases pods with
    | some pods => rfl
    | none =>
      cases namespaces with
      | some namespaces => rfl
      | none =>
        simp only [compilePeer, Document.Peer.defects, Document.IpBlock.defects, compileBlock]
        cases Network.parseBlock? block.cidr with
        | none => rfl
        | some net =>
          exact (reports_mapM fun e _ => reports_compileExcept net e).bind_of_nil fun _ _ => rfl
  | none =>
    cases namespaces with
    | none =>
      cases pods with
      | none => rfl
      | some pods => exact (reports_checkSelector .pods pods).bind fun _ _ => rfl
    | some s =>
      cases pods <;>
        exact (reports_checkSelector .pods _).bind fun _ _ =>
          (reports_checkSelector .namespaces s).bind_of_nil fun _ _ => rfl

theorem reports_compilePort (p : Document.PortRange) :
    Reports (compilePort rule p) (p.defects rule) := by
  obtain ⟨protocol, port, last⟩ := p
  rcases port with - | ⟨first, _⟩ | name <;> cases last <;> try rfl
  simp only [compilePort, Document.PortRange.defects]
  split <;> rfl

theorem reports_compileRule (r : Document.Rule) :
    Reports (compileRule rule r) (r.defects rule) := by
  refine (reports_mapM fun p _ => reports_compilePeer p).bind fun _ _ => ?_
  exact (reports_mapM fun p _ => reports_compilePort p).bind_of_nil fun _ _ => rfl

end Rules

theorem reports_compileRules (policy : PolicyRef) (d : Direction) (index : ℕ)
    (rules : List Document.Rule) :
    Reports (compileRules policy d index rules)
      ((rules.zipIdx index).flatMap fun r => r.1.defects ⟨policy, d, r.2⟩) := by
  induction rules generalizing index with
  | nil => rfl
  | cons r rest ih =>
    rw [compileRules, List.zipIdx_cons, List.flatMap_cons]
    refine (reports_compileRule r).bind fun _ _ => ?_
    exact (ih (index + 1)).bind_of_nil fun _ _ => rfl

theorem reports_compileDirection (policy : PolicyRef) (doc : Document.Policy) (d : Direction) :
    Reports (compileDirection policy doc d) (doc.ruleDefects policy d) := by
  rw [compileDirection, Document.Policy.ruleDefects]
  split
  · exact (reports_compileRules policy d 0 (doc.rules d)).map some
  · rfl

theorem reports_compileTarget (doc : Document.Policy) :
    Reports (compileTarget doc) doc.targetDefects := by
  obtain ⟨⟨name, ns⟩, ⟨selector, types, ingress, egress⟩⟩ := doc
  cases ns with
  | none => rfl
  | some ns =>
    cases name with
    | none => rfl
    | some name =>
      cases selector with
      | none => rfl
      | some s =>
        have hmap : compileTarget ⟨⟨some name, some ns⟩, ⟨some s, types, ingress, egress⟩⟩ =
            (s.check.map fun _ => (⟨ns, name⟩, s)).mapError (.invalidTarget ⟨ns, name⟩) := by
          simp only [compileTarget]
          cases s.check <;> rfl
        rw [hmap]
        exact (s.reports_check.map _).mapError _

/-- A document compiles if it has no defect, and is rejected for its first one if it has any. -/
theorem reports_compile (doc : Document.Policy) : Reports (Policy.compile doc) doc.defects := by
  refine (reports_compileTarget doc).bind fun target htarget => ?_
  obtain ⟨hns, hname, _, _⟩ := compileTarget_eq_ok_iff.mp htarget
  have hmeta : doc.metadata = ⟨some target.1.name, some target.1.ns⟩ := by rw [← hns, ← hname]
  rw [hmeta]
  refine (reports_compileDirection target.1 doc .ingress).bind fun _ _ => ?_
  exact (reports_compileDirection target.1 doc .egress).bind_of_nil fun _ _ => rfl

/-! ### Well-formed documents -/

namespace Network

theorem exists_parseBlock_iff {block : String} :
    (∃ n, parseBlock? block = some n) ↔ Document.Readable block := by
  rw [parseBlock?, Document.Readable]
  cases parse? block <;> simp

/-- One block is inside another if everything that it covers is. -/
theorem covers_iff_of_parseBlock {block block' : String} {n m : Network}
    (hn : parseBlock? block = some n) (hm : parseBlock? block' = some m) :
    n.covers m = true ↔ ∀ a, Document.Covers block' a → Document.Covers block a := by
  rw [covers_iff]
  refine forall_congr' fun a => ?_
  rw [← contains_iff, ← contains_iff, contains_iff_of_parseBlock hn, contains_iff_of_parseBlock hm]

end Network

namespace Document

variable {rule : RuleRef}

theorem exceptDefects_eq_nil_iff {cidr block : String} {net : Network}
    (h : Network.parseBlock? cidr = some net) :
    exceptDefects rule net block = [] ↔
      Readable block ∧ ∀ a, Covers block a → Covers cidr a := by
  rw [exceptDefects, ← Network.exists_parseBlock_iff]
  cases hblock : Network.parseBlock? block with
  | none => simp
  | some except =>
    rw [← Network.covers_iff_of_parseBlock h hblock]
    simp

theorem IpBlock.defects_eq_nil_iff {b : IpBlock} : b.defects rule = [] ↔ b.WellFormed := by
  rw [defects, WellFormed, ← Network.exists_parseBlock_iff]
  cases hnet : Network.parseBlock? b.cidr with
  | none => simp
  | some net =>
    rw [List.flatMap_eq_nil_iff, and_iff_right ⟨net, rfl⟩]
    exact forall₂_congr fun e _ => exceptDefects_eq_nil_iff hnet

theorem selectorDefects_eq_nil_iff {field : SelectorField} {s : Option Selector} :
    selectorDefects rule field s = [] ↔ ∀ t, s = some t → t.WellFormed := by
  rw [selectorDefects, List.map_eq_nil_iff]
  cases s with
  | none => exact iff_of_true rfl nofun
  | some s => simp [Selector.defects_eq_nil_iff]

theorem Peer.defects_eq_nil_iff {p : Peer} : p.defects rule = [] ↔ p.WellFormed := by
  obtain ⟨pods, namespaces, block⟩ := p
  cases block with
  | some block =>
    cases pods with
    | some pods => simp [defects, WellFormed]
    | none =>
      cases namespaces with
      | some namespaces => simp [defects, WellFormed]
      | none => simp [defects, WellFormed, IpBlock.defects_eq_nil_iff]
  | none =>
    have hselectors : selectorDefects rule .pods pods ++
        selectorDefects rule .namespaces namespaces = [] ↔
          (∀ s, pods = some s → s.WellFormed) ∧ ∀ s, namespaces = some s → s.WellFormed := by
      rw [List.append_eq_nil_iff, selectorDefects_eq_nil_iff, selectorDefects_eq_nil_iff]
    cases pods with
    | some pods => simpa [defects, WellFormed] using hselectors
    | none =>
      cases namespaces with
      | some namespaces => simpa [defects, WellFormed] using hselectors
      | none => simp [defects, WellFormed]

theorem PortRange.defects_eq_nil_iff {p : PortRange} : p.defects rule = [] ↔ p.WellFormed := by
  obtain ⟨protocol, port, last⟩ := p
  cases last with
  | none => simp [defects, WellFormed]
  | some last =>
    cases port with
    | none => simp [defects, WellFormed]
    | some port =>
      cases port with
      | number first hfirst => simp [defects, WellFormed, hfirst]
      | name s => simp [defects, WellFormed]

theorem Rule.defects_eq_nil_iff {r : Rule} : r.defects rule = [] ↔ r.WellFormed := by
  rw [defects, WellFormed, List.append_eq_nil_iff, List.flatMap_eq_nil_iff, List.flatMap_eq_nil_iff]
  exact and_congr (forall₂_congr fun p _ => Peer.defects_eq_nil_iff)
    (forall₂_congr fun p _ => PortRange.defects_eq_nil_iff)

namespace Policy

variable {doc : Policy}

theorem ruleDefects_eq_nil_iff {policy : PolicyRef} {d : Direction} :
    doc.ruleDefects policy d = [] ↔ (doc.Declares d → ∀ r ∈ doc.rules d, r.WellFormed) := by
  rw [ruleDefects, ← declares_iff]
  split
  · next hd =>
    rw [List.flatMap_eq_nil_iff, ← List.zipIdx_map_fst 0 (doc.rules d), List.forall_mem_map,
      List.zipIdx_map_fst, imp_iff_right hd]
    exact forall₂_congr fun r _ => Rule.defects_eq_nil_iff
  · next hd => simp [hd]

theorem targetDefects_eq_nil_iff : doc.targetDefects = [] ↔
    doc.metadata.ns ≠ none ∧ doc.metadata.name ≠ none ∧
      ∃ s, doc.spec.podSelector = some s ∧ s.WellFormed := by
  obtain ⟨⟨name, ns⟩, ⟨selector, types, ingress, egress⟩⟩ := doc
  cases ns <;> cases name <;> cases selector <;>
    simp [targetDefects, Selector.defects_eq_nil_iff]

theorem defects_eq_nil_iff : doc.defects = [] ↔ doc.WellFormed := by
  have hrules (id : PolicyRef) :
      doc.ruleDefects id .ingress ++ doc.ruleDefects id .egress = [] ↔
        ∀ d, doc.Declares d → ∀ r ∈ doc.rules d, r.WellFormed := by
    rw [List.append_eq_nil_iff, ruleDefects_eq_nil_iff, ruleDefects_eq_nil_iff]
    constructor
    · intro h d
      cases d with
      | ingress => exact h.1
      | egress => exact h.2
    · intro h
      exact ⟨h .ingress, h .egress⟩
  rw [defects, List.append_eq_nil_iff, targetDefects_eq_nil_iff]
  constructor
  · rintro ⟨⟨hns, hname, hselector⟩, hall⟩
    obtain ⟨ns, hns'⟩ := Option.ne_none_iff_exists'.mp hns
    obtain ⟨name, hname'⟩ := Option.ne_none_iff_exists'.mp hname
    have hmeta : doc.metadata = ⟨some name, some ns⟩ := by rw [← hns', ← hname']
    rw [hmeta] at hall
    exact ⟨hns, hname, hselector, (hrules ⟨ns, name⟩).mp hall⟩
  · rintro ⟨hns, hname, hselector, hall⟩
    refine ⟨⟨hns, hname, hselector⟩, ?_⟩
    split
    · exact (hrules _).mpr hall
    · rfl

end Policy

end Document

theorem Policy.exists_compile_iff {doc : Document.Policy} :
    (∃ p, Policy.compile doc = .ok p) ↔ doc.WellFormed :=
  (reports_compile doc).exists_ok_iff.trans Document.Policy.defects_eq_nil_iff

end PolicyReach
