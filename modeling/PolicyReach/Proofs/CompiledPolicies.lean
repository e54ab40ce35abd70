import PolicyReach.Proofs.Semantics

/-!
# What compiled policies are like

Compiling checks every part of a document that it keeps. Its selectors validate, its networks have
no stray bits and contain what they except, its ports begin at one and its ranges are in order. The
rules are those of the document one by one.
-/
namespace PolicyReach

/-! ### Well-formed parts -/

/-- No bit is set behind the leading ones. -/
def Network.Canonical (n : Network) : Prop :=
  ∀ i < n.hostBits, n.base.value.testBit i = false

structure NetworkMatch.WellFormed (m : NetworkMatch) : Prop where
  net : m.net.Canonical
  canonical : ∀ e ∈ m.except, e.Canonical
  family : ∀ e ∈ m.except, e.base.family = m.net.base.family
  within : ∀ e ∈ m.except, ∀ a, e.Holds a → m.net.Holds a

/-- A namespace that is given by its name is that of the policy. -/
def NamespaceMatch.WellFormed (ns : String) : NamespaceMatch → Prop
  | .named name => name = ns
  | .selected s => s.check = .ok ()

def PeerMatch.WellFormed (ns : String) : PeerMatch → Prop
  | .workloads namespaces pods => namespaces.WellFormed ns ∧ pods.check = .ok ()
  | .network m => m.WellFormed

def PortMatch.WellFormed : PortMatch → Prop
  | .number _ n => 1 ≤ n
  | .range _ first last => 1 ≤ first ∧ first ≤ last
  | .all _ | .name _ _ => True

/-- A well-formed rule of a policy in the namespace `ns`. -/
structure Rule.WellFormed (ns : String) (r : Rule) : Prop where
  peers : ∀ p ∈ r.peers, p.WellFormed ns
  ports : ∀ p ∈ r.ports, p.WellFormed

/-- A rule that was compiled from a written one has as many peers and as many ports. -/
structure Rule.CompiledFrom (policy : PolicyRef) (d : Direction) (raw : Document.Rule) (r : Rule) :
    Prop where
  compiled : ∃ place, compileRule ⟨policy, d, place⟩ raw = .ok r
  peers : r.peers.length = (raw.peers.getD []).length
  ports : r.ports.length = (raw.ports.getD []).length

/-- A policy with well-formed rules, which are those of the document one by one. -/
structure Policy.CompiledFrom (doc : Document.Policy) (p : Policy) : Prop where
  ns : doc.metadata.ns = some p.id.ns
  target : p.target.check = .ok ()
  declared : ∀ d, (p.rules d).isSome = true ↔ doc.Declares d
  listed : ∀ d rules, p.rules d = some rules →
    List.Forall₂ (Rule.CompiledFrom p.id d) (doc.rules d) rules
  wellFormed : ∀ d rules, p.rules d = some rules → ∀ r ∈ rules, r.WellFormed p.id.ns

/-! ### Networks -/

namespace Network

theorem canonical_trunc (n : Network) : n.trunc.Canonical := by
  intro i hi
  have hhost : i < n.hostBits := hi
  change (n.base.value >>> n.hostBits <<< n.hostBits).testBit i = false
  rw [Nat.testBit_shiftLeft]
  have hlt : ¬ n.hostBits ≤ i := Nat.not_le_of_lt hhost
  simp [hlt]

/-- A single address has no bits behind the leading ones. -/
theorem canonical_single (a : Address) : (single a).Canonical := by
  intro i hi
  have hzero : (single a).hostBits = 0 := Nat.sub_self _
  omega

theorem canonical_of_parseBlock {block : String} {n : Network} (h : parseBlock? block = some n) :
    n.Canonical := by
  rw [parseBlock?] at h
  cases hn : parse? block with
  | some net =>
    simp only [hn, Option.some.injEq] at h
    exact h ▸ net.canonical_trunc
  | none =>
    simp only [hn] at h
    obtain ⟨a, _, rfl⟩ := Option.map_eq_some_iff.mp h
    exact canonical_single a

theorem family_eq_of_covers {n m : Network} (h : n.covers m = true) :
    m.base.family = n.base.family := by
  have hbase : n.Holds m.base := covers_iff.mp h m.base m.holds_base
  exact hbase.1.symm

end Network

section Rules

variable {rule : RuleRef}

theorem canonical_of_compileBlock {block : String} {n : Network}
    (h : compileBlock rule block = .ok n) : n.Canonical := by
  rw [compileBlock] at h
  split at h
  · next hn =>
    obtain rfl := Except.ok.inj h
    exact Network.canonical_of_parseBlock hn
  · cases h

theorem canonical_and_covers_of_compileExcept {net e : Network} {block : String}
    (h : compileExcept rule net block = .ok e) : e.Canonical ∧ net.covers e = true := by
  obtain ⟨n, hn, hif⟩ := bind_eq_ok_iff.mp h
  by_cases hcovers : net.covers n = true
  · rw [if_pos hcovers] at hif
    obtain rfl := pure_eq_ok_iff.mp hif
    exact ⟨canonical_of_compileBlock hn, hcovers⟩
  · rw [if_neg hcovers] at hif
    cases hif

theorem wellFormed_of_compileBlock {block : Document.IpBlock} {net : Network}
    {except : List Network} (hnet : compileBlock rule block.cidr = .ok net)
    (hexcept : (block.except.getD []).mapM (compileExcept rule net) = .ok except) :
    NetworkMatch.WellFormed ⟨net, except⟩ := by
  have hall : ∀ e ∈ except, e.Canonical ∧ net.covers e = true := by
    intro e he
    obtain ⟨written, _, hwritten⟩ := exists_of_mem_mapM hexcept he
    exact canonical_and_covers_of_compileExcept hwritten
  refine ⟨canonical_of_compileBlock hnet, ?_, ?_, ?_⟩
  · intro e he
    exact (hall e he).1
  · intro e he
    exact Network.family_eq_of_covers (hall e he).2
  · intro e he
    exact Network.covers_iff.mp (hall e he).2

theorem wellFormed_of_compilePeer {raw : Document.Peer} {p : PeerMatch}
    (h : compilePeer rule raw = .ok p) : p.WellFormed rule.policy.ns := by
  obtain ⟨pods, namespaces, block⟩ := raw
  cases block with
  | some block =>
    obtain ⟨net, except, hnet, hexcept, rfl⟩ := exists_of_compilePeer_block h
    exact wellFormed_of_compileBlock hnet hexcept
  | none =>
    obtain ⟨hpods, hnamespaces, rfl⟩ := exists_of_compilePeer_selectors h
    refine ⟨?_, hpods⟩
    cases namespaces with
    | none => rfl
    | some s => exact hnamespaces s rfl

theorem one_le_of_ne_zero {n : UInt16} (h : n ≠ 0) : 1 ≤ n := by
  have hne : n.toNat ≠ 0 := fun heq => h (UInt16.toNat_inj.mp heq)
  rw [UInt16.le_iff_toNat_le]
  exact Nat.one_le_iff_ne_zero.mpr hne

theorem wellFormed_of_compilePort {raw : Document.PortRange} {p : PortMatch}
    (h : compilePort rule raw = .ok p) : p.WellFormed := by
  obtain ⟨protocol, port, last⟩ := raw
  cases port with
  | none =>
    cases last with
    | none =>
      obtain rfl := Except.ok.inj h
      trivial
    | some last => cases h
  | some port =>
    cases port with
    | number n hn =>
      cases last with
      | none =>
        obtain rfl := Except.ok.inj h
        exact one_le_of_ne_zero hn
      | some last =>
        simp only [compilePort] at h
        by_cases hlt : last < n
        · rw [if_pos hlt] at h
          cases h
        · rw [if_neg hlt] at h
          obtain rfl := Except.ok.inj h
          exact ⟨one_le_of_ne_zero hn, UInt16.not_lt.mp hlt⟩
    | name s =>
      cases last with
      | none =>
        obtain rfl := Except.ok.inj h
        trivial
      | some last => cases h

theorem wellFormed_of_compileRule {raw : Document.Rule} {r : Rule}
    (h : compileRule rule raw = .ok r) : r.WellFormed rule.policy.ns := by
  obtain ⟨peers, hpeers, h⟩ := bind_eq_ok_iff.mp h
  obtain ⟨ports, hports, h⟩ := bind_eq_ok_iff.mp h
  obtain rfl := pure_eq_ok_iff.mp h
  constructor
  · intro p hp
    obtain ⟨written, _, hwritten⟩ := exists_of_mem_mapM hpeers hp
    exact wellFormed_of_compilePeer hwritten
  · intro p hp
    obtain ⟨written, _, hwritten⟩ := exists_of_mem_mapM hports hp
    exact wellFormed_of_compilePort hwritten

theorem Rule.compiledFrom_of_compileRule {policy : PolicyRef} {d : Direction} {place : ℕ}
    {raw : Document.Rule} {r : Rule} (h : compileRule ⟨policy, d, place⟩ raw = .ok r) :
    r.CompiledFrom policy d raw := by
  have hcompiled := h
  obtain ⟨peers, hpeers, h⟩ := bind_eq_ok_iff.mp h
  obtain ⟨ports, hports, h⟩ := bind_eq_ok_iff.mp h
  obtain rfl := pure_eq_ok_iff.mp h
  exact ⟨⟨place, hcompiled⟩, (forall₂_of_mapM hpeers).length_eq.symm,
    (forall₂_of_mapM hports).length_eq.symm⟩

end Rules

/-! ### Policies -/

theorem Policy.compiledFrom_of_compile {doc : Document.Policy} {p : Policy}
    (h : Policy.compile doc = .ok p) : p.CompiledFrom doc := by
  obtain ⟨_, _, _, htarget⟩ := compileTarget_eq_ok_iff.mp (compile_eq_ok_iff.mp h).1
  refine ⟨compile_ns h, htarget, ?_, ?_, ?_⟩
  · intro d
    rw [isSome_rules h, Document.Policy.declares_iff]
  · intro d rules hrules
    refine (forall₂_of_compile h hrules).imp fun raw r hcompiled => ?_
    obtain ⟨place, hcompiled⟩ := hcompiled
    exact Rule.compiledFrom_of_compileRule hcompiled
  · intro d rules hrules r hr
    obtain ⟨i, hi, rfl⟩ := List.getElem_of_mem hr
    have hlisted := forall₂_of_compile h hrules
    obtain ⟨place, hcompiled⟩ := hlisted.get (hlisted.length_eq ▸ hi) hi
    exact wellFormed_of_compileRule hcompiled

end PolicyReach
