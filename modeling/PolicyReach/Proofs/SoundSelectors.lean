import PolicyReach.Proofs.CompiledPolicies

/-!
# Selectors behind a decision

A model of compiled policies consults only selectors that validate. No requirement that it comes
upon is malformed or has an operator that is not known, and whatever were made of such requirements,
no decision would change.
-/
namespace PolicyReach

/-! ### Selectors that a model comes upon -/

def PeerMatch.selectors : PeerMatch → List Selector
  | .workloads (.named _) pods => [pods]
  | .workloads (.selected s) pods => [s, pods]
  | .network _ => []

/-- The selectors by which the model tells what applies to workloads and which peers match: the
targets of its policies, and those of the rules that it has for any workload. -/
def PolicyModel.Consults (m : PolicyModel) (s : Selector) : Prop :=
  (∃ p ∈ m.policies.policies, s = p.target) ∨
    ∃ w d, ∃ r ∈ ((m.workload w).direction d).rules, ∃ p ∈ r.rule.peers, s ∈ p.selectors

/-- Every requirement is one that can be met, and is decided by what it asks. -/
structure Selector.Sound (s : Selector) : Prop where
  checked : ∀ r ∈ s.requirements, r.check = .ok ()
  supported : ∀ r ∈ s.requirements, ∀ name, r.operator ≠ .unsupported name
  decided : ∀ r ∈ s.requirements, ∀ labels, r.selects labels = r.holds labels

theorem Requirement.supported_of_check {r : Requirement} (h : r.check = .ok ()) (name : String) :
    r.operator ≠ .unsupported name := by
  intro hop
  rw [check] at h
  by_cases hkey : r.key.isEmpty = true
  · rw [if_pos hkey] at h
    cases h
  · rw [if_neg hkey, hop] at h
    cases h

theorem Selector.sound_of_check {s : Selector} (h : s.check = .ok ()) : s.Sound := by
  have hall : ∀ r ∈ s.requirements, r.check = .ok () := (check_eq_ok_iff.mp h).2
  refine ⟨hall, ?_, ?_⟩
  · intro r hr name
    exact Requirement.supported_of_check (hall r hr) name
  · intro r hr labels
    rw [Requirement.selects, hall r hr]

theorem PeerMatch.WellFormed.selectors {ns : String} {p : PeerMatch} (h : p.WellFormed ns)
    {s : Selector} (hs : s ∈ p.selectors) : s.check = .ok () := by
  cases p with
  | network net => cases hs
  | workloads namespaces pods =>
    obtain ⟨hnamespaces, hpods⟩ := h
    cases namespaces with
    | named name =>
      obtain rfl := List.mem_singleton.mp hs
      exact hpods
    | selected selector =>
      rcases List.mem_cons.mp hs with rfl | hs
      · exact hnamespaces
      · obtain rfl := List.mem_singleton.mp hs
        exact hpods

namespace PolicyModel

variable {docs : List Document.Policy} {topology : Topology} {m : PolicyModel}

theorem compiledFrom_of_mem (h : PolicyModel.compile docs topology = .ok m) {p : Policy}
    (hp : p ∈ m.policies.policies) : ∃ doc ∈ docs, p.CompiledFrom doc := by
  obtain ⟨s, hs, rfl⟩ := compile_eq_ok_iff.mp h
  obtain ⟨doc, hdoc, hcompiled⟩ := (PolicySet.mem_policies_iff hs).mp hp
  exact ⟨doc, hdoc, Policy.compiledFrom_of_compile hcompiled⟩

/-- Rules keep their form when they are collected for a workload. -/
theorem wellFormed_of_mem_rules (h : PolicyModel.compile docs topology = .ok m) {w : Workload}
    {d : Direction} {r : TargetRule} (hr : r ∈ ((m.workload w).direction d).rules) :
    r.rule.WellFormed r.policy.ns := by
  obtain ⟨s, hs, hm⟩ := compile_eq_ok_iff.mp h
  rw [hm, workload_build] at hr
  obtain ⟨p, hp, _, hpolicy, hrule⟩ := PolicySet.mem_rules_resolve.mp hr
  obtain ⟨doc, _, hfrom⟩ := compiledFrom_of_mem h (p := p) (by rw [hm]; exact hp)
  cases hrules : p.rules d with
  | none => simp [hrules] at hrule
  | some rules =>
    rw [hrules, Option.getD_some] at hrule
    rw [hpolicy]
    exact hfrom.wellFormed d rules hrules r.rule (List.mem_of_getElem? hrule)

theorem check_of_consults (h : PolicyModel.compile docs topology = .ok m) {s : Selector}
    (hs : m.Consults s) : s.check = .ok () := by
  rcases hs with ⟨p, hp, rfl⟩ | ⟨w, d, r, hr, p, hp, hs⟩
  · obtain ⟨doc, _, hfrom⟩ := compiledFrom_of_mem h hp
    exact hfrom.target
  · have hwell := wellFormed_of_mem_rules h hr
    exact (hwell.peers p hp).selectors hs

end PolicyModel

/-! ### Deciding by another reading of selectors -/

section Reading

variable (reading : Selector → Labels → Bool)

def NamespaceMatch.acceptsBy : NamespaceMatch → Namespace → Bool
  | .named name, ns => name == ns.name
  | .selected s, ns => reading s ns.labels

def PeerMatch.acceptsBy : PeerMatch → Workload → Namespace → Bool
  | .workloads namespaces pods, w, ns => namespaces.acceptsBy reading ns && reading pods w.labels
  | .network net, w, _ => net.contains w.ip

def Rule.admitsBy (r : Rule) (peer : Workload) (ns : Namespace) (t : Traffic) : Bool :=
  (r.peers.isEmpty || r.peers.any (·.acceptsBy reading peer ns)) &&
    r.acceptsPort t.protocol t.port t.destination

def Policy.isolatesBy (p : Policy) (d : Direction) (w : Workload) : Bool :=
  (w.ns == p.id.ns && reading p.target w.labels) && (p.rules d).isSome

def Policy.admitsBy (p : Policy) (d : Direction) (peer : Workload) (ns : Namespace) (t : Traffic) :
    Bool :=
  ((p.rules d).getD []).any (·.admitsBy reading peer ns t)

/-- How the policies of a set decide a side, by themselves and without an index, where what a
selector selects is told by the given reading. -/
def PolicySet.decideBy (s : PolicySet) (d : Direction) (subject peer : Workload) (ns : Namespace)
    (t : Traffic) : Admission :=
  let isolating := s.policies.filter (·.isolatesBy reading d subject)
  let admitting := isolating.filter (·.admitsBy reading d peer ns t)
  if isolating.isEmpty then .unisolated
  else if admitting.isEmpty then .denied
  else .allowed (.ofList (admitting.map (·.id)))

end Reading

/-- A reading of selectors that is free to make anything of those that do not validate. -/
def FaithfulReading (reading : Selector → Labels → Bool) : Prop :=
  ∀ s labels, s.check = .ok () → reading s labels = s.selects labels

theorem any_congr_of_mem {α : Type} {f g : α → Bool} {l : List α} (h : ∀ a ∈ l, f a = g a) :
    l.any f = l.any g := by
  rw [Bool.eq_iff_iff, List.any_eq_true, List.any_eq_true]
  constructor
  · rintro ⟨a, ha, hf⟩
    exact ⟨a, ha, h a ha ▸ hf⟩
  · rintro ⟨a, ha, hg⟩
    exact ⟨a, ha, (h a ha).trans hg⟩

namespace FaithfulReading

variable {reading : Selector → Labels → Bool} {w peer : Workload} {ns : Namespace} {t : Traffic}
  {d : Direction}

theorem acceptsBy (h : FaithfulReading reading) {name : String} {p : PeerMatch}
    (hp : p.WellFormed name) : p.acceptsBy reading w ns = p.accepts w ns := by
  cases p with
  | network net => rfl
  | workloads namespaces pods =>
    obtain ⟨hnamespaces, hpods⟩ := hp
    rw [PeerMatch.acceptsBy, PeerMatch.accepts, h pods w.labels hpods]
    congr 1
    cases namespaces with
    | named name => rfl
    | selected s => exact h s ns.labels hnamespaces

theorem rule_admitsBy (h : FaithfulReading reading) {name : String} {r : Rule}
    (hr : r.WellFormed name) : r.admitsBy reading peer ns t =
      (r.acceptsPeer peer ns && r.acceptsPort t.protocol t.port t.destination) := by
  rw [Rule.admitsBy, Rule.acceptsPeer]
  congr 2
  exact any_congr_of_mem fun p hp => h.acceptsBy (hr.peers p hp)

theorem isolatesBy (h : FaithfulReading reading) {p : Policy} (hp : p.target.check = .ok ()) :
    p.isolatesBy reading d w = p.isolates d w := by
  rw [Policy.isolatesBy, h p.target w.labels hp]
  rfl

theorem admitsBy (h : FaithfulReading reading) {p : Policy}
    (hp : ∀ rules, p.rules d = some rules → ∀ r ∈ rules, r.WellFormed p.id.ns) :
    p.admitsBy reading d peer ns t = p.admits d peer ns t := by
  rw [Policy.admitsBy, Policy.admits]
  cases hrules : p.rules d with
  | none => rfl
  | some rules => exact any_congr_of_mem fun r hr => h.rule_admitsBy (hp rules hrules r hr)

end FaithfulReading

namespace PolicySet

variable {s : PolicySet} {w peer : Workload} {ns : Namespace} {t : Traffic} {d : Direction}

/-- Uniting contributions and asking the policies one by one come to the same. -/
theorem admission_resolve_eq_decideBy {reading : Selector → Labels → Bool}
    (hisolates : ∀ p ∈ s.policies, p.isolatesBy reading d w = p.isolates d w)
    (hadmits : ∀ p ∈ s.policies, p.admitsBy reading d peer ns t = p.admits d peer ns t) :
    ((s.resolve w).direction d).admission peer ns t = s.decideBy reading d w peer ns t := by
  have hisolating : ∀ p, p ∈ s.policies.filter (·.isolatesBy reading d w) ↔
      p ∈ s.policies ∧ p.isolates d w = true := by
    intro p
    rw [List.mem_filter]
    exact and_congr_right fun hp => by rw [hisolates p hp]
  have hadmitting : ∀ p, p ∈ (s.policies.filter (·.isolatesBy reading d w)).filter
      (·.admitsBy reading d peer ns t) ↔
        (p ∈ s.policies ∧ p.isolates d w = true) ∧ p.admits d peer ns t = true := by
    intro p
    rw [List.mem_filter, hisolating]
    exact and_congr_right fun hp => by rw [hadmits p hp.1]
  rw [decideBy]
  by_cases hnone : s.policies.filter (·.isolatesBy reading d w) = []
  · simp only [hnone, List.isEmpty_nil, if_true]
    refine admission_resolve_eq_unisolated_iff.mpr fun p hp => ?_
    apply Bool.eq_false_iff.mpr
    intro hiso
    exact List.eq_nil_iff_forall_not_mem.mp hnone p ((hisolating p).mpr ⟨hp, hiso⟩)
  · simp only [List.isEmpty_eq_false_iff.mpr hnone, Bool.false_eq_true, if_false]
    split
    · next hempty =>
      obtain ⟨q, hq⟩ := List.exists_mem_of_ne_nil _ hnone
      refine admission_resolve_eq_denied_iff.mpr ⟨⟨q, (hisolating q).mp hq⟩, fun p hp hiso => ?_⟩
      apply Bool.eq_false_iff.mpr
      intro hadm
      have hmem := (hadmitting p).mpr ⟨⟨hp, hiso⟩, hadm⟩
      exact List.eq_nil_iff_forall_not_mem.mp (List.isEmpty_iff.mp hempty) p hmem
    · next hsome =>
      obtain ⟨q, hq⟩ := List.exists_mem_of_ne_nil _ (fun hnil => hsome (List.isEmpty_iff.mpr hnil))
      refine admission_resolve_eq_allowed_iff.mpr ⟨fun hempty => ?_, fun id => ?_⟩
      · refine SortedSet.eq_empty_iff.mp hempty q.id ?_
        exact SortedSet.mem_ofList.mpr (List.mem_map_of_mem hq)
      · rw [SortedSet.mem_ofList, List.mem_map]
        simp only [hadmitting, and_assoc]

end PolicySet

namespace PolicyModel

variable {docs : List Document.Policy} {topology : Topology} {m : PolicyModel}

/-- A model of compiled policies decides in the same way whatever is made of selectors that do not
validate. -/
theorem side_evaluate_eq_decideBy (h : PolicyModel.compile docs topology = .ok m)
    {reading : Selector → Labels → Bool} (hreading : FaithfulReading reading) (t : Traffic)
    (d : Direction) : (m.evaluate topology t).side d =
      m.policies.decideBy reading d ((topology.workload? (t.subject d).id).getD (t.subject d))
        (t.peer d) (topology.namespaceOf (t.peer d)) t := by
  have hfrom : ∀ p ∈ m.policies.policies, ∃ doc, p.CompiledFrom doc := by
    intro p hp
    obtain ⟨doc, _, hdoc⟩ := compiledFrom_of_mem h hp
    exact ⟨doc, hdoc⟩
  obtain ⟨s, _, rfl⟩ := compile_eq_ok_iff.mp h
  rw [side_evaluate_build]
  refine PolicySet.admission_resolve_eq_decideBy (s := s) ?_ ?_
  · intro p hp
    obtain ⟨doc, hdoc⟩ := hfrom p hp
    exact hreading.isolatesBy hdoc.target
  · intro p hp
    obtain ⟨doc, hdoc⟩ := hfrom p hp
    exact hreading.admitsBy (hdoc.wellFormed d)

end PolicyModel

/-- Whatever a document compiles to is well-formed and lists what the document lists. A model of
such policies therefore decides by sound selectors only: what is made of others does not show. -/
theorem Policy.compiled_wellFormed :
    (∀ doc p, Policy.compile doc = .ok p → p.CompiledFrom doc) ∧
    ∀ docs topology m, PolicyModel.compile docs topology = .ok m →
      (∀ s, m.Consults s → s.check = .ok () ∧ s.Sound) ∧
      ∀ reading, FaithfulReading reading → ∀ t d, (m.evaluate topology t).side d =
        m.policies.decideBy reading d ((topology.workload? (t.subject d).id).getD (t.subject d))
          (t.peer d) (topology.namespaceOf (t.peer d)) t := by
  constructor
  · intro doc p h
    exact compiledFrom_of_compile h
  · intro docs topology m h
    constructor
    · intro s hs
      have hcheck := PolicyModel.check_of_consults h hs
      exact ⟨hcheck, Selector.sound_of_check hcheck⟩
    · intro reading hreading t d
      exact PolicyModel.side_evaluate_eq_decideBy h hreading t d

namespace Sample

def notRed : Selector := ⟨none, some [⟨"team", .notIn, .ofList ["red"]⟩]⟩

/-- Lets in a block of addresses but for a part of it, most namespaces, and pods `b`. -/
def fenced : Document.Policy :=
  .named "x" "4" ⟨some (pods "a"), none, some [⟨some [.block "10.1.2.3/8" ["10.1.0.0/16"],
    .namespaces notRed, .pods (pods "b")],
      some [⟨none, some (.number 8080 (by decide)), some 8090⟩]⟩], none⟩

def ruleFenced : Rule :=
  ⟨[.network ⟨⟨⟨.v4, 0x0A000000, by decide⟩, 8, by decide⟩,
    [⟨⟨.v4, 0x0A010000, by decide⟩, 16, by decide⟩]⟩, .workloads (.selected notRed) .all,
      .workloads (.named "x") (pods "b")], [.range .tcp 8080 8090]⟩

def policyFenced : Policy := ⟨⟨"x", "4"⟩, pods "a", some [ruleFenced], none⟩

/-- Lets selectors that do not validate select everything. -/
def lenient (s : Selector) (labels : Labels) : Bool :=
  match s.check with
  | .ok () => s.selects labels
  | .error _ => true

theorem compiled_fenced :
    Policy.compile fenced = .ok policyFenced ∧ policyFenced.CompiledFrom fenced ∧
    ∃ m, PolicyModel.compile [fenced] topology = .ok m ∧ m.Consults notRed ∧ notRed.Sound ∧
      (m.evaluate topology (request b a)).side .ingress = .denied ∧
      m.policies.decideBy lenient .ingress ((topology.workload? a.id).getD a) b
        (topology.namespaceOf b) (request b a) = .denied := by
  have hpolicy : Policy.compile fenced = .ok policyFenced := by cbv
  have hmodel : PolicyModel.compile [fenced] topology =
      .ok (.build ⟨[policyFenced]⟩ topology) := by cbv
  have hlenient : FaithfulReading lenient := by
    intro s labels hs
    rw [lenient, hs]
  have hconsults : (PolicyModel.build ⟨[policyFenced]⟩ topology).Consults notRed := by
    have hrules : (((PolicyModel.build ⟨[policyFenced]⟩ topology).workload a).direction
        .ingress).rules = [⟨⟨"x", "4"⟩, 0, ruleFenced⟩] := by cbv
    refine .inr ⟨a, .ingress, ⟨⟨"x", "4"⟩, 0, ruleFenced⟩, ?_,
      .workloads (.selected notRed) .all, ?_, List.mem_cons_self⟩
    · rw [hrules]
      exact List.mem_singleton_self _
    · exact List.mem_cons_of_mem _ List.mem_cons_self
  have hdenied : ((PolicyModel.build ⟨[policyFenced]⟩ topology).evaluate topology
      (request b a)).side .ingress = .denied := by cbv
  obtain ⟨hfrom, hmodels⟩ := Policy.compiled_wellFormed
  obtain ⟨hsound, hreadings⟩ := hmodels _ _ _ hmodel
  refine ⟨hpolicy, hfrom _ _ hpolicy, _, hmodel, hconsults, (hsound _ hconsults).2, hdenied, ?_⟩
  rw [← hdenied]
  exact (hreadings lenient hlenient (request b a) .ingress).symm

end Sample

end PolicyReach
