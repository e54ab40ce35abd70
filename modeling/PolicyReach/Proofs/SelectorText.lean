import PolicyReach.Explain
import PolicyReach.Proofs.EmptySelectors
import PolicyReach.Proofs.MalformedSelectors
import PolicyReach.Proofs.SoundSelectors

/-!
# Selectors shown as `all`

An empty selector is shown by a word. All that a selector may ask for leaves a sign in its text that
the word does not have, with one exception: that a label be there is shown by the bare key. So the
word stands for two selectors, and the other one selects what has a label `all`.
-/
namespace PolicyReach

namespace Text

theorem ne_of_mem {s t : String} {c : Char} (hs : c ∈ s.toList) (ht : c ∉ t.toList) : s ≠ t := by
  rintro rfl
  exact ht hs

theorem bracketed_inj (opening closing : String) {s t : String} :
    opening ++ s ++ closing = opening ++ t ++ closing ↔ s = t := by
  rw [String.append_left_inj, String.append_right_inj]

/-- A text without commas is no list of several pieces. -/
theorem intercalate_eq_iff {pieces : List String} {t : String} (h : ',' ∉ t.toList)
    (hne : pieces ≠ []) : String.intercalate "," pieces = t ↔ pieces = [t] := by
  constructor
  · intro heq
    cases pieces with
    | nil => exact absurd rfl hne
    | cons piece rest =>
      cases rest with
      | nil => rw [← heq, String.intercalate_singleton]
      | cons next rest =>
        refine absurd heq (ne_of_mem ?_ h)
        simp [String.intercalate_cons_cons]
  · rintro rfl
    exact String.intercalate_singleton

end Text

theorem Requirement.text_eq_all_iff {r : Requirement} :
    r.text = "all" ↔ r.operator = .present ∧ r.key = "all" := by
  have hmarked (c : Char) (hall : c ∉ "all".toList) (hc : c ∈ r.text.toList) : ¬ r.text = "all" :=
    Text.ne_of_mem hc hall
  cases hop : r.operator with
  | present => simp [text, hop]
  | absent => simpa using hmarked '!' (by decide) (by simp [text, hop])
  | isIn => simpa using hmarked '(' (by decide) (by simp [text, hop])
  | notIn => simpa using hmarked '(' (by decide) (by simp [text, hop])
  | unsupported name => simpa using hmarked '(' (by decide) (by simp [text, hop])

namespace Selector

variable {s : Selector}

/-- Asks for nothing but that there is a label `all`. -/
def AsksForLabelAll (s : Selector) : Prop :=
  s.labels = [] ∧ s.requirements = [⟨"all", .present, .empty⟩]

def ShownAsAll (s : Selector) : Prop := s.isEmpty = true ∨ s.AsksForLabelAll

theorem text_eq_all_iff : s.text = "all" ↔ s.isEmpty = true ∨
    s.labels = [] ∧ ∃ r, s.requirements = [r] ∧ r.operator = .present ∧ r.key = "all" := by
  by_cases hempty : s.isEmpty = true
  · simp [text, hempty]
  have hne : s.labels.map (fun l => l.1 ++ "=" ++ l.2) ++ s.requirements.map Requirement.text ≠
      [] := by
    simpa [isEmpty_iff] using hempty
  rw [text, if_neg hempty, Text.intercalate_eq_iff (by decide) hne, List.append_eq_singleton_iff]
  constructor
  · rintro (⟨hlabels, hrequirements⟩ | ⟨hlabels, -⟩)
    · obtain ⟨r, hr, htext⟩ := List.map_eq_singleton_iff.mp hrequirements
      exact .inr ⟨List.map_eq_nil_iff.mp hlabels, r, hr, Requirement.text_eq_all_iff.mp htext⟩
    · obtain ⟨l, -, htext⟩ := List.map_eq_singleton_iff.mp hlabels
      have hsign : '=' ∈ (l.1 ++ "=" ++ l.2).toList := by simp
      exact absurd htext (Text.ne_of_mem hsign (by decide))
  · rintro (h | ⟨hlabels, r, hr, hall⟩)
    · exact absurd h hempty
    · refine .inl ⟨by rw [hlabels, List.map_nil], ?_⟩
      rw [hr, List.map_singleton, Requirement.text_eq_all_iff.mpr hall]

theorem text_eq_all_iff_shownAsAll (h : s.check = .ok ()) : s.text = "all" ↔ s.ShownAsAll := by
  rw [text_eq_all_iff]
  refine or_congr_right (and_congr_right fun _ => ?_)
  constructor
  · rintro ⟨⟨key, operator, values⟩, hr, rfl, rfl⟩
    have hmem := hr ▸ List.mem_singleton_self _
    have hwell := Requirement.check_eq_ok_iff.mp ((check_eq_ok_iff.mp h).2 _ hmem)
    obtain rfl : values = .empty := hwell.2
    exact hr
  · intro hr
    exact ⟨_, hr, rfl, rfl⟩

theorem AsksForLabelAll.isEmpty (h : s.AsksForLabelAll) : s.isEmpty = false := by
  rw [Selector.isEmpty, h.1, h.2]
  rfl

theorem AsksForLabelAll.selects (h : s.AsksForLabelAll) (labels : Labels) :
    s.selects labels = (labels.get? "all").isSome := by
  have hcheck : Requirement.check ⟨"all", .present, .empty⟩ = .ok () := by decide
  rw [Selector.selects, h.1, h.2]
  simp [Requirement.selects, hcheck, Requirement.holds]

end Selector

/-! ### Peers and policies -/

theorem NamespaceMatch.text_eq_all_iff {ns : String} {m : NamespaceMatch} (h : m.WellFormed ns) :
    m.text = "ns[all]" ↔ ∃ s, m = .selected s ∧ s.ShownAsAll := by
  cases m with
  | named name =>
    have hsign : ':' ∈ (NamespaceMatch.named name).text.toList := by simp [text]
    simpa using Text.ne_of_mem hsign (by decide)
  | selected s =>
    have hword : "ns[all]" = "ns[" ++ "all" ++ "]" := rfl
    rw [text, hword, Text.bracketed_inj, s.text_eq_all_iff_shownAsAll h]
    simp

/-- Keys may hold brackets, but here the text leaves no room for more than two pairs. -/
theorem PeerMatch.text_eq_all_iff {m : PeerMatch} : m.text = "ns[all] pods[all]" ↔
    ∃ s pods, m = .workloads (.selected s) pods ∧ s.text = "all" ∧ pods.text = "all" := by
  constructor
  · intro h
    cases m with
    | network net => simp [text, ← String.toList_inj] at h
    | workloads namespaces pods =>
      cases namespaces with
      | named name => simp [text, NamespaceMatch.text, ← String.toList_inj] at h
      | selected s =>
        have hinner : s.text ++ "] pods[" ++ pods.text = "all" ++ "] pods[" ++ "all" := by
          apply (Text.bracketed_inj "ns[" "]").mp
          simpa [text, NamespaceMatch.text, String.append_assoc] using h
        have hlist : "all".toList ++ ']' :: (" pods[".toList ++ "all".toList) =
            s.text.toList ++ ']' :: (" pods[".toList ++ pods.text.toList) := by
          simpa [← String.toList_inj] using hinner.symm
        obtain ⟨hs, -, hrest⟩ :=
          (List.append_cons_inj_of_notMem (by decide) (by decide)).mp hlist
        have hpods := List.append_cancel_left hrest
        exact ⟨s, pods, rfl, String.toList_inj.mp hs.symm, String.toList_inj.mp hpods.symm⟩
  · rintro ⟨s, pods, rfl, hs, hpods⟩
    rw [text, NamespaceMatch.text, hs, hpods]
    rfl

namespace Policy

variable {p : Policy}

/-- Some rule of the policy lists the peer. -/
def Lists (p : Policy) (m : PeerMatch) : Prop :=
  ∃ d rules, p.rules d = some rules ∧ ∃ r ∈ rules, m ∈ r.peers

/-- Where the explanation of a policy says `all` of pods or namespaces, the selector behind the word
asks for nothing, or for a label of that name. -/
structure ExplainsAll (p : Policy) : Prop where
  target : ∀ d, ∀ row ∈ p.explainRows d, row[1]? = some "pods[all]" ↔ p.target.ShownAsAll
  namespaces : ∀ namespaces pods, p.Lists (.workloads namespaces pods) →
    (namespaces.text = "ns[all]" ↔ ∃ s, namespaces = .selected s ∧ s.ShownAsAll)
  pods : ∀ namespaces pods, p.Lists (.workloads namespaces pods) →
    ("pods[" ++ pods.text ++ "]" = "pods[all]" ↔ pods.ShownAsAll)
  peer : ∀ m, p.Lists m → (m.text = "ns[all] pods[all]" ↔
    ∃ s pods, m = .workloads (.selected s) pods ∧ s.ShownAsAll ∧ pods.ShownAsAll)

theorem pods_text_eq_all_iff {s : Selector} (h : s.check = .ok ()) :
    "pods[" ++ s.text ++ "]" = "pods[all]" ↔ s.ShownAsAll := by
  have hword : "pods[all]" = "pods[" ++ "all" ++ "]" := rfl
  rw [hword, Text.bracketed_inj, s.text_eq_all_iff_shownAsAll h]

theorem target_of_mem_explainRows {d : Direction} {row : List String}
    (h : row ∈ p.explainRows d) : row[1]? = some ("pods[" ++ p.target.text ++ "]") := by
  rw [explainRows] at h
  split at h
  · cases h
  · obtain rfl := List.mem_singleton.mp h
    rfl
  · obtain ⟨r, _, rfl⟩ := List.mem_map.mp h
    rfl

theorem CompiledFrom.explainsAll {doc : Document.Policy} (h : p.CompiledFrom doc) :
    p.ExplainsAll := by
  have hlisted : ∀ m, p.Lists m → m.WellFormed p.id.ns := by
    rintro m ⟨d, rules, hrules, r, hr, hm⟩
    exact (h.wellFormed d rules hrules r hr).peers m hm
  refine ⟨?_, ?_, ?_, ?_⟩
  · intro d row hrow
    rw [target_of_mem_explainRows hrow, Option.some.injEq, pods_text_eq_all_iff h.target]
  · intro namespaces pods hm
    exact namespaces.text_eq_all_iff (hlisted _ hm).1
  · intro namespaces pods hm
    exact pods_text_eq_all_iff (hlisted _ hm).2
  · intro m hm
    rw [PeerMatch.text_eq_all_iff]
    refine exists₂_congr fun s pods => and_congr_right ?_
    rintro rfl
    obtain ⟨hs, hpods⟩ := hlisted _ hm
    rw [s.text_eq_all_iff_shownAsAll hs, pods.text_eq_all_iff_shownAsAll hpods]

end Policy

/-- A selector that validates is shown as `all` if it asks for nothing, which is to say that it
selects all label sets, or if it asks for a label `all` and nothing else: then it selects what has
that label. So it is with the targets and peers in the explanation of a set. -/
theorem Selector.shown_as_all (s : Selector) (h : s.check = .ok ()) :
    (s.text = "all" ↔ s.isEmpty = true ∨ s.AsksForLabelAll) ∧
    ((s.text = "all" ↔ s.isEmpty = true) ↔ ¬ s.AsksForLabelAll) ∧
    (s.isEmpty = true ↔ ∀ labels, s.selects labels = true) ∧
    (s.AsksForLabelAll → ∀ labels, s.selects labels = (labels.get? "all").isSome) ∧
    ∀ docs set, PolicySet.compile docs = .ok set → ∀ p ∈ set.policies, p.ExplainsAll := by
  have htext : s.text = "all" ↔ s.isEmpty = true ∨ s.AsksForLabelAll :=
    text_eq_all_iff_shownAsAll h
  refine ⟨htext, ?_, ⟨selects_of_isEmpty, fun hall => ?_⟩, AsksForLabelAll.selects, ?_⟩
  · rw [htext]
    constructor
    · intro honly hasks
      have hempty := honly.mp (.inr hasks)
      rw [hasks.isEmpty] at hempty
      cases hempty
    · intro hasks
      exact or_iff_left hasks
  · by_contra hne
    have hrefused := selects_refused (Bool.eq_false_iff.mpr hne)
    rw [hall s.refused] at hrefused
    cases hrefused
  · intro docs set hset p hp
    obtain ⟨doc, _, hdoc⟩ := (PolicySet.mem_policies_iff hset).mp hp
    exact (Policy.compiledFrom_of_compile hdoc).explainsAll

namespace Sample

/-- Asks for a label `all`, whatever its value. -/
def labelled : Selector := ⟨none, some [⟨"all", .present, .empty⟩]⟩

/-- Lets pods of namespaces that have the label reach pods that have it. -/
def guardLabelled : Document.Policy :=
  .named "x" "5" ⟨some labelled, none, some [⟨some [.namespaces labelled], none⟩], none⟩

def policyLabelled : Policy :=
  ⟨⟨"x", "5"⟩, labelled, some [⟨[.workloads (.selected labelled) .all], []⟩], none⟩

/-- The explanation says `all` three times, and only the last time it stands for all pods. -/
theorem explain_of_guardLabelled :
    labelled.text = "all" ∧
    (∀ labels, labelled.selects labels = (labels.get? "all").isSome) ∧
    PolicySet.compile [guardLabelled] = .ok ⟨[policyLabelled]⟩ ∧
    (∀ row ∈ policyLabelled.explainRows .ingress, row[1]? = some "pods[all]") ∧
    (PeerMatch.workloads (.selected labelled) .all).text = "ns[all] pods[all]" ∧
    policyLabelled.selects a = false := by
  have hasks : labelled.AsksForLabelAll := ⟨rfl, rfl⟩
  obtain ⟨htext, _, _, hselects, hsets⟩ := Selector.shown_as_all labelled (by decide)
  have hcompile : PolicySet.compile [guardLabelled] = .ok ⟨[policyLabelled]⟩ := by cbv
  have hexplains := hsets _ _ hcompile policyLabelled List.mem_cons_self
  have hlisted : policyLabelled.Lists (.workloads (.selected labelled) .all) :=
    ⟨.ingress, _, rfl, _, List.mem_cons_self, List.mem_cons_self⟩
  refine ⟨htext.mpr (.inr hasks), hselects hasks, hcompile, ?_,
    (hexplains.peer _ hlisted).mpr ⟨_, _, rfl, .inr hasks, .inl rfl⟩, by decide⟩
  intro row hrow
  exact (hexplains.target .ingress row hrow).mpr (.inr hasks)

/-- A selector that is shown as `all` may ask for something. -/
theorem labelled_shown_as_all : ¬ ∀ s : Selector, s.check = .ok () →
    (s.text = "all" ↔ s.isEmpty = true) := by
  intro hall
  have hempty := (hall labelled (by decide)).mp (by decide)
  have hasks : labelled.isEmpty = false := by decide
  rw [hasks] at hempty
  cases hempty

end Sample

end PolicyReach
