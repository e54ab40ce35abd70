import PolicyReach.Proofs.Defects

/-!
# What malformed selectors select

A malformed requirement is met by no labels, so that a selector with one selects nothing. Labels that
a selector lists are not looked at again when it is matched: one with an empty key, for which the
selector is rejected as well, is compared like any other.
-/
namespace PolicyReach

namespace Requirement

theorem check_eq_ok_iff {r : Requirement} : r.check = .ok () ↔ r.WellFormed := by
  rw [← defects_eq_nil_iff, ← r.reports_check.exists_ok_iff]
  constructor
  · intro h
    exact ⟨(), h⟩
  · rintro ⟨⟨⟩, h⟩
    exact h

/-- Whether a requirement is well-formed is asked again for every set of labels. -/
theorem selects_iff_wellFormed {r : Requirement} {labels : Labels} :
    r.selects labels = true ↔ r.WellFormed ∧ r.Met labels := by
  rw [← check_eq_ok_iff]
  constructor
  · intro h
    have hcheck : r.check = .ok () := by
      rw [selects] at h
      cases hresult : r.check with
      | ok _ => rfl
      | error e =>
        rw [hresult] at h
        cases h
    exact ⟨hcheck, (selects_iff hcheck).mp h⟩
  · rintro ⟨hcheck, hmet⟩
    exact (selects_iff hcheck).mpr hmet

end Requirement

namespace Selector

variable {s : Selector} {labels : Labels}

/-- What a selector selects, be it malformed or not. -/
theorem selects_iff_requirements :
    s.selects labels = true ↔ (∀ r ∈ s.requirements, r.WellFormed) ∧ s.Matches labels := by
  have hlisted : (s.labels.all fun l => labels.get? l.1 == some l.2) = true ↔
      ∀ l ∈ s.labels, labels.get? l.1 = some l.2 := by simp
  rw [selects, Bool.and_eq_true, hlisted, List.all_eq_true, Matches]
  constructor
  · rintro ⟨hrequirements, hcarried⟩
    have hboth := fun r hr => Requirement.selects_iff_wellFormed.mp (hrequirements r hr)
    exact ⟨fun r hr => (hboth r hr).1, hcarried, fun r hr => (hboth r hr).2⟩
  · rintro ⟨hwell, hcarried, hmet⟩
    refine ⟨fun r hr => ?_, hcarried⟩
    exact Requirement.selects_iff_wellFormed.mpr ⟨hwell r hr, hmet r hr⟩

theorem selects_of_malformed_requirement {r : Requirement} (hr : r ∈ s.requirements)
    (hmalformed : ¬ r.WellFormed) : s.selects labels = false := by
  apply Bool.eq_false_iff.mpr
  intro hselects
  exact hmalformed ((selects_iff_requirements.mp hselects).1 r hr)

/-- A rejected selector has a malformed requirement or lists a label with an empty key. -/
theorem malformed_of_check_error {e : SelectorError} (h : s.check = .error e) :
    (∃ v, ("", v) ∈ s.labels) ∨ ∃ r ∈ s.requirements, ¬ r.WellFormed := by
  by_contra hneither
  rw [not_or] at hneither
  obtain ⟨hlabels, hrequirements⟩ := hneither
  have hcheck : s.check = .ok () := by
    refine check_eq_ok_iff.mpr ⟨?_, ?_⟩
    · rintro ⟨key, v⟩ hl rfl
      exact hlabels ⟨v, hl⟩
    · intro r hr
      apply Requirement.check_eq_ok_iff.mpr
      by_contra hmalformed
      exact hrequirements ⟨r, hr, hmalformed⟩
  rw [hcheck] at h
  cases h

theorem eq_emptyKey_of_mem {l : List (String × String)} {d : SelectorError}
    (h : d ∈ l.flatMap fun l => if l.1 = "" then [SelectorError.emptyKey] else []) :
    d = .emptyKey := by
  obtain ⟨label, _, hd⟩ := List.mem_flatMap.mp h
  by_cases hkey : label.1 = ""
  · rw [if_pos hkey] at hd
    exact List.mem_singleton.mp hd
  · rw [if_neg hkey] at hd
    cases hd

/-- The labels are looked at first, and only an empty key can be wrong with them. -/
theorem eq_emptyKey_of_label {e : SelectorError} {v : String} (h : s.check = .error e)
    (hv : ("", v) ∈ s.labels) : e = .emptyKey := by
  have hne : (s.labels.flatMap fun l => if l.1 = "" then [SelectorError.emptyKey] else []) ≠ [] :=
    List.ne_nil_of_mem (List.mem_flatMap.mpr ⟨("", v), hv, List.mem_singleton_self _⟩)
  have hreports := s.reports_check
  rw [h, Reports, defects, List.head?_append_of_ne_nil _ hne] at hreports
  exact eq_emptyKey_of_mem (List.mem_of_head? hreports)

/-- A rejected selector selects nothing but for one case: it lists a label with an empty key, the
labels carry that label and all others that are listed, and they meet the requirements, of which none
is malformed. -/
theorem selects_of_rejected {e : SelectorError} (h : s.check = .error e) (labels : Labels) :
    (s.selects labels = true ↔ (∃ v, ("", v) ∈ s.labels) ∧
      (∀ r ∈ s.requirements, r.WellFormed) ∧ s.Matches labels) ∧
    ((∃ r ∈ s.requirements, ¬ r.WellFormed) → s.selects labels = false) ∧
    (e ≠ .emptyKey → s.selects labels = false) ∧
    (labels.get? "" = none → s.selects labels = false) := by
  have hexact : s.selects labels = true ↔ (∃ v, ("", v) ∈ s.labels) ∧
      (∀ r ∈ s.requirements, r.WellFormed) ∧ s.Matches labels := by
    rw [selects_iff_requirements]
    constructor
    · rintro ⟨hwell, hmatches⟩
      rcases malformed_of_check_error h with hlabel | ⟨r, hr, hmalformed⟩
      · exact ⟨hlabel, hwell, hmatches⟩
      · exact absurd (hwell r hr) hmalformed
    · rintro ⟨_, hwell, hmatches⟩
      exact ⟨hwell, hmatches⟩
  refine ⟨hexact, ?_, ?_, ?_⟩
  · rintro ⟨r, hr, hmalformed⟩
    exact selects_of_malformed_requirement hr hmalformed
  · intro hne
    rcases malformed_of_check_error h with ⟨v, hv⟩ | ⟨r, hr, hmalformed⟩
    · exact absurd (eq_emptyKey_of_label h hv) hne
    · exact selects_of_malformed_requirement hr hmalformed
  · intro hnone
    apply Bool.eq_false_iff.mpr
    intro hselects
    obtain ⟨⟨v, hv⟩, _, hcarried, _⟩ := hexact.mp hselects
    have hcarries : labels.get? "" = some v := hcarried ("", v) hv
    rw [hnone] at hcarries
    cases hcarries

end Selector

namespace Sample

/-- Labels of which one has an empty key. -/
def keyless : Labels := SortedMap.empty.insert "" "x"

/-- Lists a label with an empty key. -/
def listsKeyless : Selector := ⟨some keyless, none⟩

/-- An operator that is not known is refused, and so is a label with an empty key, unless the labels
have just that. -/
theorem selects_of_listsKeyless :
    (⟨none, some [⟨"tier", .unsupported "Gt", .empty⟩]⟩ : Selector).selects keyless = false ∧
    listsKeyless.selects .empty = false ∧ listsKeyless.selects keyless = true := by
  have hunknown : (⟨none, some [⟨"tier", .unsupported "Gt", .empty⟩]⟩ : Selector).check =
      .error (.unsupportedOperator "tier" "Gt") := by decide
  have hkeyless : listsKeyless.check = .error .emptyKey := by decide
  refine ⟨(Selector.selects_of_rejected hunknown keyless).2.2.1 (by decide), ?_, ?_⟩
  · exact (Selector.selects_of_rejected hkeyless .empty).2.2.2 rfl
  · apply (Selector.selects_of_rejected hkeyless keyless).1.mpr
    refine ⟨⟨"x", by decide⟩, ?_, ?_, ?_⟩
    · intro r hr
      cases hr
    · decide
    · intro r hr
      cases hr

/-- A selector that is rejected may select labels for all that. -/
theorem rejected_and_selects : ¬ ∀ (s : Selector) (labels : Labels) (e : SelectorError),
    s.check = .error e → s.selects labels = false := by
  intro hall
  have hrefused := hall listsKeyless keyless .emptyKey (by decide)
  have hselects : listsKeyless.selects keyless = true := by decide
  rw [hselects] at hrefused
  cases hrefused

end Sample

end PolicyReach
