import Mathlib
import PolicyReach.Selector

/-!
# Selectors that select everything

Every requirement, malformed ones included, refuses some set of labels, and which one can be told
from its operator. A selector therefore selects all label sets only if it asks for nothing.
-/
namespace PolicyReach

theorem SortedMap.get?_empty {α β : Type} [Ord α] [BEq α] (a : α) :
    (empty : SortedMap α β).get? a = none := rfl

namespace Requirement

/-- Labels that the requirement refuses. Only what forbids a label needs one to be there. -/
def refused (r : Requirement) : Labels :=
  match r.operator, r.values.toList with
  | .notIn, v :: _ => SortedMap.empty.insert r.key v
  | .absent, _ => SortedMap.empty.insert r.key ""
  | _, _ => .empty

theorem selects_eq_false {r : Requirement} {labels : Labels} (h : r.holds labels = false) :
    r.selects labels = false := by
  rw [selects]
  cases r.check with
  | ok _ => exact h
  | error _ => rfl

/-- A value is forbidden to no label only where the requirement is malformed. -/
theorem check_ne_ok_of_notIn {r : Requirement} (hop : r.operator = .notIn)
    (hvalues : r.values.toList = []) : r.check ≠ .ok () := by
  intro hcheck
  rw [check] at hcheck
  by_cases hkey : r.key.isEmpty = true
  · rw [if_pos hkey] at hcheck
    cases hcheck
  · rw [if_neg hkey, hop] at hcheck
    simp [SortedSet.isEmpty, hvalues] at hcheck

theorem selects_refused (r : Requirement) : r.selects r.refused = false := by
  cases hop : r.operator with
  | isIn =>
    apply selects_eq_false
    simp [holds, refused, hop, SortedMap.get?_empty]
  | notIn =>
    cases hvalues : r.values.toList with
    | nil =>
      have hcheck := check_ne_ok_of_notIn hop hvalues
      rw [selects]
      cases hresult : r.check with
      | ok _ => exact absurd hresult hcheck
      | error _ => rfl
    | cons v rest =>
      have hv : v ∈ r.values := by
        change v ∈ r.values.toList
        rw [hvalues]
        exact List.mem_cons_self
      apply selects_eq_false
      simp [holds, refused, hop, hvalues, SortedSet.contains_iff.mpr hv]
  | present =>
    apply selects_eq_false
    simp [holds, refused, hop, SortedMap.get?_empty]
  | absent =>
    apply selects_eq_false
    simp [holds, refused, hop]
  | unsupported name =>
    apply selects_eq_false
    simp [holds, hop]

end Requirement

namespace Selector

/-- Labels that the selector refuses if it asks for anything. -/
def refused (s : Selector) : Labels :=
  match s.requirements with
  | [] => .empty
  | r :: _ => r.refused

theorem isEmpty_iff {s : Selector} : s.isEmpty = true ↔ s.labels = [] ∧ s.requirements = [] := by
  rw [isEmpty, Bool.and_eq_true, List.isEmpty_iff, List.isEmpty_iff]

theorem selects_of_isEmpty {s : Selector} (h : s.isEmpty = true) (labels : Labels) :
    s.selects labels = true := by
  obtain ⟨hlabels, hrequirements⟩ := isEmpty_iff.mp h
  rw [selects, hlabels, hrequirements]
  rfl

theorem selects_refused {s : Selector} (h : s.isEmpty = false) : s.selects s.refused = false := by
  rw [selects, Bool.and_eq_false_iff]
  cases hrequirements : s.requirements with
  | cons r rest =>
    left
    rw [refused, hrequirements, List.all_cons, r.selects_refused, Bool.false_and]
  | nil =>
    right
    obtain ⟨l, rest, hlabels⟩ : ∃ l rest, s.labels = l :: rest := by
      apply List.exists_cons_of_ne_nil
      intro hlabels
      rw [isEmpty_iff.mpr ⟨hlabels, hrequirements⟩] at h
      cases h
    rw [refused, hrequirements, hlabels, List.all_cons, SortedMap.get?_empty]
    rfl

/-- Exactly the empty selectors select all label sets: any part of a selector, be it malformed or
with an operator that is not known, refuses some. -/
theorem selects_all_iff_isEmpty (s : Selector) :
    ((∀ labels, s.selects labels = true) ↔ s.isEmpty = true) ∧
    ((s.labels ≠ [] ∨ s.requirements ≠ []) ↔ ∃ labels, s.selects labels = false) := by
  constructor
  · constructor
    · intro hall
      by_contra hne
      have hrefused := selects_refused (Bool.eq_false_iff.mpr hne)
      rw [hall s.refused] at hrefused
      cases hrefused
    · exact selects_of_isEmpty
  · rw [← not_and_or, ← isEmpty_iff, Bool.not_eq_true]
    constructor
    · intro hne
      exact ⟨s.refused, selects_refused hne⟩
    · rintro ⟨labels, hlabels⟩
      apply Bool.eq_false_iff.mpr
      intro hempty
      rw [selects_of_isEmpty hempty] at hlabels
      cases hlabels

/-- What forbids nothing, because its values are missing, is malformed and refuses every label. -/
example : (⟨none, some [⟨"tier", .notIn, .empty⟩]⟩ : Selector).selects .empty = false := by decide

end Selector

end PolicyReach
