/-!
# Sets of characters given by ranges of code points
-/
namespace PolicyReach.Text

/-- Inclusive ranges of code points. -/
abbrev Ranges := List (Nat × Nat)

def Ranges.has (table : Ranges) (c : Char) : Bool :=
  table.any fun r => r.1 ≤ c.toNat && c.toNat ≤ r.2

theorem Ranges.has_iff {table : Ranges} {c : Char} :
    table.has c = true ↔ ∃ r ∈ table, r.1 ≤ c.toNat ∧ c.toNat ≤ r.2 := by
  simp [Ranges.has]

/-- A character between two bounds is in no table that has a gap there. -/
theorem Ranges.has_eq_false {table : Ranges} {lo hi : Nat} {c : Char}
    (gap : ∀ r ∈ table, r.2 < lo ∨ hi < r.1) (hc : lo ≤ c.toNat ∧ c.toNat ≤ hi) :
    table.has c = false := by
  rw [Bool.eq_false_iff]
  intro h
  obtain ⟨r, hr, hlo, hhi⟩ := has_iff.mp h
  rcases gap r hr with hbelow | habove <;> omega

end PolicyReach.Text
