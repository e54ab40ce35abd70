import Mathlib.Data.Int.Notation
import PolicyReach.Text.Columns

/-!
# How wide lines are

Some characters take columns away from what follows them, but never more than that fills. So a line
fills no fewer columns than any part at its end, and one with a plain character such as a slash
fills at least one.
-/
namespace PolicyReach.Text

/-! ### What one character takes away -/

namespace Tail

/-- The columns that a tail fills at least, which a character in front of it may take away. -/
def least : Tail → ℤ
  | .khmerLetter | .tifinaghJoiner | .joinedFlagLetter | .joinedFlagLetters => 1
  | _ => 0

theorem least_nonneg (t : Tail) : 0 ≤ t.least := by
  cases t <;> simp [least]

theorem least_afterJoiner_le (t : Tail) : t.afterJoiner.least ≤ t.least := by
  cases t <;> simp [afterJoiner, isLetter, least]

theorem least_combine_le {t t' : Tail} {c : Char} {added : ℤ}
    (h : t.combine? c = some (added, t')) : t'.least ≤ added + t.least := by
  cases t <;> grind [combine?, least]

end Tail

/-- Letters that are drawn below others fill a column when they stand alone. -/
theorem columnless_of_khmerSubjoined {c : Char} (h : khmerSubjoined.has c = true) :
    columnless.has c = false := by
  have hinside : ∀ r ∈ khmerSubjoined, 0x1780 ≤ r.1 ∧ r.2 ≤ 0x17AF := by decide
  obtain ⟨r, hr, hlo, hhi⟩ := Ranges.has_iff.mp h
  have hgap : ∀ r ∈ columnless, r.2 < 0x1780 ∨ 0x17AF < r.1 := by decide +kernel
  have := hinside r hr
  exact Ranges.has_eq_false hgap (by omega)

theorem least_charTail_le (c : Char) : (charTail c).least ≤ charColumns c := by
  by_cases h : khmerSubjoined.has c = true
  · have hone : 1 ≤ charColumns c := by
      have hcolumn := columnless_of_khmerSubjoined h
      rw [charColumns]
      grind
    have hle : (charTail c).least ≤ 1 := by
      cases charTail c <;> simp [Tail.least]
    omega
  · have hzero : (charTail c).least = 0 := by
      simp only [charTail, h]
      grind [Tail.least]
    omega

namespace Ahead

variable {a : Ahead}

theorem least_withoutPicture_le (a : Ahead) : a.withoutPicture.tail.least ≤ a.tail.least := by
  have := a.tail.least_nonneg
  rw [withoutPicture]
  split
  · split
    · exact Int.le_refl _
    · exact this
  · exact Int.le_refl _

theorem least_askPicture_le (a : Ahead) : a.askPicture.tail.least ≤ a.tail.least := by
  have := a.tail.least_nonneg
  rw [askPicture]
  split
  · exact Int.le_refl _
  · split
    · exact Int.le_refl _
    · exact this

theorem least_askText_le (a : Ahead) : a.askText.tail.least ≤ a.tail.least := by
  have := a.tail.least_nonneg
  rw [askText]
  split
  · exact Int.le_refl _
  · exact this

theorem least_step_le (c : Char) (next : Ahead) :
    (next.step c).2.tail.least ≤ (next.step c).1 + next.tail.least := by
  have hpicture := least_withoutPicture_le next
  have hnext := next.tail.least_nonneg
  rw [step]
  split
  · change (0 : ℤ) ≤ (if next.tail.isJoined = true then 0 else 2) + next.tail.least
    split <;> omega
  · simp only
    generalize next.withoutPicture = a at hpicture
    split
    · change (0 : ℤ) ≤ 1 + next.tail.least
      omega
    split
    · have := least_askPicture_le a
      simp only
      omega
    split
    · have := least_askText_le a
      simp only
      omega
    split
    · change (0 : ℤ) ≤ 1 + next.tail.least
      omega
    split
    · have := a.tail.least_afterJoiner_le
      simp only [of]
      omega
    split
    · simp only [of]
      omega
    split
    · next h =>
      have := Tail.least_combine_le h
      simp only [of]
      omega
    · have := least_charTail_le c
      simp only [of]
      omega

theorem step_plain {c : Char} (hc : c.toNat ≤ 0xA0) (hs : selectable.has c = false)
    (next : Ahead) : next.step c = (1, .of .plain) := by
  simp [step, hs, hc]

end Ahead

/-! ### What a line fills -/

/-- The characters in front of a part of a line take nothing away from it but what its tail
spares. -/
theorem least_scanColumns_append {k : ℤ} {rest : List Char}
    (h : (scanColumns rest).2.tail.least + k ≤ (scanColumns rest).1) (front : List Char) :
    (scanColumns (front ++ rest)).2.tail.least + k ≤ (scanColumns (front ++ rest)).1 := by
  induction front with
  | nil => exact h
  | cons c front ih =>
    have hstep := Ahead.least_step_le c (scanColumns (front ++ rest)).2
    simp only [List.cons_append, scanColumns]
    omega

theorem least_scanColumns_le (line : List Char) :
    (scanColumns line).2.tail.least ≤ (scanColumns line).1 := by
  have hnil : (scanColumns []).2.tail.least + 0 ≤ (scanColumns []).1 := by decide
  have hline := least_scanColumns_append hnil line
  simpa using hline

theorem one_le_columns_of_mem {c : Char} (hc : c.toNat ≤ 0xA0) (hs : selectable.has c = false)
    {line : List Char} (h : c ∈ line) : 1 ≤ columns line := by
  obtain ⟨front, rest, rfl⟩ := List.append_of_mem h
  have hplain : (scanColumns (c :: rest)).2.tail.least + 1 ≤ (scanColumns (c :: rest)).1 := by
    have hrest := least_scanColumns_le rest
    have hnonneg := (scanColumns rest).2.tail.least_nonneg
    simp only [scanColumns, Ahead.step_plain hc hs]
    change (0 : ℤ) + 1 ≤ 1 + (scanColumns rest).1
    omega
  have hline := least_scanColumns_append hplain front
  have hnonneg := (scanColumns (front ++ c :: rest)).2.tail.least_nonneg
  rw [columns]
  omega

end PolicyReach.Text
