import Mathlib
import PolicyReach.Proofs.OutputMarkers

/-!
# The order of texts

Texts compare character by character, and so do their bytes in UTF-8. Of two characters the lesser
one has the lesser byte where their bytes first differ, and there is always such a byte: the bytes of
a character never begin those of another.
-/
namespace PolicyReach.Text

/-! ### Single characters -/

theorem toNat_lt (c : Char) : c.toNat < 0x110000 := by
  rcases c.valid with h | h
  · exact Nat.lt_trans h (by decide)
  · exact h.2

theorem ofNat_cons_lt_iff {a b : ℕ} (ha : a < 256) (hb : b < 256) {as bs : List UInt8} :
    UInt8.ofNat a :: as < UInt8.ofNat b :: bs ↔ a < b ∨ a = b ∧ as < bs := by
  rw [List.cons_lt_cons_iff, UInt8.lt_iff_toNat_lt, ← UInt8.toNat_inj, UInt8.toNat_ofNat_of_lt' ha,
    UInt8.toNat_ofNat_of_lt' hb]

/-- Numbers compare by their digits to the base 64. -/
theorem lt_by_digits {v w : ℕ} (h : v < w) :
    v / 262144 < w / 262144 ∨ v / 262144 = w / 262144 ∧
      (v / 4096 % 64 < w / 4096 % 64 ∨ v / 4096 % 64 = w / 4096 % 64 ∧
        (v / 64 % 64 < w / 64 % 64 ∨ v / 64 % 64 = w / 64 % 64 ∧ v % 64 < w % 64)) := by
  have hlast : v / 64 < w / 64 ∨ v / 64 = w / 64 ∧ v % 64 < w % 64 := by omega
  have hthird : v / 64 < w / 64 →
      v / 4096 < w / 4096 ∨ v / 4096 = w / 4096 ∧ v / 64 % 64 < w / 64 % 64 := by omega
  have hsecond : v / 4096 < w / 4096 →
      v / 262144 < w / 262144 ∨ v / 262144 = w / 262144 ∧ v / 4096 % 64 < w / 4096 % 64 := by omega
  omega

/-- The bytes of a lesser character come first, whatever follows on either side. -/
theorem encode_append_lt {c d : Char} (h : c < d) (as bs : List UInt8) :
    String.utf8EncodeChar c ++ as < String.utf8EncodeChar d ++ bs := by
  have hlt : c.toNat < d.toNat := h
  have hbound := toNat_lt d
  have hdigits := lt_by_digits hlt
  simp only [String.utf8EncodeChar, Char.toNat_val]
  -- More bytes mean a greater first byte. As many bytes hold the digits in the same places.
  split_ifs <;>
    simp (disch := omega) only [List.cons_append, List.nil_append, ofNat_cons_lt_iff,
      Nat.mod_eq_of_lt] <;> omega

/-! ### Texts -/

theorem flatMap_lt_flatMap {α β : Type} [LT α] [LT β] {f : α → List β}
    (hf : ∀ a b, a < b → ∀ l m, f a ++ l < f b ++ m) (hne : ∀ a, f a ≠ []) {xs ys : List α}
    (h : xs < ys) : xs.flatMap f < ys.flatMap f := by
  induction h with
  | @nil b ys =>
    obtain ⟨c, l, hl⟩ := List.exists_cons_of_ne_nil (hne b)
    rw [List.flatMap_nil, List.flatMap_cons, hl, List.cons_append]
    exact List.nil_lt_cons _ _
  | @rel a xs b ys hab =>
    rw [List.flatMap_cons, List.flatMap_cons]
    exact hf a b hab _ _
  | cons _ ih =>
    rw [List.flatMap_cons, List.flatMap_cons]
    exact List.append_left_lt ih

theorem bytes_lt_bytes {s t : String} (h : s < t) : bytes s < bytes t := by
  rw [bytes_eq_flatMap, bytes_eq_flatMap]
  exact flatMap_lt_flatMap (fun _ _ => encode_append_lt) (fun _ => String.utf8EncodeChar_ne_nil)
    (String.lt_iff_toList_lt.mp h)

/-- The order of texts is the lexicographic order of their bytes. -/
theorem bytes_lt_bytes_iff {s t : String} : bytes s < bytes t ↔ s < t := by
  constructor
  · intro h
    rcases lt_trichotomy s t with hlt | rfl | hgt
    · exact hlt
    · exact absurd h (List.lt_irrefl _)
    · exact absurd h (List.lt_asymm (bytes_lt_bytes hgt))
  · exact bytes_lt_bytes

end PolicyReach.Text
