import Mathlib.Data.Nat.Notation
import PolicyReach.Text.Pieces

/-!
# Digits and pieces

Cutting a text at a separator undoes joining pieces by it. The digits of a number are read as that
number.
-/
namespace PolicyReach.Text

/-! ### Pieces -/

theorem pieces_eq_splitOn (sep : Char) (cs : List Char) : pieces sep cs = cs.splitOn sep := by
  induction cs with
  | nil => rw [pieces, List.splitOn_nil]
  | cons c rest ih =>
    rw [List.splitOn_cons_eq_if_modifyHead, ← ih, pieces]
    obtain ⟨p, ps, hps⟩ := List.exists_cons_of_ne_nil (pieces_ne_nil sep rest)
    by_cases hc : c = sep
    · simp [hc]
    · simp [hc, hps]

/-- Every character of a text is the separator or stands in one of the pieces. -/
theorem exists_mem_pieces {sep c : Char} {cs : List Char} (h : c ∈ cs) (hne : c ≠ sep) :
    ∃ p ∈ pieces sep cs, c ∈ p := by
  induction cs with
  | nil => cases h
  | cons d rest ih =>
    rw [pieces]
    by_cases hd : d = sep
    · have hrest : c ∈ rest := List.mem_of_ne_of_mem (hd ▸ hne) h
      obtain ⟨p, hp, hc⟩ := ih hrest
      rw [if_pos hd]
      exact ⟨p, List.mem_cons_of_mem _ hp, hc⟩
    · obtain ⟨p, ps, hps⟩ := List.exists_cons_of_ne_nil (pieces_ne_nil sep rest)
      rw [if_neg hd, hps]
      rcases List.mem_cons.mp h with rfl | hrest
      · exact ⟨c :: p, List.mem_cons_self, List.mem_cons_self⟩
      · obtain ⟨q, hq, hc⟩ := ih hrest
        rcases List.mem_cons.mp (hps ▸ hq) with rfl | hmore
        · exact ⟨d :: q, List.mem_cons_self, List.mem_cons_of_mem _ hc⟩
        · exact ⟨q, List.mem_cons_of_mem _ hmore, hc⟩

/-- No piece holds the separator. -/
theorem notMem_of_mem_pieces {sep : Char} {cs p : List Char} (h : p ∈ pieces sep cs) : sep ∉ p := by
  induction cs generalizing p with
  | nil =>
    obtain rfl := List.mem_singleton.mp h
    exact List.not_mem_nil
  | cons c rest ih =>
    rw [pieces] at h
    by_cases hc : c = sep
    · rw [if_pos hc] at h
      rcases List.mem_cons.mp h with rfl | hrest
      · exact List.not_mem_nil
      · exact ih hrest
    · obtain ⟨q, qs, hqs⟩ := List.exists_cons_of_ne_nil (pieces_ne_nil sep rest)
      rw [if_neg hc, hqs] at h
      rw [hqs] at ih
      rcases List.mem_cons.mp h with rfl | hrest
      · exact List.not_mem_cons_of_ne_of_not_mem (Ne.symm hc) (ih List.mem_cons_self)
      · exact ih (List.mem_cons_of_mem q hrest)

/-! ### Decimal digits -/

theorem isAsciiDigit_of_mem_toDigits {n : ℕ} {c : Char} (h : c ∈ Nat.toDigits 10 n) :
    isAsciiDigit c = true := by
  have hdigit := Nat.isDigit_of_mem_toDigits (by decide) (by decide) h
  simpa [isAsciiDigit, Char.isDigit, Char.le_def] using hdigit

/-- Only the number 0 is written with a leading 0. -/
theorem tail_toDigits_of_head_zero {n : ℕ} {ds : List Char}
    (h : Nat.toDigits 10 n = '0' :: ds) : ds = [] := by
  induction n using Nat.strongRecOn generalizing ds with
  | ind n ih =>
    rcases Nat.lt_or_ge n 10 with hn | hn
    · rw [Nat.toDigits_of_lt_base hn] at h
      exact (List.cons.inj h).2.symm
    · rw [Nat.toDigits_of_base_le (by decide) hn] at h
      obtain ⟨c, cs, hcs⟩ :=
        List.exists_cons_of_ne_nil (Nat.toDigits_ne_nil (n := n / 10) (b := 10))
      rw [hcs, List.cons_append] at h
      obtain ⟨rfl, -⟩ := List.cons.inj h
      have hnil := ih (n / 10) (by omega) hcs
      have hvalue := Nat.ofDigitChars_toDigits (b := 10) (n := n / 10) (by decide) (by decide)
      rw [hcs, hnil] at hvalue
      change 0 = n / 10 at hvalue
      omega

theorem decimalValue_eq (ds : List Char) : decimalValue ds = Nat.ofDigitChars 10 ds 0 := by
  have hstep : (fun (n : Nat) (d : Char) => n * 10 + (d.toNat - 48)) =
      fun n d => 10 * n + (d.toNat - '0'.toNat) := by
    funext n d
    rw [Nat.mul_comm]
    rfl
  rw [decimalValue, Nat.ofDigitChars_eq_foldl, hstep]

theorem decimal?_toDigits (n : ℕ) : decimal? (Nat.toDigits 10 n) = some n := by
  have hdigits : (Nat.toDigits 10 n).all isAsciiDigit = true :=
    List.all_eq_true.mpr fun _ => isAsciiDigit_of_mem_toDigits
  have hempty : (Nat.toDigits 10 n).isEmpty = false := by
    rw [List.isEmpty_eq_false_iff]
    exact Nat.toDigits_ne_nil
  rw [decimal?, hdigits, hempty, decimalValue_eq, Nat.ofDigitChars_ten_toDigits]
  rfl

theorem isAsciiDigit_of_mem {ds : List Char} {n : ℕ} (h : decimal? ds = some n) :
    ∀ c ∈ ds, isAsciiDigit c = true := by
  rw [decimal?] at h
  split at h
  · rename_i hall
    exact List.all_eq_true.mp (Bool.and_eq_true_iff.mp hall).2
  · cases h

/-! ### Hexadecimal digits -/

theorem hexValue?_digitChar {d : ℕ} (h : d < 16) : hexValue? (Nat.digitChar d) = some d := by
  have hall : ∀ d : Fin 16, hexValue? (Nat.digitChar d) = some d.val := by decide
  exact hall ⟨d, h⟩

theorem foldlM_hexValue?_toDigits (n : ℕ) :
    (Nat.toDigits 16 n).foldlM (fun n d => (hexValue? d).map (n * 16 + ·)) 0 = some n := by
  induction n using Nat.strongRecOn with
  | ind n ih =>
    by_cases hn : n < 16
    · rw [Nat.toDigits_of_lt_base hn]
      simp [hexValue?_digitChar hn]
    · have hlast := hexValue?_digitChar (Nat.mod_lt n (by decide : 0 < 16))
      rw [Nat.toDigits_of_base_le (by decide) (Nat.le_of_not_lt hn), List.foldlM_append,
        ih (n / 16) (by omega)]
      simp [hlast, Nat.div_add_mod']

theorem hex?_toDigits (n : ℕ) : hex? (Nat.toDigits 16 n) = some n := by
  have hempty : ¬ (Nat.toDigits 16 n).isEmpty = true := by
    rw [List.isEmpty_iff]
    exact Nat.toDigits_ne_nil
  rw [hex?, if_neg hempty, foldlM_hexValue?_toDigits]

theorem isSome_hexValue?_of_mem {ds : List Char} {n : ℕ} (h : hex? ds = some n) :
    ∀ c ∈ ds, (hexValue? c).isSome = true := by
  have hfold : ∀ (ds : List Char) (m : ℕ),
      ds.foldlM (fun n d => (hexValue? d).map (n * 16 + ·)) m = some n →
        ∀ c ∈ ds, (hexValue? c).isSome = true := by
    intro ds
    induction ds with
    | nil => exact fun _ _ _ hc => absurd hc List.not_mem_nil
    | cons d rest ih =>
      intro m h
      rw [List.foldlM_cons] at h
      obtain ⟨v, hd, hrest⟩ := Option.bind_eq_some_iff.mp h
      obtain ⟨x, hx, _⟩ := Option.map_eq_some_iff.mp hd
      exact List.forall_mem_cons.mpr ⟨by rw [hx]; rfl, ih v hrest⟩
  rw [hex?] at h
  split at h
  · cases h
  · exact hfold ds 0 h

end PolicyReach.Text
