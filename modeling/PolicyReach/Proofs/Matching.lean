import PolicyReach.Proofs.Compilation

/-!
# What selectors and networks match

The conditions that a selector puts on labels and a network on addresses, each said without the
functions that test them.
-/
namespace PolicyReach

/-! ### Selectors -/

/-- What a requirement asks of the labels. -/
def Requirement.Met (r : Requirement) (labels : Labels) : Prop :=
  match r.operator with
  | .isIn => ∃ v ∈ r.values, labels.get? r.key = some v
  | .notIn => ∀ v ∈ r.values, labels.get? r.key ≠ some v
  | .present => ∃ v, labels.get? r.key = some v
  | .absent => labels.get? r.key = none
  | .unsupported _ => False

/-- Labels match if they carry every listed label and meet every requirement. -/
def Selector.Matches (s : Selector) (labels : Labels) : Prop :=
  (∀ l ∈ s.labels, labels.get? l.1 = some l.2) ∧ ∀ r ∈ s.requirements, r.Met labels

namespace Requirement

theorem holds_iff {r : Requirement} {labels : Labels} : r.holds labels = true ↔ r.Met labels := by
  rw [holds, Met]
  cases hop : r.operator with
  | isIn => cases labels.get? r.key <;> simp [SortedSet.contains_iff]
  | notIn =>
    cases h : labels.get? r.key with
    | none => simp
    | some v =>
      rw [Bool.not_eq_true', Bool.eq_false_iff, ne_eq, SortedSet.contains_iff]
      constructor
      · rintro hv u hu heq
        exact hv (Option.some.inj heq ▸ hu)
      · intro hall hv
        exact hall v hv rfl
  | present => simp [Option.isSome_iff_exists]
  | absent => simp
  | unsupported name => simp

theorem selects_iff {r : Requirement} (h : r.check = .ok ()) {labels : Labels} :
    r.selects labels = true ↔ r.Met labels := by
  rw [selects, h]
  exact holds_iff

end Requirement

namespace Selector

theorem check_eq_ok_iff {s : Selector} :
    s.check = .ok () ↔ (∀ l ∈ s.labels, l.1 ≠ "") ∧ ∀ r ∈ s.requirements, r.check = .ok () := by
  rw [check, bind_eq_ok_iff]
  constructor
  · rintro ⟨⟨⟩, hl, hr⟩
    refine ⟨fun l hmem hempty => ?_, forM_eq_ok_iff.mp hr⟩
    have := forM_eq_ok_iff.mp hl l hmem
    simp [hempty] at this
  · rintro ⟨hl, hr⟩
    exact ⟨(), forM_eq_ok_iff.mpr fun l hmem => by simp [hl l hmem], forM_eq_ok_iff.mpr hr⟩

/-- A selector without malformed parts selects what it says. -/
theorem selects_iff {s : Selector} (h : s.check = .ok ()) {labels : Labels} :
    s.selects labels = true ↔ s.Matches labels := by
  have hreq := (check_eq_ok_iff.mp h).2
  rw [selects, Bool.and_eq_true, List.all_eq_true, List.all_eq_true, Matches, and_comm]
  refine and_congr ?_ ?_
  · simp
  · exact forall₂_congr fun r hr => Requirement.selects_iff (hreq r hr)

end Selector

/-! ### Networks -/

/-- An address of the same family with the same leading bits. -/
def Network.Holds (n : Network) (a : Address) : Prop :=
  n.base.family = a.family ∧ ∀ i, n.hostBits ≤ i → n.base.value.testBit i = a.value.testBit i

theorem shiftRight_eq_iff {a b k : ℕ} :
    a >>> k = b >>> k ↔ ∀ i, k ≤ i → a.testBit i = b.testBit i := by
  constructor
  · intro h i hi
    have := congrArg (fun n => n.testBit (i - k)) h
    simpa [Nat.testBit_shiftRight, Nat.add_sub_cancel' hi] using this
  · intro h
    refine Nat.eq_of_testBit_eq fun i => ?_
    simpa [Nat.testBit_shiftRight] using h (k + i) (Nat.le_add_right k i)

namespace Network

theorem contains_iff {n : Network} {a : Address} : n.contains a = true ↔ n.Holds a := by
  rw [contains, Bool.and_eq_true, decide_eq_true_eq, decide_eq_true_eq, eq_comm (a := a.value >>> _),
    shiftRight_eq_iff]
  rfl

theorem trunc_contains (n : Network) (a : Address) : n.trunc.contains a = n.contains a := by
  have h : n.trunc.base.value >>> n.hostBits = n.base.value >>> n.hostBits :=
    Nat.shiftLeft_shiftRight _ n.hostBits
  rw [Bool.eq_iff_iff]
  simp only [contains, Bool.and_eq_true, decide_eq_true_eq]
  exact and_congr Iff.rfl (by rw [← h]; rfl)

theorem single_contains_iff {a b : Address} : (single a).contains b = true ↔ a = b := by
  obtain ⟨family, value, hv⟩ := a
  obtain ⟨family', value', hv'⟩ := b
  simp only [contains, single, hostBits, Bool.and_eq_true, decide_eq_true_eq, Nat.sub_self,
    Nat.shiftRight_zero, Address.mk.injEq]
  exact and_congr decide_eq_true_iff eq_comm

theorem holds_base (n : Network) : n.Holds n.base := ⟨rfl, fun _ _ => rfl⟩

/-- Any bit after the leading ones may be flipped. -/
theorem exists_holds_of_lt_hostBits (n : Network) {k : ℕ} (hk : k < n.hostBits) :
    ∃ a, n.Holds a ∧ n.base.value.testBit k ≠ a.value.testBit k := by
  have hwidth : k < n.base.family.width := Nat.lt_of_lt_of_le hk (Nat.sub_le _ _)
  have hrange : n.base.value ^^^ 2 ^ k < 1 <<< n.base.family.width := by
    have hbase := n.base.inRange
    rw [Nat.one_shiftLeft] at hbase ⊢
    exact Nat.xor_lt_two_pow hbase (Nat.pow_lt_pow_right (by decide) hwidth)
  refine ⟨⟨n.base.family, _, hrange⟩, ⟨rfl, fun i hi => ?_⟩, by simp [Nat.testBit_xor]⟩
  have hne : k ≠ i := by omega
  simp [Nat.testBit_xor, hne]

/-- Comparing lengths and base addresses is enough, because a network is never empty. -/
theorem covers_iff {n m : Network} : n.covers m = true ↔ ∀ a, m.Holds a → n.Holds a := by
  rw [covers, Bool.and_eq_true, decide_eq_true_eq, contains_iff]
  constructor
  · rintro ⟨hlength, hfamily, hbits⟩ a ⟨hfamily', hbits'⟩
    have hhost : m.hostBits ≤ n.hostBits := by rw [hostBits, hostBits, hfamily]; omega
    exact ⟨hfamily.trans hfamily', fun i hi => (hbits i hi).trans (hbits' i (Nat.le_trans hhost hi))⟩
  · intro hall
    obtain ⟨hfamily, hbits⟩ := hall m.base m.holds_base
    refine ⟨Nat.le_of_not_lt fun hlt => ?_, hfamily, hbits⟩
    have hhost : n.hostBits < m.hostBits := by
      have := n.length_le
      rw [hfamily] at this
      rw [hostBits, hostBits, hfamily]
      omega
    -- A bit that `n` fixes and `m` does not: with it flipped an address is still one of `m`.
    obtain ⟨a, ha, hflipped⟩ := m.exists_holds_of_lt_hostBits hhost
    exact hflipped ((hbits _ (Nat.le_refl _)).symm.trans ((hall a ha).2 _ (Nat.le_refl _)))

end Network

end PolicyReach
