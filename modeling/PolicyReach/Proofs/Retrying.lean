import Mathlib
import PolicyReach.Backoff

/-!
# How operations are retried

An operation is called until it succeeds or has been called so often as it may, with one pause
between any two calls. What is said here of the calls holds for any arithmetic of delays, and what
is said of the lengths of pauses for products that are not rounded.
-/
namespace PolicyReach

namespace RetryStep

variable {δ : Type} (pause : ℕ → δ)

/-- Calls with a pause between any two, so many pauses in all. -/
def alternating (pauses : ℕ) : List (RetryStep δ) :=
  .call 1 :: (List.range pauses).flatMap fun i => [.pause (pause i), .call (i + 2)]

/-- What precedes the next call after so many pauses, the last step first. -/
def past : ℕ → List (RetryStep δ)
  | 0 => []
  | n + 1 => .pause (pause n) :: .call (n + 1) :: past n

theorem alternating_succ (n : ℕ) :
    alternating pause (n + 1) = alternating pause n ++ [.pause (pause n), .call (n + 2)] := by
  rw [alternating, alternating, List.range_succ, List.flatMap_append, List.cons_append]
  rfl

theorem reverse_past (n : ℕ) : (.call (n + 1) :: past pause n).reverse = alternating pause n := by
  induction n with
  | zero => rfl
  | succ n ih =>
    rw [past, List.reverse_cons, List.reverse_cons, ih, alternating_succ, List.append_assoc]
    rfl

theorem countP_alternating (n : ℕ) : (alternating pause n).countP isCall = n + 1 := by
  induction n with
  | zero => rfl
  | succ n ih =>
    rw [alternating_succ, List.countP_append, ih]
    rfl

theorem filterMap_alternating (n : ℕ) :
    (alternating pause n).filterMap pause? = (List.range n).map pause := by
  induction n with
  | zero => rfl
  | succ n ih =>
    rw [alternating_succ, List.filterMap_append, ih, List.range_succ, List.map_append]
    rfl

end RetryStep

/-- The operation is called until it succeeds, but only so often, and the calls and the pauses
between them take turns. -/
structure Retried.Follows {ε α δ : Type} (r : Retried ε α δ) (op : ℕ → Except ε α)
    (attempts : ℕ) (pause : ℕ → δ) : Prop where
  succeeding : ∀ n, IsLeast {n | 1 ≤ n ∧ (op n).isOk = true} n → r.calls = min n attempts
  failing : (∀ n, 1 ≤ n → (op n).isOk = false) → r.calls = attempts
  result : r.result = op r.calls
  steps : r.steps = RetryStep.alternating pause (r.calls - 1)

namespace Retried.Follows

variable {ε α δ : Type} {r : Retried ε α δ} {op : ℕ → Except ε α} {attempts : ℕ} {pause : ℕ → δ}

theorem calls_le (h : r.Follows op attempts pause) : r.calls ≤ attempts := by
  by_cases hok : ∃ n, 1 ≤ n ∧ (op n).isOk = true
  · rw [h.succeeding _ (Nat.isLeast_find hok)]
    exact Nat.min_le_right _ _
  · refine (h.failing fun n hn => ?_).le
    exact Bool.eq_false_iff.mpr fun htrue => hok ⟨n, hn, htrue⟩

theorem pauses_eq (h : r.Follows op attempts pause) :
    r.pauses = (List.range (r.calls - 1)).map pause := by
  rw [Retried.pauses, h.steps, RetryStep.filterMap_alternating]

end Retried.Follows

namespace Backoff

variable {ε α δ : Type} {b : Backoff δ} {jitter : ℕ → Factor} {op : ℕ → Except ε α}

/-! ### The last attempt -/

def attempts (b : Backoff δ) : ℕ := b.maxRetries.toNat + 1

/-- The number of the attempt that ends the retries. -/
def tries (b : Backoff δ) (op : ℕ → Except ε α) : ℕ :=
  ((List.range' 1 b.attempts).find? fun n => (op n).isOk).getD b.attempts

theorem attempts_le_size (b : Backoff δ) : b.attempts ≤ UInt32.size := b.maxRetries.toNat_lt

/-- The attempts before the last one fail, and the last one succeeds or no other may be made. -/
theorem tries_spec (b : Backoff δ) (op : ℕ → Except ε α) :
    1 ≤ b.tries op ∧ b.tries op ≤ b.attempts ∧
      (∀ n, 1 ≤ n → n < b.tries op → (op n).isOk = false) ∧
      ((op (b.tries op)).isOk = true ∨ b.tries op = b.attempts) := by
  rw [tries]
  cases hfind : (List.range' 1 b.attempts).find? fun n => (op n).isOk with
  | none =>
    rw [List.find?_range'_eq_none] at hfind
    refine ⟨Nat.le_add_left 1 _, Nat.le_refl _, ?_, .inr rfl⟩
    intro n hn hlt
    have hlt : n < b.attempts := hlt
    simpa using hfind n hn (by omega)
  | some k =>
    rw [List.find?_range'_eq_some] at hfind
    obtain ⟨hok, hmem, hbefore⟩ := hfind
    rw [List.mem_range'_1] at hmem
    rw [Option.getD_some]
    refine ⟨hmem.1, by omega, ?_, .inl hok⟩
    intro n hn hlt
    simpa using hbefore n hn hlt

/-- As many attempts may be made as there are numbers of 32 bits, and those that can be counted all
fail. -/
def Overflows (b : Backoff δ) (op : ℕ → Except ε α) : Prop :=
  b.attempts = UInt32.size ∧ ∀ n, 1 ≤ n → n < UInt32.size → (op n).isOk = false

theorem size_le_tries_iff : UInt32.size ≤ b.tries op ↔ b.Overflows op := by
  obtain ⟨hpos, hle, hfailed, hlast⟩ := b.tries_spec op
  have hsize := b.attempts_le_size
  constructor
  · intro h
    exact ⟨by omega, fun n hn hlt => hfailed n hn (by omega)⟩
  · rintro ⟨hall, hnone⟩
    by_contra hlt
    rcases hlast with hok | hend
    · rw [hnone _ hpos (by omega)] at hok
      cases hok
    · omega

theorem tries_eq_min {n : ℕ} (h : IsLeast {n | 1 ≤ n ∧ (op n).isOk = true} n) :
    b.tries op = min n b.attempts := by
  obtain ⟨hpos, hle, hfailed, hlast⟩ := b.tries_spec op
  obtain ⟨⟨hn, hok⟩, hleast⟩ := h
  have hn' : b.tries op ≤ n := by
    by_contra hlt
    rw [hfailed n hn (by omega)] at hok
    cases hok
  rcases hlast with hlast | hlast
  · have := hleast ⟨hpos, hlast⟩
    omega
  · omega

theorem tries_eq_attempts (h : ∀ n, 1 ≤ n → (op n).isOk = false) : b.tries op = b.attempts := by
  obtain ⟨hpos, _, _, hlast⟩ := b.tries_spec op
  refine hlast.resolve_left ?_
  rw [h _ hpos]
  exact Bool.false_ne_true

/-! ### Runs -/

variable [Min δ] [Scalable δ]

/-- The first nominal delays and pauses, none of which is out of range. -/
structure Paces (b : Backoff δ) (jitter : ℕ → Factor) (delay pause : ℕ → δ) (n : ℕ) : Prop where
  first : delay 0 = b.firstDelay
  next : ∀ i < n, b.nextDelay (delay i) = .ok (delay (i + 1))
  paused : ∀ i < n, Scalable.scale (delay i) (jitter (i + 1)) = .ok (pause i)

variable {delay pause : ℕ → δ} {n made : ℕ} {d d' p : δ} {steps : List (RetryStep δ)}

theorem Paces.mono {m : ℕ} (h : b.Paces jitter delay pause n) (hm : m ≤ n) :
    b.Paces jitter delay pause m :=
  ⟨h.first, fun i hi => h.next i (Nat.lt_of_lt_of_le hi hm),
    fun i hi => h.paused i (Nat.lt_of_lt_of_le hi hm)⟩

theorem Paces.nominal (h : b.Paces jitter delay pause n) {i : ℕ} (hi : i ≤ n) :
    b.nominal (i + 1) = .ok (delay i) := by
  induction i with
  | zero => exact congrArg Except.ok h.first.symm
  | succ i ih =>
    rw [Backoff.nominal, ih (by omega)]
    exact h.next i hi

theorem paces_of_nominal (hdelay : ∀ i, b.nominal (i + 1) = .ok (delay i))
    (hpause : ∀ i, Scalable.scale (delay i) (jitter (i + 1)) = .ok (pause i)) (n : ℕ) :
    b.Paces jitter delay pause n where
  first := (Except.ok.inj (hdelay 0)).symm
  next := fun i _ => by
    have hnext := hdelay (i + 1)
    rw [nominal, hdelay i] at hnext
    exact hnext
  paused := fun i _ => hpause i

theorem runFrom_overflow (h : UInt32.size ≤ made + 1) :
    b.runFrom jitter op made d steps = .error .tooManyAttempts := by
  rw [runFrom]
  exact if_pos h

theorem runFrom_last (hsize : made + 1 < UInt32.size)
    (h : (op (made + 1)).isOk = true ∨ b.maxRetries.toNat < made + 1) :
    b.runFrom jitter op made d steps =
      .ok ⟨op (made + 1), (.call (made + 1) :: steps).reverse⟩ := by
  rw [runFrom]
  dsimp only
  rw [if_neg (Nat.not_le.mpr hsize)]
  cases hop : op (made + 1) with
  | ok a => rfl
  | error e =>
    have hlast : b.maxRetries.toNat < made + 1 := by
      refine h.resolve_left ?_
      rw [hop]
      exact Bool.false_ne_true
    simp only [if_pos hlast]

/-- After an attempt that failed there is a pause and then the next attempt. -/
theorem runFrom_again (hsize : made + 1 < UInt32.size) (hfailed : (op (made + 1)).isOk = false)
    (hmore : made + 1 ≤ b.maxRetries.toNat) (hnext : b.nextDelay d = .ok d')
    (hpause : Scalable.scale d (jitter (made + 1)) = .ok p) :
    b.runFrom jitter op made d steps =
      b.runFrom jitter op (made + 1) d' (.pause p :: .call (made + 1) :: steps) := by
  rw [runFrom]
  dsimp only
  rw [if_neg (Nat.not_le.mpr hsize)]
  cases hop : op (made + 1) with
  | ok a =>
    rw [hop] at hfailed
    cases hfailed
  | error e =>
    simp only [if_neg (Nat.not_lt.mpr hmore), scaled, hpause, hnext]
    rfl

theorem run_eq_runFrom (h : b.Paces jitter delay pause n) (hmore : n ≤ b.maxRetries.toNat)
    (hfailed : ∀ i < n, (op (i + 1)).isOk = false) :
    b.run jitter op = b.runFrom jitter op n (delay n) (RetryStep.past pause n) := by
  have hsize : b.maxRetries.toNat < UInt32.size := b.maxRetries.toNat_lt
  -- As long as the attempts fail, each of them leads to the next.
  have hreach : ∀ k ≤ n,
      b.run jitter op = b.runFrom jitter op k (delay k) (RetryStep.past pause k) := by
    intro k hk
    induction k with
    | zero =>
      rw [run, h.first]
      rfl
    | succ k ih =>
      rw [ih (by omega)]
      exact runFrom_again (by omega) (hfailed k hk) (by omega) (h.next k hk) (h.paused k hk)
  exact hreach n (Nat.le_refl n)

/-- A run comes to its last attempt, unless the counter has no number for that. -/
theorem run_eq (h : b.Paces jitter delay pause b.maxRetries.toNat) :
    b.run jitter op =
      if UInt32.size ≤ b.tries op then .error .tooManyAttempts
      else .ok ⟨op (b.tries op), RetryStep.alternating pause (b.tries op - 1)⟩ := by
  obtain ⟨hpos, hle, hfailed, hlast⟩ := b.tries_spec op
  obtain ⟨n, hn⟩ : ∃ n, b.tries op = n + 1 := ⟨b.tries op - 1, by omega⟩
  rw [hn] at hle hfailed hlast ⊢
  have hmore : n ≤ b.maxRetries.toNat := Nat.le_of_succ_le_succ hle
  rw [run_eq_runFrom (h.mono hmore) hmore fun i hi => hfailed (i + 1) (by omega) (by omega)]
  split
  · next hsize => exact runFrom_overflow hsize
  · next hsize =>
    rw [runFrom_last (Nat.not_le.mp hsize) (hlast.imp_right fun hall => hall ▸ Nat.lt_succ_self _),
      RetryStep.reverse_past]
    rfl

theorem run_overflows (h : b.Paces jitter delay pause b.maxRetries.toNat) (hall : b.Overflows op) :
    b.run jitter op = .error .tooManyAttempts :=
  (run_eq h).trans (if_pos (size_le_tries_iff.mpr hall))

/-- A counter of attempts that does not overflow lets the retries come to their end. -/
theorem run_follows (h : b.Paces jitter delay pause b.maxRetries.toNat) (hall : ¬ b.Overflows op) :
    ∃ r, b.run jitter op = .ok r ∧ r.Follows op b.attempts pause := by
  obtain ⟨hpos, _, _, _⟩ := b.tries_spec op
  have hcalls : (RetryStep.alternating pause (b.tries op - 1)).countP RetryStep.isCall =
      b.tries op := by
    rw [RetryStep.countP_alternating]
    omega
  refine ⟨_, (run_eq h).trans (if_neg fun hsize => hall (size_le_tries_iff.mp hsize)), ?_⟩
  exact {
    succeeding := fun n hn => hcalls.trans (tries_eq_min hn)
    failing := fun hn => hcalls.trans (tries_eq_attempts hn)
    result := congrArg op hcalls.symm
    steps := congrArg (fun n => RetryStep.alternating pause (n - 1)) hcalls.symm }

end Backoff

/-! ### Products that are not rounded -/

namespace Factor

variable {f : Factor}

/-- The value of a factor that is not negative. -/
def ratio (f : Factor) : ℚ≥0 := f.numerator.toNat / f.denominator

/-- Jitter takes at most a half from a pause and adds less than a half. -/
def IsJitter (f : Factor) : Prop := 1 / 2 ≤ f.ratio ∧ f.ratio < 3 / 2

theorem IsJitter.numerator_nonneg (h : f.IsJitter) : 0 ≤ f.numerator := by
  by_contra hneg
  have hzero : f.ratio = 0 := by
    rw [ratio, Int.toNat_of_nonpos (by omega), Nat.cast_zero, zero_div]
  have hhalf := h.1
  rw [hzero] at hhalf
  norm_num at hhalf

end Factor

/-- Delays as exact numbers of nanoseconds, with the range that spans have. -/
instance : Scalable ℚ≥0 where
  scale d f :=
    if d ≠ 0 ∧ f.numerator < 0 then .error .negative
    else if d * f.ratio < Span.limit then .ok (d * f.ratio)
    else .error .tooLong

namespace Backoff

variable {ε α : Type}

theorem scale_exact {d : ℚ≥0} {f : Factor} (hf : 0 ≤ f.numerator)
    (hrange : d * f.ratio < Span.limit) : Scalable.scale d f = .ok (d * f.ratio) := by
  have hnonneg : ¬ (d ≠ 0 ∧ f.numerator < 0) := fun h => Int.not_lt.mpr hf h.2
  exact (if_neg hnonneg).trans (if_pos hrange)

/-- Delays that grow by a ratio until they are as long as they may be. -/
def cappedDelay (initial longest ratio : ℚ≥0) : ℕ → ℚ≥0
  | 0 => min initial longest
  | n + 1 => min (cappedDelay initial longest ratio n * ratio) longest

section cappedDelay

variable (initial longest ratio : ℚ≥0)

theorem cappedDelay_le (n : ℕ) : cappedDelay initial longest ratio n ≤ longest := by
  cases n with
  | zero => exact min_le_right _ _
  | succ n => exact min_le_right _ _

variable {ratio}

theorem monotone_cappedDelay (hratio : 1 ≤ ratio) :
    Monotone (cappedDelay initial longest ratio) := by
  refine monotone_nat_of_le_succ fun n => le_min ?_ (cappedDelay_le initial longest ratio n)
  exact le_mul_of_one_le_right zero_le hratio

/-- A delay that was cut short grows to what is cut short again. -/
theorem cappedDelay_eq (hratio : 1 ≤ ratio) (n : ℕ) :
    cappedDelay initial longest ratio n = min (initial * ratio ^ n) longest := by
  induction n with
  | zero => rw [cappedDelay, pow_zero, mul_one]
  | succ n ih =>
    have hlong : longest ≤ longest * ratio := le_mul_of_one_le_right zero_le hratio
    rw [cappedDelay, ih, min_mul_of_nonneg _ _ zero_le, min_assoc, min_eq_right hlong,
      mul_assoc, ← pow_succ]

end cappedDelay

/-- The pauses between attempts when delays are jittered. -/
def jitteredDelay (initial longest ratio : ℚ≥0) (jitter : ℕ → Factor) (n : ℕ) : ℚ≥0 :=
  cappedDelay initial longest ratio n * (jitter (n + 1)).ratio

variable {maxRetries : UInt32} {initial longest ratio : ℚ≥0} {f : Factor} {jitter : ℕ → Factor}
  {op : ℕ → Except ε α}

/-- Pauses stay as near to the delays as jitter does to one. -/
theorem jitteredDelay_mem (hjitter : ∀ n, (jitter n).IsJitter) (n : ℕ) :
    cappedDelay initial longest ratio n / 2 ≤ jitteredDelay initial longest ratio jitter n ∧
      jitteredDelay initial longest ratio jitter n ≤
        3 * cappedDelay initial longest ratio n / 2 := by
  obtain ⟨hleast, hmost⟩ := hjitter (n + 1)
  rw [jitteredDelay]
  generalize cappedDelay initial longest ratio n = d
  constructor
  · calc d / 2 = d * (1 / 2) := by rw [mul_one_div]
      _ ≤ d * (jitter (n + 1)).ratio := mul_le_mul_right hleast d
  · calc d * (jitter (n + 1)).ratio ≤ d * (3 / 2) := mul_le_mul_right hmost.le d
      _ = 3 * d / 2 := by ring

theorem paces_exact {n : ℕ} (hf : 0 ≤ f.numerator) (hjitter : ∀ n, (jitter n).IsJitter)
    (hgrow : ∀ i < n, cappedDelay initial longest f.ratio i * f.ratio < Span.limit)
    (hpause : ∀ i < n, jitteredDelay initial longest f.ratio jitter i < Span.limit) :
    (geometric maxRetries initial longest f).Paces jitter (cappedDelay initial longest f.ratio)
      (jitteredDelay initial longest f.ratio jitter) n where
  first := rfl
  next := fun i hi => congrArg (Except.map (min · longest)) (scale_exact hf (hgrow i hi))
  paused := fun i hi => scale_exact (hjitter (i + 1)).numerator_nonneg (hpause i hi)

/-- What the delays and pauses of a retried operation are. -/
structure Graded (b : Backoff ℚ≥0) (f : Factor) (pauses : List ℚ≥0) (delay : ℕ → ℚ≥0) : Prop where
  first : delay 0 = min b.initialDelay b.maxDelay
  next : ∀ i, delay (i + 1) = min (delay i * f.ratio) b.maxDelay
  nominal : ∀ i ≤ b.maxRetries.toNat, b.nominal (i + 1) = .ok (delay i)
  pauses : ∀ i p, pauses[i]? = some p → delay i / 2 ≤ p ∧ p ≤ 3 * delay i / 2
  capped : ∀ i, delay i ≤ b.maxDelay
  growing : 1 ≤ f.ratio → Monotone delay
  power : 1 ≤ f.ratio → ∀ i, delay i = min (b.initialDelay * f.ratio ^ i) b.maxDelay

/-- Retries whose delays stay in range end as the operation tells, and they wait between attempts
for as long as the delays say, but for the jitter. -/
theorem run_exact (hretries : maxRetries.toNat + 1 < UInt32.size) (hf : 0 ≤ f.numerator)
    (hjitter : ∀ n, (jitter n).IsJitter)
    (hgrow : ∀ i < maxRetries.toNat, cappedDelay initial longest f.ratio i * f.ratio < Span.limit)
    (hpause : ∀ i < maxRetries.toNat,
      jitteredDelay initial longest f.ratio jitter i < Span.limit) :
    ∃ r, (geometric maxRetries initial longest f).run jitter op = .ok r ∧
      r.Follows op (maxRetries.toNat + 1) (jitteredDelay initial longest f.ratio jitter) ∧
      (geometric maxRetries initial longest f).Graded f r.pauses
        (cappedDelay initial longest f.ratio) := by
  have hpaces : (geometric maxRetries initial longest f).Paces jitter
      (cappedDelay initial longest f.ratio) (jitteredDelay initial longest f.ratio jitter)
      maxRetries.toNat := paces_exact hf hjitter hgrow hpause
  obtain ⟨r, hrun, hfollows⟩ := run_follows hpaces fun h => hretries.ne h.1
  refine ⟨r, hrun, hfollows, ?_⟩
  exact {
    first := rfl
    next := fun _ => rfl
    nominal := fun i hi => hpaces.nominal hi
    pauses := fun i p hp => by
      rw [hfollows.pauses_eq, List.getElem?_map] at hp
      obtain ⟨j, hj, rfl⟩ := Option.map_eq_some_iff.mp hp
      obtain ⟨_, rfl⟩ := List.getElem?_eq_some_iff.mp hj
      rw [List.getElem_range]
      exact jitteredDelay_mem hjitter _
    capped := cappedDelay_le initial longest f.ratio
    growing := monotone_cappedDelay initial longest
    power := fun h i => cappedDelay_eq initial longest h i }

end Backoff

namespace Sample

def threeHalves : Factor := ⟨3, 2, by decide⟩

def fiveFourths : Factor := ⟨5, 4, by decide⟩

theorem isJitter_fiveFourths : fiveFourths.IsJitter := by
  rw [Factor.IsJitter]
  decide +kernel

def thirdTime (n : ℕ) : Except String ℕ := if n = 3 then .ok n else .error "not yet"

theorem isLeast_thirdTime : IsLeast {n | 1 ≤ n ∧ (thirdTime n).isOk = true} 3 := by
  refine ⟨⟨by decide, rfl⟩, ?_⟩
  rintro n ⟨_, hok⟩
  by_contra hlt
  rw [thirdTime, if_neg (by omega)] at hok
  cases hok

/-- The second delay is 9/2, the limit of 10 is not reached. -/
theorem run_thirdTime :
    ∃ r, (Backoff.geometric 3 (3 : ℚ≥0) 10 threeHalves).run (fun _ => fiveFourths) thirdTime =
        .ok r ∧
      r.calls = 3 ∧ r.result = .ok 3 ∧
      r.steps = [.call 1, .pause (15 / 4), .call 2, .pause (45 / 8), .call 3] := by
  have hrange (i : ℕ) {f : Factor} (hf : f.ratio ≤ 3 / 2) :
      Backoff.cappedDelay 3 10 threeHalves.ratio i * f.ratio < Span.limit := by
    calc Backoff.cappedDelay 3 10 threeHalves.ratio i * f.ratio
        ≤ 10 * (3 / 2) := mul_le_mul' (Backoff.cappedDelay_le 3 10 _ i) hf
      _ < Span.limit := by decide +kernel
  obtain ⟨r, hrun, hfollows, _⟩ : ∃ r, (Backoff.geometric 3 (3 : ℚ≥0) 10 threeHalves).run
      (fun _ => fiveFourths) thirdTime = .ok r ∧ r.Follows thirdTime 4 _ ∧ _ :=
    Backoff.run_exact (by decide) (by decide) (fun _ => isJitter_fiveFourths)
      (fun i _ => hrange i (by decide +kernel)) (fun i _ => hrange i isJitter_fiveFourths.2.le)
  have hcalls : r.calls = 3 := hfollows.succeeding 3 isLeast_thirdTime
  refine ⟨r, hrun, hcalls, ?_, ?_⟩
  · rw [hfollows.result, hcalls]
    rfl
  · rw [hfollows.steps, hcalls]
    decide +kernel

end Sample

end PolicyReach
