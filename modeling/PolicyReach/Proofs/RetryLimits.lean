import Mathlib
import PolicyReach.Proofs.ProbeCommand
import PolicyReach.Proofs.Retrying

/-!
# The limits of a probe's retries

The delays of a probe double until they last ten seconds. All arithmetic with them stays in range,
but the counter of attempts has as many bits as the number of retries that it is compared with.
-/
namespace PolicyReach

/-! ### Rounded products -/

namespace Span

theorem roundDiv_le {n d k : ℕ} (hd : 0 < d) (h : n ≤ k * d) : roundDiv n d ≤ k := by
  have hq : n / d ≤ k := Nat.div_le_of_le_mul (by rwa [Nat.mul_comm])
  have hdiv := Nat.div_add_mod n d
  rw [roundDiv]
  rcases hq.lt_or_eq with hlt | heq
  · split_ifs <;> omega
  · -- Nothing is left to be rounded.
    have hmod : n % d = 0 := by
      rw [heq, Nat.mul_comm] at hdiv
      omega
    rw [hmod, if_pos (by omega), heq]

/-- A bound of the exact product bounds the rounded one. -/
theorem scale_le {s : Span} {f : Factor} {k : ℕ} (hf : 0 ≤ f.numerator)
    (h : (s : ℚ≥0) * f.ratio ≤ k) (hk : k < limit) : ∃ t, s.scale f = .ok t ∧ t ≤ k := by
  obtain ⟨n, hn⟩ := Int.eq_ofNat_of_zero_le hf
  have hle : roundDiv (s * n) f.denominator ≤ k := by
    refine roundDiv_le f.pos ?_
    rw [Factor.ratio, hn, Int.toNat_natCast, mul_div_assoc',
      div_le_iff₀ (by exact_mod_cast f.pos)] at h
    exact_mod_cast h
  refine ⟨_, ?_, hle⟩
  rw [scale, hn]
  exact if_pos (hle.trans_lt hk)

end Span

namespace Backoff

variable {ε α : Type}

theorem ratio_twice : twice.ratio = 2 := by decide +kernel

/-- The product of a delay is taken before it is cut short, and it is twenty seconds at most. -/
theorem grow_doubling (maxRetries : UInt32) (initialDelay : Span) {d : Span}
    (hd : d ≤ .ofMillis 10000) :
    ∃ t, (doubling maxRetries initialDelay).grow d = .ok t ∧ t ≤ .ofMillis 20000 := by
  have htwice : 0 ≤ twice.numerator := by decide
  have hrange : Span.ofMillis 20000 < Span.limit := by decide
  refine Span.scale_le htwice ?_ hrange
  rw [ratio_twice]
  calc (d : ℚ≥0) * 2 ≤ (Span.ofMillis 10000 : ℕ) * 2 := by gcongr
    _ = (Span.ofMillis 20000 : ℕ) := by norm_num [Span.ofMillis, Span.perMilli]

theorem nominal_doubling (maxRetries : UInt32) (initialDelay : Span) (n : ℕ) :
    ∃ d, (doubling maxRetries initialDelay).nominal n = .ok d ∧ d ≤ .ofMillis 10000 := by
  have hfirst : (doubling maxRetries initialDelay).firstDelay ≤ .ofMillis 10000 :=
    Nat.min_le_right _ _
  induction n with
  | zero => exact ⟨_, rfl, hfirst⟩
  | succ n ih =>
    cases n with
    | zero => exact ⟨_, rfl, hfirst⟩
    | succ n =>
      obtain ⟨d, hnominal, hd⟩ := ih
      obtain ⟨t, hgrow, _⟩ := grow_doubling maxRetries initialDelay hd
      refine ⟨min t (.ofMillis 10000), ?_, Nat.min_le_right _ _⟩
      rw [nominal, hnominal]
      exact congrArg (Except.map (min · _)) hgrow

/-- A jittered delay is fifteen seconds at most. -/
theorem scaled_jitter {d : Span} {f : Factor} (hf : f.IsJitter) (hd : d ≤ .ofMillis 10000) :
    ∃ p, Scalable.scale d f = .ok p ∧ p ≤ .ofMillis 15000 := by
  refine Span.scale_le hf.numerator_nonneg ?_ (by decide)
  calc (d : ℚ≥0) * f.ratio ≤ (Span.ofMillis 10000 : ℕ) * (3 / 2) := by
        gcongr
        exact hf.2.le
    _ = (Span.ofMillis 15000 : ℕ) := by norm_num [Span.ofMillis, Span.perMilli]

variable {jitter : ℕ → Factor}

/-- Delays that double have products in range for as many attempts as there may be. -/
theorem paces_doubling (hjitter : ∀ n, (jitter n).IsJitter) (maxRetries : UInt32)
    (initialDelay : Span) :
    ∃ delay pause, (∀ i, pause i ≤ Span.ofMillis 15000) ∧
      ∀ n, (doubling maxRetries initialDelay).Paces jitter delay pause n := by
  choose delay hnominal hdelay using fun i =>
    nominal_doubling maxRetries initialDelay (i + 1)
  choose pause hscaled hpause using fun i => scaled_jitter (hjitter (i + 1)) (hdelay i)
  exact ⟨delay, pause, hpause, paces_of_nominal hnominal hscaled⟩

end Backoff

namespace Program

variable {ε α : Type} {jitter : ℕ → Factor}

/-- Whatever is asked for on the command line, delays and pauses stay in range. A run that does not
need more attempts than the counter has numbers comes to its end, and every other run fails. -/
theorem retries_end_or_overflow (o : ProbeOptions) (hjitter : ∀ n, (jitter n).IsJitter)
    (op : ℕ → Except ε α) :
    (∀ n, ∃ delay product pause, (liveConfig o).backoff.nominal n = .ok delay ∧
      (liveConfig o).backoff.grow delay = .ok product ∧
      Backoff.scaled delay (jitter n) = .ok pause ∧ pause ≤ .ofMillis 15000) ∧
    ((liveConfig o).backoff.Overflows op →
      (liveConfig o).backoff.run jitter op = .error .tooManyAttempts) ∧
    (¬ (liveConfig o).backoff.Overflows op →
      ∃ r, (liveConfig o).backoff.run jitter op = .ok r ∧ r.calls ≤ o.retries.toNat + 1 ∧
        ∀ pause ∈ r.pauses, pause ≤ .ofMillis 15000) := by
  obtain ⟨delay, pause, hpause, hpaces⟩ :=
    Backoff.paces_doubling hjitter o.retries (.ofMillis o.retryBackoffMs)
  refine ⟨?_, Backoff.run_overflows (hpaces _), ?_⟩
  · intro n
    obtain ⟨d, hnominal, hd⟩ :=
      Backoff.nominal_doubling o.retries (.ofMillis o.retryBackoffMs) n
    obtain ⟨t, hgrow, _⟩ := Backoff.grow_doubling o.retries (.ofMillis o.retryBackoffMs) hd
    obtain ⟨p, hscaled, hp⟩ := Backoff.scaled_jitter (hjitter n) hd
    refine ⟨d, t, p, hnominal, hgrow, ?_, hp⟩
    rw [Backoff.scaled, hscaled]
    rfl
  · intro hall
    obtain ⟨r, hrun, hfollows⟩ := Backoff.run_follows (hpaces _) hall
    refine ⟨r, hrun, hfollows.calls_le, ?_⟩
    rw [hfollows.pauses_eq]
    rintro _ hmem
    obtain ⟨i, _, rfl⟩ := List.mem_map.mp hmem
    exact hpause i

end Program

namespace Sample

open Program

def failures (n : ℕ) : Except String String := .error ("failure " ++ toString n)

/-- The longest backoff that there is a number for. -/
def patientOptions : ProbeOptions :=
  { portOptions with retries := 1, retryBackoffMs := UInt64.size - 1 }

theorem run_patient :
    fiveFourths.IsJitter ∧ ¬ (liveConfig patientOptions).backoff.Overflows failures ∧
    (∃ delay product pause, (liveConfig patientOptions).backoff.nominal 1 = .ok delay ∧
      (liveConfig patientOptions).backoff.grow delay = .ok product ∧
      Backoff.scaled delay fiveFourths = .ok pause ∧ pause ≤ .ofMillis 15000) ∧
    ∃ r, (liveConfig patientOptions).backoff.run (fun _ => fiveFourths) failures = .ok r ∧
      r.calls ≤ 2 ∧ ∀ pause ∈ r.pauses, pause ≤ .ofMillis 15000 := by
  have hfew : ¬ (liveConfig patientOptions).backoff.Overflows failures := fun h =>
    absurd h.1 (by decide)
  obtain ⟨hdelays, _, hend⟩ := retries_end_or_overflow patientOptions
    (fun _ => isJitter_fiveFourths) failures
  exact ⟨isJitter_fiveFourths, hfew, hdelays 1, hend hfew⟩

def endlessWords : List String :=
  ["probe", "--resources", "r.json", "--port=80,81", "--retries", "4294967295",
    "--retry-backoff-ms", "0", "--ignore-loopback"]

def endlessOptions : ProbeOptions :=
  { portOptions with retries := 4294967295, retryBackoffMs := 0 }

/-- The largest number of retries is accepted, although no counter can exceed it. -/
theorem overflows_endless :
    CommandLine.parse endlessWords =
      .ok ⟨"netpol_verifier=info,warn", .plain, .probe endlessOptions⟩ ∧
    (liveConfig endlessOptions).backoff.run (fun _ => fiveFourths) failures =
      .error .tooManyAttempts := by
  obtain ⟨_, _, _, hpaces⟩ := Backoff.paces_doubling (fun _ => isJitter_fiveFourths)
    endlessOptions.retries (.ofMillis endlessOptions.retryBackoffMs)
  have hparse : CommandLine.parse endlessWords =
      .ok ⟨"netpol_verifier=info,warn", .plain, .probe endlessOptions⟩ := by decide +kernel
  exact ⟨hparse, Backoff.run_overflows (hpaces _) ⟨rfl, fun _ _ _ => rfl⟩⟩

end Sample

end PolicyReach
