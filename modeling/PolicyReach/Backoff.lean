import PolicyReach.Span

/-!
# Retrying with growing pauses

A failing operation is tried again after a pause. The nominal pause grows up to a limit; each actual
pause is the nominal one times a jitter.
-/
namespace PolicyReach

/-- Lengths of time that have a product with factors, which may be rounded or out of range. -/
class Scalable (δ : Type) where
  scale : δ → Factor → Except ScaleError δ

instance : Scalable Span := ⟨Span.scale⟩

structure Backoff (δ : Type := Span) where
  /-- Retries after the first attempt. -/
  maxRetries : UInt32
  initialDelay : δ
  maxDelay : δ
  /-- The nominal pause that follows one, but for the limit. -/
  grow : δ → Except ScaleError δ

inductive RetryFault where
  | delay (e : ScaleError)
  /-- The counter of attempts has 32 bits. -/
  | tooManyAttempts
  deriving DecidableEq

inductive RetryStep (δ : Type) where
  | call (attempt : Nat)
  | pause (length : δ)
  deriving DecidableEq

/-- How a retried operation ended, and what was done until then. -/
structure Retried (ε α : Type) (δ : Type := Span) where
  result : Except ε α
  steps : List (RetryStep δ)

namespace RetryFault

def message : RetryFault → String
  | .delay e => e.message
  | .tooManyAttempts => "attempt to add with overflow"

end RetryFault

namespace RetryStep

variable {δ : Type}

def isCall : RetryStep δ → Bool
  | .call _ => true
  | .pause _ => false

def pause? : RetryStep δ → Option δ
  | .call _ => none
  | .pause length => some length

end RetryStep

namespace Retried

variable {ε α δ : Type}

def calls (r : Retried ε α δ) : Nat := r.steps.countP RetryStep.isCall

def pauses (r : Retried ε α δ) : List δ := r.steps.filterMap RetryStep.pause?

end Retried

namespace Backoff

variable {ε α δ : Type}

def twice : Factor := ⟨2, 1, by decide⟩

/-- Each pause is a multiple of the one before. -/
def geometric [Scalable δ] (maxRetries : UInt32) (initialDelay maxDelay : δ) (f : Factor) :
    Backoff δ :=
  ⟨maxRetries, initialDelay, maxDelay, fun delay => Scalable.scale delay f⟩

def standard : Backoff := geometric 2 (Span.ofMillis 500) (Span.ofMillis 10000) twice

def doubling (maxRetries : UInt32) (initialDelay : Span) : Backoff :=
  { standard with maxRetries, initialDelay }

def firstDelay [Min δ] (b : Backoff δ) : δ := min b.initialDelay b.maxDelay

def nextDelay [Min δ] (b : Backoff δ) (delay : δ) : Except ScaleError δ :=
  (b.grow delay).map (min · b.maxDelay)

/-- The nominal pause after the attempt with the given number, which is at least one. -/
def nominal [Min δ] (b : Backoff δ) : Nat → Except ScaleError δ
  | 0 | 1 => .ok b.firstDelay
  | n + 2 => do b.nextDelay (← b.nominal (n + 1))

def scaled [Scalable δ] (delay : δ) (f : Factor) : Except RetryFault δ :=
  (Scalable.scale delay f).mapError .delay

/-- Goes on after `made` attempts, the next pause being nominally `delay`. The steps made so far are
given with the last one first. -/
def runFrom [Min δ] [Scalable δ] (b : Backoff δ) (jitter : Nat → Factor) (op : Nat → Except ε α)
    (made : Nat) (delay : δ) (steps : List (RetryStep δ)) :
    Except RetryFault (Retried ε α δ) :=
  let attempt := made + 1
  if UInt32.size ≤ attempt then .error .tooManyAttempts
  else
    let steps := .call attempt :: steps
    match op attempt with
    | .ok a => .ok ⟨.ok a, steps.reverse⟩
    | .error e =>
      if b.maxRetries.toNat < attempt then .ok ⟨.error e, steps.reverse⟩
      else do
        let pause ← scaled delay (jitter attempt)
        let delay ← (b.nextDelay delay).mapError .delay
        runFrom b jitter op attempt delay (.pause pause :: steps)
termination_by b.maxRetries.toNat + 1 - made

def run [Min δ] [Scalable δ] (b : Backoff δ) (jitter : Nat → Factor) (op : Nat → Except ε α) :
    Except RetryFault (Retried ε α δ) :=
  runFrom b jitter op 0 b.firstDelay []

end Backoff

end PolicyReach
