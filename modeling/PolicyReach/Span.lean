/-!
# Spans of time

A span is a number of nanoseconds.
-/
namespace PolicyReach

abbrev Span := Nat

/-- A rational factor, positive or not. -/
structure Factor where
  numerator : Int
  denominator : Nat
  pos : 0 < denominator

/-- The exact value of a finite double. -/
def Factor.ofFloat (x : Float) : Factor :=
  let bits := x.toBits.toNat
  let exponent : Nat := bits >>> 52 % 0x800
  let fraction : Nat := bits % (1 <<< 52)
  let mantissa : Nat := if exponent = 0 then fraction else fraction + 1 <<< 52
  let power : Nat := max exponent 1
  let signed : Int := if bits >>> 63 = 1 then -(mantissa : Int) else mantissa
  ⟨signed * (1 <<< (power - 1075) : Nat), 1 <<< (1075 - power), by
    rw [Nat.one_shiftLeft]
    exact Nat.two_pow_pos _⟩

/-- Why a span cannot be multiplied by a factor. -/
inductive ScaleError where
  | negative
  | tooLong
  deriving DecidableEq

namespace Span

def perMilli : Nat := 1000000

def perSecond : Nat := 1000000000

def ofMillis (ms : Nat) : Span := ms * perMilli

def toMillis (s : Span) : Nat := s / perMilli

/-- Whole milliseconds that last at least as long. -/
def ceilMillis (s : Span) : Nat := (s + (perMilli - 1)) / perMilli

/-- Thirty years of 365 days, in milliseconds. -/
def longestSleep : Nat := 30 * 365 * 24 * 60 * 60 * 1000

/-- The milliseconds after which a sleep of this length ends. -/
def sleepMillis (s : Span) : Nat := min s.ceilMillis longestSleep

/-- Spans end below this one: the seconds have 64 bits. -/
def limit : Nat := UInt64.size * perSecond

/-- The quotient rounded to the nearest integer, a half to the even neighbour. -/
def roundDiv (n d : Nat) : Nat :=
  let q := n / d
  let r := n % d
  if 2 * r < d then q
  else if d < 2 * r then q + 1
  else if q % 2 = 0 then q else q + 1

def scale (s : Span) (f : Factor) : Except ScaleError Span :=
  match f.numerator with
  | .negSucc _ => if s = 0 then .ok 0 else .error .negative
  | .ofNat n =>
    let scaled := roundDiv (s * n) f.denominator
    if scaled < limit then .ok scaled else .error .tooLong

/-! ### Seconds in double arithmetic -/

/-- About the length in seconds: the whole ones and the part of one are rounded apart. -/
def seconds (s : Span) : Float :=
  .ofNat (s / perSecond) + .ofNat (s % perSecond) / .ofNat perSecond

/-- The span nearest to so many seconds. -/
def ofSeconds (x : Float) : Except ScaleError Span :=
  if x < 0 then .error .negative
  else if x < .ofScientific UInt64.size false 0 then scale perSecond (.ofFloat x)
  else .error .tooLong

/-- The span times a double, the product being taken of doubles. -/
def times (s : Span) (x : Float) : Except ScaleError Span := ofSeconds (s.seconds * x)

/-! ### Text -/

/-- A whole number and a fraction of `places` digits, without zeros at its end. -/
def fractional (whole fraction places : Nat) : String :=
  let digits := (toString fraction).toList
  let digits := List.replicate (places - digits.length) '0' ++ digits
  match (digits.reverse.dropWhile (· == '0')).reverse with
  | [] => toString whole
  | ds => toString whole ++ "." ++ String.ofList ds

/-- The span in the largest unit of which there is at least one. -/
def text (s : Span) : String :=
  if perSecond ≤ s then fractional (s / perSecond) (s % perSecond) 9 ++ "s"
  else if perMilli ≤ s then fractional (s / perMilli) (s % perMilli) 6 ++ "ms"
  else if 1000 ≤ s then fractional (s / 1000) (s % 1000) 3 ++ "µs"
  else toString s ++ "ns"

end Span

namespace ScaleError

def message : ScaleError → String
  | .negative => "cannot convert float seconds to Duration: value is negative"
  | .tooLong => "cannot convert float seconds to Duration: value is either too big or NaN"

end ScaleError

end PolicyReach
