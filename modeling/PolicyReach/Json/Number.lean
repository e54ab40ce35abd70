import PolicyReach.Json.Value
import PolicyReach.Text.Pieces

/-!
# Numbers in JSON text

A number that is not an integer is read as a significand of 64 bits and an exponent of ten. Digits
for which the significand has no room are left out, those before the point being made up for by the
exponent. What the two denote as a double is found in double arithmetic, not exactly, and a number
for which that arithmetic overflows denotes nothing.
-/
namespace PolicyReach.Json

/-- Appends digits to a significand until one of them has no room; the rest is left. -/
def pushDigits (significand : Nat) : List Char → Nat × List Char
  | [] => (significand, [])
  | d :: rest =>
    let next := significand * 10 + Text.decimalValue [d]
    if next < UInt64.size then pushDigits next rest else (significand, d :: rest)

/-- The double nearest to a power of ten. -/
def tenTo (e : Nat) : Float := .ofScientific 1 false e

/-- Divides by a power of ten, in several steps where the power is greater than every double. -/
def shrink (x : Float) (e : Nat) : Float :=
  if e ≤ 308 then x / tenTo e
  else if x == 0 then x
  else shrink (x / tenTo 308) (e - 308)
termination_by e

/-- The double that `significand * 10 ^ scale` is taken for. -/
def magnitude? (significand : Nat) (scale : Int) : Option Float :=
  let x : Float := .ofNat significand
  match scale with
  | .negSucc e => some (shrink x (e + 1))
  | .ofNat e =>
    if significand = 0 then some x
    else if e ≤ 308 then
      let y := x * tenTo e
      if y.isInf then none else some y
    else none

/-- A number with a fraction, an exponent or too many digits. -/
def ofDecimal (negative : Bool) (significand : Nat) (scale : Int) : Json :=
  if (magnitude? significand scale).isSome then .decimal negative significand scale
  else .unreadable

/-- The number with the given digits before and after the point and exponent. -/
def ofNumber (negative : Bool) (whole fraction : List Char) (exponent : Option Int) : Json :=
  let (significand, left) := pushDigits 0 whole
  if fraction.isEmpty && exponent.isNone then
    if !left.isEmpty then ofDecimal negative significand left.length
    else if !negative then .int significand
    else if significand ≠ 0 && 2 * significand ≤ UInt64.size then .int (-significand)
    else .decimal true significand 0
  else
    let (significand, unused) := pushDigits significand fraction
    let places : Int := (fraction.length - unused.length : Nat)
    ofDecimal negative significand (left.length - places + exponent.getD 0)

/-- The double that a number denotes. -/
def asFloat? : Json → Option Float
  | .int i => some (.ofInt i)
  | .decimal negative significand scale =>
    (magnitude? significand scale).map fun x => if negative then -x else x
  | _ => none

end PolicyReach.Json
