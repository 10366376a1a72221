import PowerLease.Decimal.Shortest
import PowerLease.Json.Value

/-!
# Numbers of a document

What a written number stands for. Without point and exponent it is a whole number, if that fits 64
bits, signed ones for a negative number and unsigned ones for another. Every other number is a
binary number of 64 bits; minus zero is one too.

The binary number is made from the first digits that fit 64 bits and a power of ten, by one product
or quotient of binary numbers. It is not always the binary number that is nearest to the decimal.
Numbers beyond the largest binary number are out of range.
-/

namespace PowerLease.Json

/-- What a written number stands for. -/
inductive Quantity where
  | integer (n : Int)
  | binary (x : Float)
  | outOfRange

/-- Digits that are taken into a significand of 64 bits, and the power of ten behind it. -/
structure Significand where
  value : Nat
  exponent : Int
  /-- Whether a digit did not fit. -/
  full : Bool

/-- Takes in digits of the whole part. From the first one that does not fit on, each of them only
counts for the power of ten. -/
def Significand.takeWhole (s : Significand) (d : Nat) : Significand :=
  if s.full || 1 <<< 64 ≤ s.value * 10 + d then { s with exponent := s.exponent + 1, full := true }
  else { s with value := s.value * 10 + d }

/-- Takes in digits behind the point. The first one that does not fit and all behind it are left
out. -/
def Significand.takeFraction (s : Significand) (d : Nat) : Significand :=
  if s.full || 1 <<< 64 ≤ s.value * 10 + d then { s with full := true }
  else { s with value := s.value * 10 + d, exponent := s.exponent - 1 }

/-- The significand of a number, without its exponent. -/
def Numeral.significand (n : Numeral) : Significand :=
  let whole := n.whole.foldl Significand.takeWhole ⟨0, 0, false⟩
  n.fraction.foldl Significand.takeFraction { whole with full := false }

/-- The largest power of ten that is a binary number. -/
def largestPower : Nat := 308

/-- A power of ten as a binary number. -/
def powerOfTen (n : Nat) : Float := Float.ofScientific 1 false n

/-- A binary number times a power of ten. Small powers are divided by in steps. -/
def scaleDown (x : Float) (n : Nat) : Float :=
  if n ≤ largestPower then x / powerOfTen n
  else if x == 0.0 then x
  else scaleDown (x / powerOfTen largestPower) (n - largestPower)
termination_by n
decreasing_by simp only [largestPower]; omega

/-- The largest value of an exponent that is counted. -/
def largestExponent : Nat := 1 <<< 31 - 1

/-- A number as its sign says. -/
def signed (negative : Bool) (x : Float) : Quantity := .binary (if negative then -x else x)

/-- A significand times a power of ten. -/
def ofParts (negative : Bool) (value : Nat) (exponent : Int) : Quantity :=
  let x := Float.ofNat value
  if exponent < 0 then signed negative (scaleDown x (-exponent).toNat)
  else if exponent.toNat ≤ largestPower then
    let product := x * powerOfTen exponent.toNat
    if product.isInf then .outOfRange else signed negative product
  else if value = 0 then signed negative x
  else .outOfRange

/-- What a number stands for. -/
def Numeral.quantity (n : Numeral) : Quantity :=
  let magnitude := n.whole.foldl (fun (m d : Nat) => m * 10 + d) 0
  let s := n.significand
  match n.exponent with
  | none =>
    if !n.fraction.isEmpty then ofParts n.negative s.value s.exponent
    else if n.negative then
      if 0 < magnitude ∧ magnitude ≤ 1 <<< 63 then .integer (-magnitude)
      else ofParts true s.value s.exponent
    else if magnitude < 1 <<< 64 then .integer magnitude
    else ofParts false s.value s.exponent
  | some (down, digits) =>
    let e := digits.foldl (fun (m d : Nat) => m * 10 + d) 0
    if largestExponent < e then
      if s.value ≠ 0 ∧ !down then .outOfRange else signed n.negative 0.0
    else
      let total : Int := if down then s.exponent - e else s.exponent + e
      ofParts n.negative s.value total

end PowerLease.Json
