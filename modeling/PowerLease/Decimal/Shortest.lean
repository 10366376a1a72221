/-!
# Shortest decimals

The decimal with the fewest digits that still reads back as a given binary number, and among those
the one that is nearest to it.

A binary number of 64 bits is `m · 2 ^ q`. The reals that round to it form an interval around it,
whose ends belong to it exactly if `m` is even. For one digit, two digits and so on up to seventeen
the two neighbours of the number on the grid of decimals with that many digits are tried, in exact
arithmetic: the first grid with a hit wins.
-/

namespace PowerLease.Decimal

/-- A positive binary number `m · 2 ^ q`, and whether the number below it is half as far away as the
one above. -/
structure Binary where
  m : Nat
  q : Int
  narrow : Bool
deriving DecidableEq, Repr

/-- The number of a word of 64 bits without its sign; nothing for infinities, and zero for zero. -/
def Binary.ofBits (bits : Nat) : Option Binary :=
  let field : Nat := bits >>> 52 % 1 <<< 11
  let rest : Nat := bits % 1 <<< 52
  if field = 2047 then none
  else if field = 0 then some ⟨rest, -1074, false⟩
  else some ⟨1 <<< 52 + rest, (field : Int) - 1075, rest == 0 && 1 < field⟩

/-- A decimal numeral, which is worth `digits · 10 ^ exponent`. -/
structure Numeral where
  digits : Nat
  exponent : Int
deriving DecidableEq, Repr

/-- A fraction that both numbers of a comparison are brought to: `n / d` times a power of ten. -/
structure Scaled where
  /-- Four times the number. -/
  value : Nat
  /-- Four times half the way to the number above. -/
  up : Nat
  /-- Four times half the way to the number below. -/
  down : Nat
  /-- Four times one step of the decimal grid. -/
  step : Nat

/-- A binary number beside the grid of multiples of `10 ^ e`, all of them made whole. -/
def Binary.scale (b : Binary) (e : Int) : Scaled :=
  let two := fun n : Nat => n * Nat.pow 2 b.q.toNat * Nat.pow 10 (-e).toNat
  { value := two (4 * b.m), up := two 2, down := two (if b.narrow then 1 else 2)
    step := 4 * Nat.pow 10 e.toNat * Nat.pow 2 (-b.q).toNat }

/-- How far a grid point is from the number, if it reads back as the number. -/
def Scaled.distance? (s : Scaled) (even : Bool) (k : Nat) : Option Nat :=
  let point := k * s.step
  if s.value ≤ point then
    let far := point - s.value
    if far < s.up || (even && far == s.up) then some far else none
  else
    let far := s.value - point
    if far < s.down || (even && far == s.down) then some far else none

/-- The nearer of the two grid points around the number that read back as it; of two as near the
even one. -/
def Scaled.hit? (s : Scaled) (even : Bool) : Option Nat :=
  let k := s.value / s.step
  match s.distance? even k, s.distance? even (k + 1) with
  | some below, some above =>
    some (if below < above || (below == above && k % 2 == 0) then k else k + 1)
  | some _, none => some k
  | none, some _ => some (k + 1)
  | none, none => none

/-- How many digits the whole part of the number has, or minus the zeros behind its point. -/
def Binary.magnitude (b : Binary) : Int :=
  let s := b.scale 0
  if s.step ≤ s.value then (Nat.toDigits 10 (s.value / s.step)).length
  else
    1 - ((Nat.toDigits 10 ((s.step - 1) / s.value)).length : Int)

/-- Takes zeros off the end of a numeral. -/
def Numeral.strip (d : Numeral) : Nat → Numeral
  | 0 => d
  | fuel + 1 =>
    if d.digits % 10 = 0 ∧ d.digits ≠ 0 then strip ⟨d.digits / 10, d.exponent + 1⟩ fuel else d

/-- The shortest numeral of a positive number. -/
def Binary.shortest (b : Binary) : Numeral :=
  let even := b.m % 2 == 0
  let tries := (List.range 17).filterMap fun (n : Nat) =>
    let e : Int := b.magnitude - (n + 1)
    ((b.scale e).hit? even).map fun k => (⟨k, e⟩ : Numeral)
  match tries with
  | d :: _ => d.strip 20
  | [] => ⟨b.m, 0⟩

/-! ## Texts -/

/-- The text of a numeral: with a point if that takes at most sixteen digits in front of it or five
zeros behind it, else with an exponent. A whole number ends in `.0`. -/
def Numeral.render (d : Numeral) : String :=
  let ds := toString d.digits
  let n := ds.length
  let point : Int := n + d.exponent
  if 0 ≤ d.exponent ∧ point ≤ 16 then
    ds ++ "".pushn '0' d.exponent.toNat ++ ".0"
  else if 0 < point ∧ point ≤ 16 then
    String.ofList (ds.toList.take point.toNat) ++ "." ++ String.ofList (ds.toList.drop point.toNat)
  else if -5 < point ∧ point ≤ 0 then
    "0." ++ "".pushn '0' (-point).toNat ++ ds
  else
    let tail := String.ofList (ds.toList.drop 1)
    let front := String.ofList (ds.toList.take 1) ++ (if n = 1 then "" else "." ++ tail)
    front ++ "e" ++ toString (point - 1)

/-- The text of a number of 64 bits. -/
def render (x : Float) : String :=
  let bits := x.toBits.toNat
  let sign := if 1 <<< 63 ≤ bits then "-" else ""
  match Binary.ofBits bits with
  | none => sign ++ "inf"
  | some b => sign ++ (if b.m = 0 then "0.0" else b.shortest.render)

end PowerLease.Decimal
