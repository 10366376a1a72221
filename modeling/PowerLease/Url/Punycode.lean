/-!
# Punycode

International labels of domain names in ASCII. The characters of ASCII come first, then a dash, then
digits to the base 36 that say which other characters have to be put where.

The digits are read by a fold, and written character by character in the order of their numbers. A
number is written with its lowest digit first, and each digit has a
threshold: a digit below it ends the number. The thresholds follow a bias that adapts to the numbers
that were read before. Each number says how far to go from the place of the last insertion, through
all places of the text and all characters, to the next one.
-/

namespace PowerLease.Url.Punycode

/-- The value of a digit. -/
def digit? (c : Char) : Option Nat :=
  if 'a' ≤ c && c ≤ 'z' then some (c.toNat - 97)
  else if 'A' ≤ c && c ≤ 'Z' then some (c.toNat - 65)
  else if '0' ≤ c && c ≤ '9' then some (c.toNat - 22)
  else none

/-- The threshold of a digit, which stands `k` places behind the first one. -/
def threshold (k bias : Nat) : Nat :=
  if k ≤ bias then 1 else if bias + 26 ≤ k then 26 else k - bias

/-- Divides by 35 until a number is small, and counts how often, in steps of 36. -/
def shrink (delta k : Nat) : Nat × Nat :=
  if 455 < delta then shrink (delta / 35) (k + 36) else (delta, k)
termination_by delta
decreasing_by omega

/-- The bias after a number was read, when the text has a given length. -/
def adapt (delta length : Nat) (isFirst : Bool) : Nat :=
  let halved := if isFirst then delta / 700 else delta / 2
  let (rest, k) := shrink (halved + halved / length) 0
  k + 36 * rest / (rest + 38)

/-- The largest number that is counted with. -/
def limit : Nat := 1 <<< 32

/-- What is known after some digits. -/
structure State where
  text : List Char
  /-- The character that was inserted last, or the one before the first that can be. -/
  character : Nat := 128
  /-- The place behind the last insertion. -/
  place : Nat := 0
  bias : Nat := 72
  isFirst : Bool := true
  /-- The number that is read, the weight of its next digit, and the place of that digit. -/
  delta : Nat := 0
  weight : Nat := 1
  k : Nat := 36

/-- Inserts what a number says. -/
def State.insert (st : State) : Option State :=
  let length := st.text.length + 1
  let target := st.place + st.delta
  let character := st.character + target / length
  let place := target % length
  if character < 0x110000 ∧ ¬(0xD800 ≤ character ∧ character < 0xE000) then
    some
      { text := st.text.take place ++ Char.ofNat character :: st.text.drop place
        character, place := place + 1, bias := adapt st.delta length st.isFirst, isFirst := false }
  else none

/-- Takes a digit. -/
def State.take (st : State) (c : Char) : Option State := do
  let d ← digit? c
  let delta := st.delta + d * st.weight
  let t := threshold st.k st.bias
  if limit ≤ delta then none
  else if d < t then ({ st with delta } : State).insert
  else
    let weight := st.weight * (36 - t)
    if limit ≤ weight then none else some ({ st with delta, weight, k := st.k + 36 } : State)

/-- The characters of ASCII at the start, and the digits behind them. -/
def split (s : List Char) : List Char × List Char :=
  let behind := s.reverse.takeWhile (· != '-')
  let front := s.take (s.length - behind.length - 1)
  if front.isEmpty then ([], s) else (front, behind.reverse)

/-- Decodes a label. -/
def decode (s : List Char) : Option (List Char) := do
  let (front, digits) := split s
  let st ← digits.foldlM State.take { text := front }
  if st.k = 36 then some st.text else none

/-! ## Encoding -/

/-- The digit of a value. -/
def digit (d : Nat) : Char := if d < 26 then Char.ofNat (97 + d) else Char.ofNat (22 + d)

theorem threshold_pos (k bias : Nat) : 1 ≤ threshold k bias := by
  unfold threshold
  split
  · omega
  · split <;> omega

theorem threshold_le (k bias : Nat) : threshold k bias ≤ 26 := by
  unfold threshold
  split
  · omega
  · split <;> omega

/-- The digits of a number, the first of which stands `k` places behind the first one. -/
def digits (bias k n : Nat) : List Char :=
  let t := threshold k bias
  if n < t then [digit n]
  else digit (t + (n - t) % (36 - t)) :: digits bias (k + 36) ((n - t) / (36 - t))
termination_by n
decreasing_by
  have lower := threshold_pos k bias
  have upper := threshold_le k bias
  have := Nat.div_le_self (n - threshold k bias) (36 - threshold k bias)
  omega

/-- What is known after some insertions. -/
structure Output where
  text : List Char := []
  /-- How many characters of the label are written. -/
  length : Nat
  delta : Nat := 0
  bias : Nat := 72
  isFirst : Bool := true

/-- Passes a character of the label, on the way to the next place of another one. -/
def Output.pass (target : Nat) (out : Output) (c : Char) : Output :=
  if c.toNat < target then { out with delta := out.delta + 1 }
  else if c.toNat = target then
    { text := out.text ++ digits out.bias 36 out.delta
      length := out.length + 1, bias := adapt out.delta (out.length + 1) out.isFirst
      isFirst := false }
  else out

/-- Writes all places of each of some characters, which come in ascending order. -/
def Output.writeAll (label : List Char) (out : Output) (last : Nat) : List Nat → Output
  | [] => out
  | target :: rest =>
    let moved := { out with delta := out.delta + (target - last) * (out.length + 1) }
    let written := label.foldl (Output.pass target) moved
    writeAll label { written with delta := written.delta + 1 } (target + 1) rest

/-- Encodes a label. -/
def encode (label : List Char) : List Char :=
  let front := label.filter fun c => c.toNat < 128
  let others := ((label.filter fun c => 128 ≤ c.toNat).map Char.toNat).mergeSort.eraseDups
  let out := Output.writeAll label { length := front.length } 128 others
  front ++ (if front.isEmpty then [] else ['-']) ++ out.text

end PowerLease.Url.Punycode
