/-!
# Whole numbers below a limit

A whole number written in decimal digits, with a plus sign in front or without, that must not exceed
a limit. The digits are read from the left, and the first problem is the one that is reported: a
character that is no digit may stand behind the digit with which the number grows too large.
-/

namespace PowerLease.Decimal

/-- Why a text is no number within the limit. -/
inductive Fault where
  | empty
  | invalidDigit
  | tooLarge
deriving DecidableEq, Repr

/-- The wording of a fault. -/
def Fault.message : Fault → String
  | .empty => "cannot parse integer from empty string"
  | .invalidDigit => "invalid digit found in string"
  | .tooLarge => "number too large to fit in target type"

/-- Appends a digit to a number. -/
def pushDigit (limit n : Nat) (c : Char) : Except Fault Nat :=
  if '0' ≤ c ∧ c ≤ '9' then
    let more := n * 10 + (c.toNat - '0'.toNat)
    if more ≤ limit then .ok more else .error .tooLarge
  else .error .invalidDigit

/-- Reads a number up to a limit. -/
def readUpTo (limit : Nat) (text : List Char) : Except Fault Nat :=
  match text with
  | [] => .error .empty
  | ['+'] => .error .invalidDigit
  | '+' :: digits => digits.foldlM (pushDigit limit) 0
  | digits => digits.foldlM (pushDigit limit) 0

end PowerLease.Decimal
