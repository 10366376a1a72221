/-!
# JSON documents, as far as they can be read

A document is a tree. Where its text stops making sense, the tree has a *broken* leaf, and every
array and object around that leaf is marked as broken off: what stands before the break is kept. Who
reads the tree in the order of the text meets either a value that it cannot use or the break,
whichever comes first, and can report that one.

Two things are kept as they are written, because whoever passes over them does not mind them: a
number that is too large to be one, and a string whose escapes give no text.
-/

namespace PowerLease.Json

/-- A number as it is written. Digits stand in the order of the text. -/
structure Numeral where
  negative : Bool := false
  whole : List Nat := []
  /-- The digits behind the point; there are none without a point. -/
  fraction : List Nat := []
  /-- The exponent: whether it is negative, and its digits. -/
  exponent : Option (Bool × List Nat) := none
deriving DecidableEq, Repr

/-- How an array or object ends. -/
inductive Ending where
  /-- With its bracket. -/
  | closed
  /-- Before its bracket, where the text stops making sense. -/
  | broken
deriving DecidableEq, Repr

/-- A value of a document. -/
inductive Value where
  | null
  | bool (b : Bool)
  | number (n : Numeral)
  /-- A string; its text, unless its escapes give none. -/
  | string (text : Option String)
  | array (items : List Value) (ending : Ending)
  /-- An object. The keys are values too, but whatever follows a key that is no string is a break. -/
  | object (members : List (Value × Value)) (ending : Ending)
  /-- No value. The text stops making sense here. -/
  | broken
deriving Repr

namespace Value

/-- A string of a text. -/
def text (s : String) : Value := .string (some s)

/-- A number of a natural number. -/
def nat (n : Nat) : Value := .number { whole := (Nat.toDigits 10 n).map fun c => c.toNat - 48 }

/-- A whole array. -/
def list (items : List Value) : Value := .array items .closed

/-- A whole object. -/
def record (members : List (String × Value)) : Value :=
  .object (members.map fun m => (text m.1, m.2)) .closed

/-- A value or null. -/
def optional {α : Type} (write : α → Value) : Option α → Value
  | some a => write a
  | none => null

/-! ## Whole values -/

mutual

/-- Whether the text of a value makes sense to its end. -/
def isWhole : Value → Bool
  | .array items ending => ending == .closed && areWhole items
  | .object members ending => ending == .closed && areWholeMembers members
  | .broken => false
  | _ => true

/-- Whether all values of a list are whole. -/
def areWhole : List Value → Bool
  | [] => true
  | v :: rest => isWhole v && areWhole rest

/-- Whether all keys and values of an object are whole. -/
def areWholeMembers : List (Value × Value) → Bool
  | [] => true
  | (key, v) :: rest => isWhole key && isWhole v && areWholeMembers rest

end

end Value
end PowerLease.Json
