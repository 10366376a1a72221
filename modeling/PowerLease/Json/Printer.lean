import PowerLease.Json.Value
import PowerLease.Text.Utf8

/-!
# Writing JSON

The shortest text of a value: no blanks, and of the characters of a string only those escaped that
have to be. A value that is broken has no text; its broken parts are written as `null`.
-/

namespace PowerLease.Json

/-- A character of a string. -/
def escapeChar (c : Char) : List Char :=
  match c with
  | '"' => ['\\', '"']
  | '\\' => ['\\', '\\']
  | '\x08' => ['\\', 'b']
  | '\x0c' => ['\\', 'f']
  | '\n' => ['\\', 'n']
  | '\r' => ['\\', 'r']
  | '\t' => ['\\', 't']
  | c =>
    if c.toNat < 0x20 then
      ['\\', 'u', '0', '0', Text.hexDigit (c.toNat / 16), Text.hexDigit (c.toNat % 16)]
    else [c]

/-- A string with its quotes. -/
def quote (s : List Char) : List Char := '"' :: (s.flatMap escapeChar ++ ['"'])

/-- Digits as text. -/
def digits (ds : List Nat) : List Char := ds.map fun d => Char.ofNat (48 + d)

/-- A number as it was written. -/
def Numeral.letters (n : Numeral) : List Char :=
  (if n.negative then ['-'] else []) ++ digits n.whole
    ++ (if n.fraction.isEmpty then [] else '.' :: digits n.fraction)
    ++ match n.exponent with
      | none => []
      | some (negative, ds) => 'e' :: ((if negative then ['-'] else []) ++ digits ds)

/-- Texts with commas between them. -/
def commas : List (List Char) → List Char
  | [] => []
  | [t] => t
  | t :: rest => t ++ ',' :: commas rest

namespace Value

mutual

/-- The text of a value. -/
def letters : Value → List Char
  | .null | .broken => "null".toList
  | .bool b => (toString b).toList
  | .number n => n.letters
  | .string text => quote (text.getD "").toList
  | .array items _ => '[' :: (commas (lettersOf items) ++ [']'])
  | .object members _ => '\x7b' :: (commas (lettersOfMembers members) ++ ['\x7d'])

/-- The texts of some values. -/
def lettersOf : List Value → List (List Char)
  | [] => []
  | v :: rest => letters v :: lettersOf rest

/-- The texts of some members. -/
def lettersOfMembers : List (Value × Value) → List (List Char)
  | [] => []
  | (key, v) :: rest => (letters key ++ ':' :: letters v) :: lettersOfMembers rest

end

/-- The text of a value. -/
def render (v : Value) : String := String.ofList v.letters

end Value
end PowerLease.Json
