import PowerLease.Text.Hidden

/-!
# Quoted text

A text between double quotes, as messages show it: a backslash stands before quotes and backslashes,
line ends and tabs are letters behind a backslash, and hidden characters are numbers in braces.
-/

namespace PowerLease.Text

/-- A number to the base sixteen, in lower case. -/
def hexNumber (n : Nat) : String := String.ofList (Nat.toDigits 16 n)

/-- One character of a quoted text. -/
def quotedChar (c : Char) : String :=
  match c with
  | '\x00' => "\\0"
  | '\t' => "\\t"
  | '\n' => "\\n"
  | '\r' => "\\r"
  | '"' => "\\\""
  | '\\' => "\\\\"
  | c => if isHidden c then "\\u\x7b" ++ hexNumber c.toNat ++ "\x7d" else c.toString

/-- A text between quotes. -/
def quoted (s : String) : String := "\"" ++ String.join (s.toList.map quotedChar) ++ "\""

/-- Texts between quotes, with commas and in braces. -/
def quotedSet (ts : List String) : String := "\x7b" ++ ", ".intercalate (ts.map quoted) ++ "\x7d"

end PowerLease.Text
