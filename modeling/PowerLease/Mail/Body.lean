import PowerLease.Mail.Base64
import PowerLease.Text.Utf8

/-!
# The body of a message

A body of ASCII with short lines is written as it is. Another one is written in quoted-printable
form if not too many of its bytes need that, and else in base 64. Which of them is chosen on the text
as it is given; only then its line ends are brought into the form that messages have.
-/

namespace PowerLease.Mail

/-- How a body is written. -/
inductive Encoding where
  | sevenBit
  | quotedPrintable
  | base64
deriving DecidableEq, Repr

/-- The name of an encoding. -/
def Encoding.name : Encoding → String
  | .sevenBit => "7bit"
  | .quotedPrintable => "quoted-printable"
  | .base64 => "base64"

/-- How many bytes a line may have to be written as it is, and at most in the other forms. -/
def bodyLineLimit : Nat := 76

/-! ## Choice -/

/-- Whether all lines are short. A line is counted from the line end in front of it, and `n` bytes
of the first of them are read. -/
def hasShortLines (n : Nat) : List UInt8 → Bool
  | [] => n < bodyLineLimit
  | b :: rest =>
    if b = 10 then n < bodyLineLimit && hasShortLines 1 rest else hasShortLines (n + 1) rest

/-- A byte that stands for itself in quoted-printable form. -/
def isPrintable (b : UInt8) : Bool := b == 9 || (32 ≤ b.toNat && b.toNat ≤ 126)

/-- How a body is written. -/
def Encoding.choose (body : List UInt8) : Encoding :=
  if (body.all fun b => b.toNat < 128) && hasShortLines 0 body then .sevenBit
  else if (body.countP fun b => !isPrintable b) ≤ body.length / 3 then .quotedPrintable
  else .base64

/-! ## Line ends -/

/-- Text in which each line end has a carriage return in front; the last character is known. -/
def normalizeFrom (last : Option Char) : List Char → List Char
  | [] => []
  | c :: rest =>
    if c = '\n' ∧ last ≠ some '\r' then '\r' :: '\n' :: normalizeFrom (some c) rest
    else c :: normalizeFrom (some c) rest

/-- Text in which each line end has a carriage return in front. -/
def normalizeLines (s : List Char) : List Char := normalizeFrom none s

/-! ## Quoted-printable form -/

/-- A body in quoted-printable form while it is written. Lists are in reverse. -/
structure QuotedWriter where
  /-- The lines that are over, and the line ends. -/
  done : List Char := []
  /-- The units of the last line: characters, or equals signs with two digits. -/
  line : List (List Char) := []
  /-- The bytes of the last line. -/
  column : Nat := 0

namespace QuotedWriter

/-- What stands at the end of a line that goes on. -/
def softBreak : List Char := ['\n', '\r', '=']

/-- The characters of some units, in reverse. -/
def flat (units : List (List Char)) : List Char := units.flatMap List.reverse

/-- Appends a unit. If it does not fit, the line goes on behind a break; where even the break does
not fit, the last unit moves to the next line. -/
def append (w : QuotedWriter) (unit : List Char) : QuotedWriter :=
  if w.column + unit.length ≤ bodyLineLimit then
    { w with line := unit :: w.line, column := w.column + unit.length }
  else if w.column = bodyLineLimit then
    match w.line with
    | last :: before =>
      { done := softBreak ++ flat before ++ w.done, line := [unit, last]
        column := last.length + unit.length }
    | [] => { w with line := [unit], column := unit.length }
  else
    { done := softBreak ++ flat w.line ++ w.done, line := [unit], column := unit.length }

/-- A byte as an equals sign and two digits. -/
def escape (b : UInt8) : List Char :=
  ['=', Text.hexDigitUpper (b.toNat / 16), Text.hexDigitUpper (b.toNat % 16)]

/-- The unit of a byte. -/
def unitOf (b : UInt8) : List Char :=
  if isPrintable b && b != 61 then [Char.ofNat b.toNat] else escape b

/-- Escapes a blank at the end of the line, which would get lost. -/
def closeBlank (w : QuotedWriter) : QuotedWriter :=
  match w.line with
  | [' '] :: before => { w with line := before, column := w.column - 1 }.append (escape 32)
  | ['\t'] :: before => { w with line := before, column := w.column - 1 }.append (escape 9)
  | _ => w

/-- Ends the line. -/
def endLine (w : QuotedWriter) : QuotedWriter :=
  let w := w.closeBlank
  { done := '\n' :: '\r' :: (flat w.line ++ w.done) }

/-- Appends bytes. A carriage return ends a line only in front of a line feed. -/
def putAll (w : QuotedWriter) : List UInt8 → QuotedWriter
  | 13 :: 10 :: rest => w.endLine.putAll rest
  | b :: rest => (w.append (unitOf b)).putAll rest
  | [] => w

/-- The text that is written. -/
def finish (w : QuotedWriter) : List Char :=
  let w := w.closeBlank
  (flat w.line ++ w.done).reverse

end QuotedWriter

/-! ## Base 64 -/

/-- Text in lines of a length. -/
def inLines (length : Nat) (s : List Char) : List Char :=
  if s.length ≤ length ∨ length = 0 then s
  else s.take length ++ '\r' :: '\n' :: inLines length (s.drop length)
termination_by s.length
decreasing_by simp only [List.length_drop]; omega

/-- A body as it is written. -/
def Encoding.write (e : Encoding) (body : List Char) : List Char :=
  let normal := normalizeLines body
  match e with
  | .sevenBit => normal
  | .quotedPrintable => (({} : QuotedWriter).putAll (Text.bytesOf normal)).finish
  | .base64 => inLines bodyLineLimit (Base64.encode (Text.bytesOf normal))

end PowerLease.Mail
