/-!
# Bytes of a text

A text as the bytes of its UTF-8 form, one character after another, and the words for bytes that
several formats share.
-/

namespace PowerLease.Text

/-- The bytes of some characters. -/
def bytesOf (s : List Char) : List UInt8 := s.flatMap String.utf8EncodeChar

/-- The bytes of a text. -/
def bytes (s : String) : List UInt8 := bytesOf s.toList

/-- How many bytes some characters take. -/
def size (s : List Char) : Nat := s.foldl (fun n c => n + c.utf8Size) 0

/-- A digit below 16 in lower case. -/
def hexDigit (n : Nat) : Char := if n < 10 then Char.ofNat (48 + n) else Char.ofNat (87 + n)

/-- A digit below 16 in upper case. -/
def hexDigitUpper (n : Nat) : Char := if n < 10 then Char.ofNat (48 + n) else Char.ofNat (55 + n)

/-- Bytes as pairs of lower-case digits. -/
def hex (bytes : List UInt8) : String :=
  String.ofList (bytes.flatMap fun b => [hexDigit (b.toNat / 16), hexDigit (b.toNat % 16)])

end PowerLease.Text
