/-!
# Blank characters

The 25 characters that count as white space in Unicode (property `White_Space`), and the two
things the library does with them: cutting them off both ends of a text, and asking whether a
text holds nothing else. `Char.isWhitespace` knows only the ASCII ones and leaves out the
vertical tab and the form feed.
-/

namespace PowerLease.Text

/-- White space as Unicode has it. -/
def isBlank (c : Char) : Bool :=
  let n := c.toNat
  (9 ≤ n && n ≤ 13) || n == 0x20 || n == 0x85 || n == 0xA0 || n == 0x1680
    || (0x2000 ≤ n && n ≤ 0x200A) || n == 0x2028 || n == 0x2029 || n == 0x202F
    || n == 0x205F || n == 0x3000

/-- The text without the blanks at its start. -/
def trimStart (s : List Char) : List Char := s.dropWhile isBlank

/-- The text without the blanks at its end. -/
def trimEnd (s : List Char) : List Char := (s.reverse.dropWhile isBlank).reverse

/-- The text without the blanks at either end. -/
def trimmed (s : List Char) : List Char := trimEnd (trimStart s)

/-- The text without the blanks at either end. -/
def trim (s : String) : String := String.ofList (trimmed s.toList)

/-- A text that holds nothing but blanks, the empty text among them. -/
def isBlankText (s : String) : Bool := s.toList.all isBlank

end PowerLease.Text
