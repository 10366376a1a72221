import PowerLease.Mail.Address
import PowerLease.Mail.Base64

/-!
# Headers of a message

A header is written into lines of at most 76 bytes where its blanks allow that: a line ends in front
of a blank if what follows up to the next one would not fit. Blanks are therefore held back until it
is known what comes behind them.

Text with other than plain characters is written as encoded words, whose length is chosen so that
each fits its line.
-/

namespace PowerLease.Mail

/-- How many bytes a line may have. -/
def lineLimit : Nat := 76

/-- A header while it is written. -/
structure HeaderWriter where
  out : List Char := []
  /-- The bytes of the last line. -/
  column : Nat
  /-- The blanks that are held back. -/
  blanks : Nat := 0

namespace HeaderWriter

/-- Writes a text that does not end the line, behind the blanks that are held back. -/
def put (w : HeaderWriter) (s : List Char) : HeaderWriter :=
  { out := w.out ++ List.replicate w.blanks ' ' ++ s, column := w.column + w.blanks + Text.size s }

/-- Holds back one more blank. -/
def blank (w : HeaderWriter) : HeaderWriter := { w with blanks := w.blanks + 1 }

/-- Ends the line. The blanks that are held back belong to the next one. -/
def endLine (w : HeaderWriter) : HeaderWriter :=
  { out := w.out ++ ['\r', '\n'], column := 0, blanks := w.blanks }

/-- Writes what stands between two blanks, on a new line if it does not fit this one. -/
def putWord (w : HeaderWriter) (s : List Char) : HeaderWriter :=
  if s.isEmpty then w
  else if w.blanks ≠ 0 ∧ lineLimit < w.column + w.blanks + Text.size s then w.endLine.put s
  else w.put s

/-- The texts between the blanks of a text. -/
def wordsOf (s : List Char) : List (List Char) :=
  s.foldr
    (fun c ws =>
      if c = ' ' then [] :: ws
      else
        match ws with
        | v :: rest => (c :: v) :: rest
        | [] => [[c]])
    [[]]

/-- Writes a text whose blanks may become line ends. -/
def putFolded (w : HeaderWriter) (s : List Char) : HeaderWriter :=
  match wordsOf s with
  | [] => w
  | first :: rest => rest.foldl (fun w v => w.blank.putWord v) (w.putWord first)

/-- How many of some characters fit a number of bytes. -/
def fitting : Nat → List Char → Nat
  | _, [] => 0
  | room, c :: rest => if c.utf8Size ≤ room then fitting (room - c.utf8Size) rest + 1 else 0

/-- What an encoded word begins with. -/
def wordStart : List Char := "=?utf-8?b?".toList

/-- What an encoded word ends with. -/
def wordEnd : List Char := "?=".toList

/-- How many bytes an encoded word can hold on this line. -/
def room (w : HeaderWriter) : Nat :=
  (lineLimit - (wordStart.length + wordEnd.length + w.column + w.blanks)) / 4 * 3

/-- A new line that begins with a blank. -/
def continueLine (w : HeaderWriter) : HeaderWriter :=
  let w := w.endLine
  if w.blanks = 0 then w.blank else w

/-- Writes encoded words of a text, each of one character at least. -/
def putEncoded (w : HeaderWriter) (s : List Char) : HeaderWriter :=
  match s with
  | [] => w
  | c :: rest =>
    let w := if w.room < c.utf8Size then w.continueLine else w
    let more := fitting (w.room - c.utf8Size) rest
    let held := Base64.encode (Text.bytesOf (c :: rest.take more))
    putEncoded (w.put (wordStart ++ held ++ wordEnd)) (rest.drop more)
termination_by s.length
decreasing_by simp only [List.length_cons, List.length_drop]; omega

/-- The header, with the blanks that are still held back. -/
def finish (w : HeaderWriter) : String := String.ofList (w.put []).out

end HeaderWriter

/-! ## Plain text -/

/-- A character that needs no encoding. -/
def isPlain (c : Char) : Bool :=
  let n := c.toNat
  (1 ≤ n && n ≤ 9) || n == 11 || n == 12 || (14 ≤ n && n ≤ 127)

/-- Whether a character ends a piece of text. -/
def endsPiece (c : Char) : Bool := c == ' ' || c == ','

/-- The next piece of a text, and what is left: at least one character, the characters up to a blank
or comma, and all of those that follow. -/
def nextPiece : List Char → List Char × List Char
  | [] => ([], [])
  | c :: rest =>
    let inner := rest.takeWhile fun c => !endsPiece c
    let behind := rest.dropWhile fun c => !endsPiece c
    (c :: inner ++ behind.takeWhile endsPiece, behind.dropWhile endsPiece)

/-- Pieces of a text. -/
def pieces (s : List Char) : List (List Char) :=
  match s with
  | [] => []
  | c :: rest =>
    (nextPiece (c :: rest)).1 :: pieces (nextPiece (c :: rest)).2
termination_by s.length
decreasing_by
  have drop : ∀ (p : Char → Bool) (l : List Char), (l.dropWhile p).length ≤ l.length :=
    fun p l => (List.dropWhile_suffix p).length_le
  have first := drop endsPiece (rest.dropWhile fun c => !endsPiece c)
  have second := drop (fun c => !endsPiece c) rest
  simp only [nextPiece, List.length_cons]
  omega

/-- Text while it is written: pieces that have to be encoded are gathered, so that neighbours become
one text. -/
structure TextWriter where
  header : HeaderWriter
  gathered : List Char := []

/-- Writes what is gathered. Blanks at its end stay blanks. -/
def TextWriter.flush (t : TextWriter) : HeaderWriter :=
  let trailing := (t.gathered.reverse.takeWhile (· == ' ')).length
  let w := t.header.putEncoded (t.gathered.take (t.gathered.length - trailing))
  { w with blanks := w.blanks + trailing }

/-- Writes a piece. -/
def TextWriter.piece (t : TextWriter) (p : List Char) : TextWriter :=
  if p.all isPlain then { header := t.flush.putFolded p }
  else { t with gathered := t.gathered ++ p }

/-- The value of a header of a name, for a text. -/
def headerText (name value : String) : String :=
  let start : TextWriter := { header := { column := name.length + 2 } }
  ((pieces value.toList).foldl TextWriter.piece start).flush.finish

/-! ## Mailboxes -/

/-- A character of ASCII that can stand in an atom. -/
def isSafe (c : Char) : Bool := Mailbox.inAtom c && c.toNat < 0x80

/-- Writes the name of a mailbox: bare if it is an atom, in quotes if it is atoms with blanks and
dots between them, and else encoded. -/
def HeaderWriter.putName (w : HeaderWriter) (name : List Char) : HeaderWriter :=
  if name.all isSafe then w.put name
  else if name.all fun c => isSafe c || c == ' ' || c == '.' then
    ((w.put ['"']).putFolded name).put ['"']
  else w.putEncoded name

/-- The value of a header of a name, for a mailbox. -/
def headerMailbox (header : String) (m : Mailbox) : String :=
  let w : HeaderWriter := { column := header.length + 2 }
  match m.name with
  | none => (w.put m.addressText.toList).finish
  | some name =>
    let named := (w.putName name.toList).blank
    (named.put (['<'] ++ m.addressText.toList ++ ['>'])).finish

end PowerLease.Mail
