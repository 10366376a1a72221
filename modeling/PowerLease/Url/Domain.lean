import PowerLease.Text.Bounds
import PowerLease.Url.DomainTable
import PowerLease.Url.Punycode

/-!
# Domain names

Which texts are domain names in a URL, international ones among them. A name is brought to one form:
letters of ASCII become small, some characters are left out, and those that only look different from
text in ASCII are replaced by it. What no name may hold refuses the whole name. Then each label is
judged: a label that begins with `xn--` by the characters that it stands for, and a label with other
than ASCII characters by its first character and by how its letters join.

If anything in a name is written from right to left, no label may mix the two directions.
-/

namespace PowerLease.Url.Domain

/-- Whether a character is in ASCII. -/
def isAscii (c : Char) : Bool := c.toNat < 0x80

/-- Characters of ASCII that no name may hold in a URL: controls, the space, and those with a meaning
there. -/
def deniedInUrl (c : Char) : Bool :=
  c.toNat ≤ 0x20 || c.toNat == 0x7F || "%#/:<>?@[\\]^|".toList.contains c

/-- What a character stands for, if that has characters of ASCII in it. -/
def folding? (c : Char) : Option (List Char) :=
  (foldings.find? fun run => run.1 ≤ c.toNat && c.toNat ≤ run.2.1).map fun (first, _, text) =>
    if c.toNat = first then text.toList
    else text.toList.map fun t => Char.ofNat (t.toNat + (c.toNat - first))

/-- A character in the one form of names; nothing, if no name may hold it. -/
def fold (c : Char) : Option (List Char) :=
  if isAscii c then some [c.toLower]
  else if Text.within forbiddenBounds c then none
  else if Text.within ignoredBounds c then some []
  else some ((folding? c).getD [c])

/-- A name in its one form. -/
def folded (denied : Char → Bool) (name : List Char) : Option (List Char) := do
  let s := (← name.mapM fold).flatten
  if s.any denied then none else some s

/-- The labels of a name, between its dots. -/
def labels (name : List Char) : List (List Char) :=
  name.foldr
    (fun c ls =>
      if c = '.' then [] :: ls
      else
        match ls with
        | l :: rest => (c :: l) :: rest
        | [] => [[c]])
    [[]]

/-! ## Characters of a label -/

/-- Whether a character of a label that was encoded is in the one form of names. -/
def isSettled (denied : Char → Bool) (c : Char) : Bool := fold c == some [c] && !denied c

/-- The two characters that only say how the letters around them join. -/
def isJoiner (c : Char) : Bool := c.toNat == 0x200C || c.toNat == 0x200D

/-- Whether a joiner may stand behind some characters, the last of them first, and before others. It
may behind a combining character that joins. The one that keeps letters apart may also stand between
letters that would join. -/
def mayJoin (c : Char) (before after : List Char) : Bool :=
  let passed := fun s : List Char => s.dropWhile (Text.within transparentBounds)
  (before.head?.any (Text.within viramaBounds))
    || (c.toNat == 0x200C && (passed before).head?.any (Text.within joinsNextBounds)
      && (passed after).head?.any (Text.within joinsPreviousBounds))

/-- Whether all joiners of a label may stand where they do. -/
def joinersFit : List Char → List Char → Bool
  | _, [] => true
  | before, c :: after => (!isJoiner c || mayJoin c before after) && joinersFit (c :: before) after

/-- Whether the characters of a label make a label. -/
def isLabel (s : List Char) : Bool :=
  !(s.head?.any (Text.within markBounds)) && joinersFit [] s

/-- The beginning of a label that is encoded. -/
def encodedMark : List Char := "xn--".toList

/-- What a label stands for; nothing, if it is no label. -/
def decodeLabel (denied : Char → Bool) (s : List Char) : Option (List Char) :=
  if encodedMark.isPrefixOf s then do
    let t ← Punycode.decode (s.drop encodedMark.length)
    if t.all isAscii || !t.all (isSettled denied) || encodedMark.isPrefixOf t || !isLabel t then none
    else some t
  else if s.all isAscii || isLabel s then some s
  else none

/-! ## Directions -/

/-- Whether a character makes the whole name one that is written in two directions. -/
def isRight (c : Char) : Bool :=
  Text.within rightBounds c || Text.within arabicNumberBounds c

/-- A label without the characters at its end that have no direction of their own. -/
def body (s : List Char) : List Char := s.reverse.dropWhile (Text.within attachedBounds)

/-- Whether a label keeps to one direction. -/
def isOneWay (s : List Char) : Bool :=
  match s with
  | [] => true
  | first :: _ =>
    let arabic := Text.within arabicNumberBounds
    let european := Text.within europeanNumberBounds
    if Text.within rightBounds first then
      !s.any (Text.within leftBounds) && !(s.any arabic && s.any european)
        && (body s).head?.any fun c => isRight c || european c
    else if Text.within leftBounds first then
      !s.any isRight && (body s).head?.any fun c => Text.within leftBounds c || european c
    else false

/-! ## Names -/

/-- A label as it is looked up. -/
def encodeLabel (s : List Char) : List Char :=
  if s.all isAscii then s else encodedMark ++ Punycode.encode s

/-- Labels with dots between them. -/
def join : List (List Char) → List Char
  | [] => []
  | [l] => l
  | l :: rest => l ++ '.' :: join rest

/-- The form in ASCII in which a name is looked up; nothing, if the text is no name. Some characters
of ASCII can be denied. -/
def toAscii (denied : Char → Bool) (name : List Char) : Option (List Char) := do
  let parts := labels (← folded denied name)
  let decoded ← parts.mapM (decodeLabel denied)
  if decoded.any (fun l => l.any isRight) && !decoded.all isOneWay then none
  else some (join (parts.map encodeLabel))

end PowerLease.Url.Domain
