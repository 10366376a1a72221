import PowerLease.Text.Alphanumeric
import PowerLease.Text.Blank
import PowerLease.Text.Utf8
import PowerLease.Url.Domain

/-!
# Mail addresses

A mailbox is an address, `user@domain`, or a name in front of an address in angle brackets. The name
is a row of words and dots; a word is an atom or a quoted text. Characters outside of ASCII can stand
in all of them. There are no comments.

Reading is greedy: each part takes as much as it can, and what it took is not given back when the
next part does not fit. Blanks around the whole and in front of the bracket do not count; in front of
a word or of one of the two parts of an address the first blank becomes part of it, which then no
address is.

What the grammar accepts is judged once more. The user has at most 64 bytes and is made of atoms
with dots between them. The labels of the domain begin and end with a letter or number; a domain that
is none as it stands may be one in the form in which it is looked up.
-/

namespace PowerLease

/-- An address, with a name or without. -/
structure Mailbox where
  name : Option String
  user : String
  domain : String
deriving DecidableEq, Repr

/-- Why a text is no mailbox. -/
inductive AddressFault where
  | grammar
  | user
  | domain
deriving DecidableEq, Repr

/-- The wording of a fault. -/
def AddressFault.message : AddressFault → String
  | .grammar => "Invalid input"
  | .user => "Invalid email user"
  | .domain => "Invalid email domain"

namespace Mailbox

/-! ## Characters -/

/-- A blank inside of a mailbox. -/
def isGap (c : Char) : Bool := c == ' ' || c == '\t'

/-- A character of an atom. -/
def inAtom (c : Char) : Bool :=
  c.isAlphanum || 0x80 ≤ c.toNat || "!#$%&\x27*+-/=?^_\x60\x7b|\x7d~".toList.contains c

/-- A character of a quoted text that needs no backslash. -/
def inQuotes (c : Char) : Bool :=
  let n := c.toNat
  n == 33 || (35 ≤ n && n ≤ 91) || (93 ≤ n && n ≤ 126) || 0x80 ≤ n
    || (1 ≤ n && n ≤ 8) || n == 11 || n == 12 || (14 ≤ n && n ≤ 31) || n == 127

/-- A character that can stand behind a backslash. -/
def isText (c : Char) : Bool :=
  let n := c.toNat
  (1 ≤ n && n ≤ 9) || n == 11 || n == 12 || (14 ≤ n && n ≤ 127)

/-! ## Grammar -/

/-- What a part of the grammar takes of a text, and what it leaves. -/
abbrev Part := List Char → Option (List Char × List Char)

/-- Some blanks, of which the first is kept. -/
def gap (s : List Char) : List Char × List Char :=
  ((s.takeWhile isGap).take 1, s.dropWhile isGap)

/-- An atom, and the first of the blanks in front of it. -/
def atom : Part := fun s =>
  let (blank, s) := gap s
  match s.takeWhile inAtom with
  | [] => none
  | a => some (blank ++ a, s.dropWhile inAtom)

/-- The rest of atoms with dots between them, behind a character of the first. A dot counts only in
front of an atom. -/
def dotted : List Char → List Char × List Char
  | [] => ([], [])
  | '.' :: rest =>
    if rest.head?.any inAtom then
      let (taken, left) := dotted rest
      ('.' :: taken, left)
    else ([], '.' :: rest)
  | c :: rest =>
    if inAtom c then
      let (taken, left) := dotted rest
      (c :: taken, left)
    else ([], c :: rest)

/-- Atoms with dots between them, and the first of the blanks in front of them. -/
def dottedAtoms : Part := fun s =>
  let (blank, s) := gap s
  if s.head?.any inAtom then
    let (taken, left) := dotted s
    some (blank ++ taken, left)
  else none

/-- The rest of a quoted text, behind a blank or without. Blanks at its end are left out. -/
def quotedRest : List Char → Option Char → Option (List Char × List Char)
  | [], _ => none
  | '"' :: rest, _ => some ([], rest)
  | ['\\'], _ => none
  | '\\' :: c :: rest, blank =>
    if isText c then
      (quotedRest rest none).map fun (taken, left) => (blank.toList ++ c :: taken, left)
    else none
  | c :: rest, blank =>
    if isGap c then quotedRest rest (blank.or (some c))
    else if inQuotes c then
      (quotedRest rest none).map fun (taken, left) => (blank.toList ++ c :: taken, left)
    else
      match rest.dropWhile Text.isBlank with
      | '"' :: left => if Text.isBlank c then some ([], left) else none
      | _ => none

/-- A quoted text. -/
def quoted : Part
  | '"' :: rest => quotedRest rest none
  | _ => none

/-- A word of a name. -/
def word : Part := fun s => (quoted s).or (atom s)

/-- The words and dots that are left of a name. -/
def phraseRest (s : List Char) : List Char × List Char :=
  match word s with
  | some (taken, left) =>
    if left.length < s.length then
      let (more, left) := phraseRest left
      (taken ++ more, left)
    else ([], s)
  | none =>
    match s with
    | '.' :: rest =>
      let (more, left) := phraseRest rest
      ('.' :: more, left)
    | s => ([], s)
termination_by s.length

/-- A name. -/
def phrase : Part := fun s => do
  let (first, left) ← word s
  let (more, left) := phraseRest left
  return (first ++ more, left)

/-- An address: its user, its domain, and what is left. -/
def address (s : List Char) : Option ((List Char × List Char) × List Char) := do
  let (user, left) ← (dottedAtoms s).or (quoted s)
  match left with
  | '@' :: left =>
    let (domain, left) ← dottedAtoms left
    return ((user, domain), left)
  | _ => none

/-- An address in angle brackets, and the blanks around it. -/
def angled (s : List Char) : Option ((List Char × List Char) × List Char) :=
  match Text.trimStart s with
  | '<' :: rest => do
    let (parts, left) ← address rest
    match left with
    | '>' :: left => return (parts, Text.trimStart left)
    | _ => none
  | _ => none

/-- The name, the user and the domain of a mailbox. -/
def split (s : List Char) : Option (Option (List Char) × List Char × List Char) := do
  let s := Text.trimStart s
  let (name, behind) := match phrase s with
    | some (name, left) => (some name, left)
    | none => (none, s)
  let (name, (user, domain), left) ←
    match angled behind with
    | some (parts, left) => some (name, parts, left)
    | none => (address s).map fun (parts, left) => (none, parts, left)
  if (Text.trimStart left).isEmpty then some (name, user, domain) else none

/-! ## Judgement -/

/-- Whether the inner part of a user in quotes is one. -/
def isQuotedUser : List Char → Bool
  | [] => true
  | '\\' :: c :: rest => 0x21 ≤ c.toNat && c.toNat ≤ 0x7E && isQuotedUser rest
  | c :: rest =>
    let n := c.toNat
    (isGap c || n == 0x21 || (0x23 ≤ n && n ≤ 0x5B) || (0x5D ≤ n && n ≤ 0x7E) || 0x80 ≤ n)
      && isQuotedUser rest

/-- Whether a text is an atom. -/
def isAtom (s : List Char) : Bool := !s.isEmpty && s.all inAtom

/-- Whether a text is the user of an address. -/
def isUser (s : List Char) : Bool :=
  if s.isEmpty || 64 < Text.size s then false
  else if s.head? == some '"' && s.getLast? == some '"' then
    2 < s.length && isQuotedUser (s.drop 1).dropLast
  else (Url.Domain.labels s).all isAtom

/-- Whether a text is a label of the domain of an address. -/
def isDomainLabel (s : List Char) : Bool :=
  isAtom s && s.head?.any Text.isAlphanumeric && s.getLast?.any Text.isAlphanumeric
    && Text.size s ≤ 63

/-- Whether a text is the domain of an address as it stands. -/
def isPlainDomain (s : List Char) : Bool :=
  Text.size s ≤ 254 && (Url.Domain.labels s).all isDomainLabel

/-- Whether a text is the domain of an address, as it stands or in the form in which it is looked
up. -/
def isDomain (s : List Char) : Bool :=
  isPlainDomain s || (Url.Domain.toAscii (fun _ => false) s).any isPlainDomain

/-- Reads a mailbox. -/
def read (text : String) : Except AddressFault Mailbox :=
  match split text.toList with
  | none => .error .grammar
  | some (name, user, domain) =>
    if !isUser user then .error .user
    else if !isDomain domain then .error .domain
    else
      .ok
        { name := name.map String.ofList, user := String.ofList user
          domain := String.ofList domain }

/-- The address of a mailbox. -/
def addressText (m : Mailbox) : String := s!"{m.user}@{m.domain}"

end Mailbox
end PowerLease
