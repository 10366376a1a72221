import PowerLease.Url.Host

/-!
# URLs

Which texts are URLs, and what their scheme and host are. Blanks and controls around the text and
tabs and line ends inside of it do not count.

Only the part in front of the path can be wrong: the scheme, which has to be there, and the host and
the number behind it. Some schemes give them a meaning, and of those that for files needs no host.
The path and all behind it take any text.
-/

namespace PowerLease

/-- A URL, up to its path. -/
structure Url where
  scheme : String
  host : Option Host
  /-- The number behind the host. -/
  gate : Option Nat
deriving DecidableEq, Repr

namespace Url

/-- The schemes that need a host. -/
def hostedSchemes : List String := ["http", "https", "ws", "wss", "ftp"]

/-- What a scheme means for the host. -/
inductive Meaning where
  /-- There has to be a host. -/
  | hosted
  /-- There may be a host. -/
  | file
  /-- Whatever stands there has no meaning. -/
  | none
deriving DecidableEq, Repr

/-- What a scheme means for the host. -/
def Meaning.of (scheme : String) : Meaning :=
  if hostedSchemes.contains scheme then .hosted else if scheme = "file" then .file else .none

/-- The text that counts. -/
def significant (text : String) : List Char :=
  let cut := fun s : List Char => s.dropWhile fun c => c.toNat ≤ 0x20
  (cut (cut text.toList).reverse).reverse.filter fun c => c != '\t' && c != '\n' && c != '\r'

/-- A letter of ASCII. -/
def isLetter (c : Char) : Bool := ('a' ≤ c && c ≤ 'z') || ('A' ≤ c && c ≤ 'Z')

/-- Whether a character can stand in a scheme. -/
def inScheme (c : Char) : Bool :=
  isLetter c || ('0' ≤ c && c ≤ '9') || c == '+' || c == '-' || c == '.'

/-- The scheme, and the text behind its colon. -/
def scheme? (s : List Char) : Option (String × List Char) :=
  let name := s.takeWhile inScheme
  match s.dropWhile inScheme with
  | ':' :: rest =>
    if name.head?.any isLetter then some (String.ofList (name.map Char.toLower), rest) else none
  | _ => none

/-! ## In front of the path -/

/-- Whether a character ends what stands in front of the path. -/
def endsAuthority (m : Meaning) (c : Char) : Bool :=
  c == '/' || c == '?' || c == '#' || (c == '\\' && m != .none)

/-- The text behind the last `@`, if there is one, and the text in front of it. -/
def splitUser (s : List Char) : Option (List Char) × List Char :=
  let behind := s.reverse.takeWhile (· != '@')
  if behind.length = s.length then (none, s)
  else (some (s.take (s.length - behind.length - 1)), behind.reverse)

/-- Whether the text in front of the `@` names a user or has a password. -/
def namesUser (user : List Char) : Bool := user != [] && user != [':']

/-- The host in front of a colon that is not in brackets, and the text behind. -/
def splitHost : List Char → Bool → List Char × List Char
  | [], _ => ([], [])
  | c :: rest, inBrackets =>
    if c = ':' ∧ !inBrackets then ([], c :: rest)
    else
      let (host, behind) := splitHost rest ((inBrackets || c == '[') && c != ']')
      (c :: host, behind)

/-- The number behind the host. A backslash ends it, whatever the scheme. -/
def readGate (s : List Char) : Except UrlFault (Option Nat) :=
  let digits := s.takeWhile (· != '\\')
  if digits.isEmpty then .ok none
  else
    match digits.foldlM
        (fun n c =>
          let more := n * 10 + (c.toNat - 48)
          if '0' ≤ c ∧ c ≤ '9' ∧ more < 1 <<< 16 then some more else none)
        0 with
    | some n => .ok (some n)
    | none => .error .port

/-- Reads what stands in front of the path, behind two slashes. -/
def readAuthority (m : Meaning) (scheme : String) (s : List Char) : Except UrlFault Url := do
  let authority := s.takeWhile fun c => !endsAuthority m c
  let more := !(s.dropWhile fun c => !endsAuthority m c).isEmpty
  let (user, rest) := splitUser authority
  if user = some [] ∧ rest.isEmpty ∧ more then throw .emptyHost
  let (host, behind) := splitHost rest false
  if host.isEmpty ∧ (m = .hosted ∨ behind ≠ []) then throw .emptyHost
  let host ← if m = .hosted then Host.read host else Host.readPlain host
  let gate ← readGate (behind.drop 1)
  if host = .plain "" then
    if user.any namesUser then throw .emptyHost
    pure { scheme, host := none, gate }
  else pure { scheme, host := some host, gate }

/-- Whether a text is a letter and a colon or a bar, which names a drive. -/
def isDrive : List Char → Bool
  | [c, d] => isLetter c && (d == ':' || d == '|')
  | _ => false

/-- Reads the host of a file. -/
def readFileHost (s : List Char) : Except UrlFault Url := do
  let host := s.takeWhile fun c => !endsAuthority .file c
  if host.isEmpty ∨ isDrive host then pure { scheme := "file", host := none, gate := none }
  else
    let host ← Host.read host
    pure
      { scheme := "file", host := if host = .domain "localhost" then none else some host
        gate := none }

/-- Whether a character is a slash of either kind. -/
def isSlash (c : Char) : Bool := c == '/' || c == '\\'

/-- Reads a URL. -/
def read (text : String) : Except UrlFault Url :=
  match scheme? (significant text) with
  | none => .error .noBase
  | some (scheme, rest) =>
    match Meaning.of scheme with
    | .hosted => readAuthority .hosted scheme (rest.dropWhile isSlash)
    | .file =>
      match rest with
      | a :: b :: host =>
        if isSlash a && isSlash b then readFileHost host
        else .ok { scheme, host := none, gate := none }
      | _ => .ok { scheme, host := none, gate := none }
    | .none =>
      match rest with
      | '/' :: '/' :: authority => readAuthority .none scheme authority
      | _ => .ok { scheme, host := none, gate := none }

end Url
end PowerLease
