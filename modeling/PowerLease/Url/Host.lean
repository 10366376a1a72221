import PowerLease.Text.Utf8
import PowerLease.Url.Domain

/-!
# Hosts

The host of a URL: a name, an address of four numbers, or an address of eight numbers in brackets.
Whether a name is an address is decided by its last part: one that is a number, in any of the forms
numbers have there, makes the whole host an address of four numbers, and then it has to be one.
-/

namespace PowerLease

/-- Why a text is no URL. -/
inductive UrlFault where
  | emptyHost
  | internationalName
  | port
  | ipv4
  | ipv6
  | domainCharacter
  | noBase
deriving DecidableEq, Repr

/-- The wording of a fault. -/
def UrlFault.message : UrlFault → String
  | .emptyHost => "empty host"
  | .internationalName => "invalid international domain name"
  | .port => "invalid port number"
  | .ipv4 => "invalid IPv4 address"
  | .ipv6 => "invalid IPv6 address"
  | .domainCharacter => "invalid domain character"
  | .noBase => "relative URL without a base"

/-- The host of a URL. -/
inductive Host where
  /-- A name, in the form in which it is looked up. -/
  | domain (name : String)
  /-- An address of four numbers. -/
  | ipv4 (address : Nat)
  /-- An address of eight numbers, as it is written between its brackets. -/
  | ipv6 (address : String)
  /-- The host of a scheme that gives hosts no meaning. -/
  | plain (name : String)
deriving DecidableEq, Repr

namespace Host

/-! ## Addresses of four numbers -/

/-- The value of a digit to the base sixteen. -/
def hexDigit? (c : Char) : Option Nat :=
  if '0' ≤ c && c ≤ '9' then some (c.toNat - 48)
  else if 'a' ≤ c && c ≤ 'f' then some (c.toNat - 87)
  else if 'A' ≤ c && c ≤ 'F' then some (c.toNat - 55)
  else none

/-- The number of some digits to a base. -/
def number? (base : Nat) (s : List Char) : Option Nat :=
  s.foldlM
    (fun n c => do
      let d ← hexDigit? c
      if d < base then some (n * base + d) else none)
    0

/-- A part of an address: to the base sixteen behind `0x`, to the base eight behind another zero. A
mark without digits is zero. -/
def part? : List Char → Option Nat
  | [] => none
  | '0' :: 'x' :: digits | '0' :: 'X' :: digits => number? 16 digits
  | '0' :: d :: digits => number? 8 (d :: digits)
  | digits => number? 10 digits

/-- Whether the last part of a name, apart from a dot at its end, is a number. -/
def endsInNumber (parts : List (List Char)) : Bool :=
  let last := match parts.reverse with
    | [] :: part :: _ => some part
    | [] :: [] => none
    | part :: _ => some part
    | [] => none
  last.any fun part =>
    (!part.isEmpty && part.all fun c => '0' ≤ c && c ≤ '9') || (part? part).isSome

/-- The address of some numbers. The last of them fills the bytes that the others leave. -/
def join (numbers : List Nat) : Option Nat :=
  match numbers.reverse with
  | [] => none
  | last :: others =>
    if 3 < others.length then none
    else if others.any fun n => 255 < n then none
    else if Nat.pow 256 (4 - others.length) ≤ last then none
    else
      some (last + (others.zipIdx).foldl
        (fun sum (n, i) => sum + n * Nat.pow 256 (4 - others.length + i)) 0)

/-- The address of a name that ends in a number. -/
def readIpv4 (parts : List (List Char)) : Except UrlFault Host :=
  let parts := if parts.getLast? = some [] then parts.dropLast else parts
  match (parts.mapM part?).bind join with
  | some address => .ok (.ipv4 address)
  | none => .error .ipv4

/-! ## Addresses of eight numbers -/

/-- Whether a text is a number up to 255 without leading zeros. -/
def isByte (s : List Char) : Bool :=
  !s.isEmpty && s.all (fun c => '0' ≤ c && c ≤ '9') && (s.length == 1 || s.head? != some '0')
    && (number? 10 s).any (· ≤ 255)

/-- Whether a text is four such numbers with dots between them. -/
def isDotted (s : List Char) : Bool :=
  let parts := Url.Domain.labels s
  parts.length == 4 && parts.all isByte

/-- Up to four digits to the base sixteen at the start of a text. -/
def piece (s : List Char) : List Char := (s.take 4).takeWhile fun c => (hexDigit? c).isSome

/-- Whether a text is the rest of an address behind some numbers, one of which may stand for as many
zeros as are missing. The last two numbers may be written as four with dots. -/
def isPieces (s : List Char) (count : Nat) (shortened : Bool) : Bool :=
  match s with
  | [] => shortened || count == 8
  | c :: after =>
    if count == 8 then false
    else if c = ':' then !shortened && isPieces after (count + 1) true
    else
      match h : (c :: after).drop (piece (c :: after)).length with
      | [] => shortened || count + 1 == 8
      | '.' :: _ =>
        !(piece (c :: after)).isEmpty && count ≤ 6 && isDotted (c :: after)
          && (shortened || count == 6)
      | ':' :: rest => !rest.isEmpty && isPieces rest (count + 1) shortened
      | _ => false
termination_by s.length
decreasing_by
  · simp
  · have := congrArg List.length h
    simp only [List.length_drop, List.length_cons] at this ⊢
    omega

/-- Whether a text is an address of eight numbers. -/
def isIpv6 : List Char → Bool
  | ':' :: ':' :: rest => isPieces rest 1 true
  | ':' :: _ => false
  | [] | [_] => false
  | s => isPieces s 0 false

/-! ## Hosts -/

/-- The bytes of a host, in which a percent sign and two digits stand for one. -/
def percentDecode : List UInt8 → List UInt8
  | 0x25 :: a :: b :: rest =>
    match hexDigit? (Char.ofNat a.toNat), hexDigit? (Char.ofNat b.toNat) with
    | some high, some low => UInt8.ofNat (16 * high + low) :: percentDecode rest
    | _, _ => 0x25 :: percentDecode (a :: b :: rest)
  | b :: rest => b :: percentDecode rest
  | [] => []
termination_by bytes => bytes.length

/-- An address in brackets, if a host begins with one. -/
def bracketed (s : List Char) : Except UrlFault Host :=
  let inner := s.dropLast
  if s.getLast? = some ']' ∧ isIpv6 inner then .ok (.ipv6 (String.ofList inner)) else .error .ipv6

/-- The host of a scheme that gives hosts a meaning. -/
def read (s : List Char) : Except UrlFault Host :=
  match s with
  | '[' :: rest => bracketed rest
  | _ =>
    let bytes := ByteArray.mk (percentDecode (Text.bytesOf s)).toArray
    let name? := (String.fromUTF8? bytes).bind fun name =>
      Url.Domain.toAscii Url.Domain.deniedInUrl name.toList
    match name? with
    | none => .error .internationalName
    | some [] => .error .emptyHost
    | some name =>
      let parts := Url.Domain.labels name
      if endsInNumber parts then readIpv4 parts else .ok (.domain (String.ofList name))

/-- Characters that no host may hold, where hosts have no meaning. -/
def isForbidden (c : Char) : Bool := "\x00\t\n\r #/:<>?@[\\]^|".toList.contains c

/-- The host of a scheme that gives hosts no meaning. -/
def readPlain (s : List Char) : Except UrlFault Host :=
  match s with
  | '[' :: rest => bracketed rest
  | _ => if s.any isForbidden then .error .domainCharacter else .ok (.plain (String.ofList s))

end Host
end PowerLease
