import PowerLease.Json.Value

/-!
# Reading JSON

The reader is a machine that takes one character at a time, so reading is one fold over the text and
neither its length nor the depth of its nesting needs a measure. The arrays and objects that are
open lie on a stack of frames, the innermost first; the `Mode` says what may come next.

Where a character fits nothing, the machine closes all frames as broken off and passes over the rest
of the text. The same happens where the text is over and something is still open.
-/

namespace PowerLease.Json

/-- What is still open around a value that is read. Lists are in reverse. -/
inductive Frame where
  /-- An array behind some items. -/
  | items (items : List Value)
  /-- An object behind some members: the value is a key. -/
  | key (members : List (Value × Value))
  /-- An object behind some members and a key: the value belongs to the key. -/
  | member (members : List (Value × Value)) (key : Value)

/-- What part of a number was read last. -/
inductive NumberPhase where
  | sign
  /-- A zero, which no digit may follow. -/
  | zero
  | whole
  | point
  | fraction
  | exponent
  | exponentSign
  | exponentDigits
deriving DecidableEq, Repr

/-- The text of a string so far, in reverse, or nothing if there is none. -/
structure Letters where
  text : Option (List Char) := some []
  /-- The first half of a pair of escapes, which the second half has to follow. -/
  half : Option Nat := none

/-- What may come next. -/
inductive Mode where
  /-- A value or, directly behind an opening bracket, the closing one. -/
  | value (mayClose : Bool)
  /-- The colon behind a key. -/
  | colon
  /-- A comma or a closing bracket. -/
  | after
  /-- The rest of a word, and its value. -/
  | word (rest : List Char) (v : Value)
  | number (n : Numeral) (phase : NumberPhase)
  | string (letters : Letters)
  /-- The character behind a backslash. -/
  | escape (letters : Letters)
  /-- The digits of a numeric escape: how many are to come, and the value of those that came. -/
  | hex (letters : Letters) (missing : Nat) (n : Nat)
  /-- Nothing. The document is over, and whether the text may still have blanks. -/
  | over (v : Value) (clean : Bool)

/-- The machine between two characters. -/
structure State where
  stack : List Frame
  mode : Mode

/-! ## Frames -/

/-- The value of a frame that is broken off behind a last value. -/
def breakFrame (last : Value) : Frame → Value
  | .items before => .array (last :: before).reverse .broken
  | .key before => .object ((last, .broken) :: before).reverse .broken
  | .member before key => .object ((key, last) :: before).reverse .broken

/-- The whole document, if it breaks off behind a last value. -/
def breakOff (last : Value) (stack : List Frame) : State :=
  ⟨[], .over (stack.foldl breakFrame last) false⟩

/-- Takes in a value that is read to its end. A key has to be a string. -/
def complete (v : Value) : List Frame → State
  | [] => ⟨[], .over v true⟩
  | .items items :: rest => ⟨.items (v :: items) :: rest, .after⟩
  | .key members :: rest =>
    match v with
    | .string _ => ⟨.member members v :: rest, .colon⟩
    | _ => breakOff v (.key members :: rest)
  | .member members key :: rest => ⟨.key ((key, v) :: members) :: rest, .after⟩

/-- Closes the innermost frame, if the bracket is its own. -/
def close (bracket : Char) : List Frame → Option State
  | .items items :: rest =>
    if bracket = ']' then some (complete (.array items.reverse .closed) rest) else none
  | .key members :: rest =>
    if bracket = '}' then some (complete (.object members.reverse .closed) rest) else none
  | _ => none

/-! ## Numbers -/

/-- The value of a decimal digit. -/
def digit? (c : Char) : Option Nat :=
  if '0' ≤ c && c ≤ '9' then some (c.toNat - '0'.toNat) else none

/-- Takes one more digit. Nothing may follow a leading zero. -/
def Numeral.push (n : Numeral) (d : Nat) : NumberPhase → Option (Numeral × NumberPhase)
  | .sign => some ({ n with whole := [d] }, if d = 0 then .zero else .whole)
  | .zero => none
  | .whole => some ({ n with whole := n.whole ++ [d] }, .whole)
  | .point | .fraction => some ({ n with fraction := n.fraction ++ [d] }, .fraction)
  | .exponent | .exponentSign | .exponentDigits =>
    let (negative, digits) := n.exponent.getD (false, [])
    some ({ n with exponent := some (negative, digits ++ [d]) }, .exponentDigits)

/-- Takes a character of a number that is no digit. -/
def Numeral.mark (n : Numeral) (c : Char) : NumberPhase → Option (Numeral × NumberPhase)
  | .zero | .whole =>
    if c = '.' then some (n, .point)
    else if c = 'e' ∨ c = 'E' then some (n, .exponent)
    else none
  | .fraction => if c = 'e' ∨ c = 'E' then some (n, .exponent) else none
  | .exponent =>
    if c = '+' ∨ c = '-' then some ({ n with exponent := some (c = '-', []) }, .exponentSign)
    else none
  | _ => none

/-- Whether a number may end here. -/
def NumberPhase.mayEnd : NumberPhase → Bool
  | .zero | .whole | .fraction | .exponentDigits => true
  | _ => false

/-! ## Strings -/

/-- One more character. -/
def Letters.push (l : Letters) (c : Char) : Letters :=
  match l.half with
  | none => { l with text := l.text.map (c :: ·) }
  | some _ => { text := none }

/-- One more unit of sixteen bits. A character beyond them comes in two halves; a half without the
other gives no text. -/
def Letters.pushUnit (l : Letters) (n : Nat) : Letters :=
  let isFirst := 0xD800 ≤ n && n ≤ 0xDBFF
  let isSecond := 0xDC00 ≤ n && n ≤ 0xDFFF
  match l.half with
  | some first =>
    if isSecond then
      let c := Char.ofNat (0x10000 + (first - 0xD800) * 0x400 + (n - 0xDC00))
      { text := l.text.map (c :: ·) }
    else { text := none }
  | none =>
    if isFirst then { l with half := some n }
    else if isSecond then { text := none }
    else l.push (Char.ofNat n)

/-- The string, when its closing quote is read. -/
def Letters.value (l : Letters) : Value :=
  .string (if l.half.isSome then none else l.text.map fun cs => String.ofList cs.reverse)

/-- What the letter behind a backslash stands for. -/
def escaped? (c : Char) : Option Char :=
  match c with
  | '"' => some '"'
  | '\\' => some '\\'
  | '/' => some '/'
  | 'b' => some '\x08'
  | 'f' => some '\x0c'
  | 'n' => some '\n'
  | 'r' => some '\r'
  | 't' => some '\t'
  | _ => none

/-- The value of a digit to the base sixteen. -/
def hexDigit? (c : Char) : Option Nat :=
  if '0' ≤ c && c ≤ '9' then some (c.toNat - 48)
  else if 'a' ≤ c && c ≤ 'f' then some (c.toNat - 87)
  else if 'A' ≤ c && c ≤ 'F' then some (c.toNat - 55)
  else none

/-! ## Steps -/

/-- Whether a character may stand between values. -/
def isBlank (c : Char) : Bool := c == ' ' || c == '\n' || c == '\t' || c == '\r'

/-- Begins a value. -/
def begin (c : Char) (stack : List Frame) : State :=
  match c with
  | '{' => ⟨.key [] :: stack, .value true⟩
  | '[' => ⟨.items [] :: stack, .value true⟩
  | '"' => ⟨stack, .string {}⟩
  | '-' => ⟨stack, .number { negative := true } .sign⟩
  | 't' => ⟨stack, .word "rue".toList (.bool true)⟩
  | 'f' => ⟨stack, .word "alse".toList (.bool false)⟩
  | 'n' => ⟨stack, .word "ull".toList .null⟩
  | _ =>
    match (digit? c).bind fun d => ({} : Numeral).push d .sign with
    | some (n, phase) => ⟨stack, .number n phase⟩
    | none => breakOff .broken stack

/-- The document, if it breaks off where no value was begun. -/
def breakBetween : List Frame → State
  | .items items :: rest => breakOff (.array items.reverse .broken) rest
  | .key members :: rest => breakOff (.object members.reverse .broken) rest
  | stack => breakOff .broken stack

/-- Takes a character behind a value. -/
def separate (c : Char) (stack : List Frame) : State :=
  if isBlank c then ⟨stack, .after⟩
  else if c = ',' then ⟨stack, .value false⟩
  else (close c stack).getD (breakBetween stack)

/-- Takes a character where nothing is left to read. -/
def trail (c : Char) (v : Value) (clean : Bool) : State := ⟨[], .over v (clean && isBlank c)⟩

/-- Takes a character behind a number, which it ends. -/
def State.next (st : State) (c : Char) : State :=
  match st.mode with
  | .after => separate c st.stack
  | .colon =>
    if isBlank c then st
    else if c = ':' then ⟨st.stack, .value false⟩
    else breakOff .broken st.stack
  | .over v clean => trail c v clean
  | _ => st

/-- Takes one character. -/
def State.step (st : State) (c : Char) : State :=
  match st.mode with
  | .value mayClose =>
    if isBlank c then st
    else
      match if mayClose then close c st.stack else none with
      | some closed => closed
      | none => begin c st.stack
  | .colon | .after | .over _ _ => st.next c
  | .word [] v => (complete v st.stack).next c
  | .word [last] v =>
    if c = last then complete v st.stack else breakOff .broken st.stack
  | .word (expected :: rest) v =>
    if c = expected then ⟨st.stack, .word rest v⟩ else breakOff .broken st.stack
  | .number n phase =>
    let more := match digit? c with
      | some d => n.push d phase
      | none => n.mark c phase
    match more with
    | some (n, phase) => ⟨st.stack, .number n phase⟩
    | none =>
      if phase.mayEnd && (digit? c).isNone then (complete (.number n) st.stack).next c
      else breakOff .broken st.stack
  | .string letters =>
    if c = '"' then complete letters.value st.stack
    else if c = '\\' then ⟨st.stack, .escape letters⟩
    else if c.toNat < 0x20 then breakOff .broken st.stack
    else ⟨st.stack, .string (letters.push c)⟩
  | .escape letters =>
    if c = 'u' then ⟨st.stack, .hex letters 4 0⟩
    else
      match escaped? c with
      | some c => ⟨st.stack, .string (letters.push c)⟩
      | none => breakOff .broken st.stack
  | .hex letters missing n =>
    match hexDigit? c with
    | some d =>
      if missing ≤ 1 then ⟨st.stack, .string (letters.pushUnit (n * 16 + d))⟩
      else ⟨st.stack, .hex letters (missing - 1) (n * 16 + d)⟩
    | none => breakOff .broken st.stack

/-! ## Documents -/

/-- A document: its value, and whether nothing but blanks comes behind it. -/
structure Document where
  value : Value
  clean : Bool

/-- The state when the text is over: a number may end with it, and whatever is open breaks off. -/
def State.finish (st : State) : State :=
  match st.mode with
  | .over _ _ => st
  | .after => breakBetween st.stack
  | .number n phase =>
    if phase.mayEnd then
      let done := complete (.number n) st.stack
      match done.mode with
      | .after => breakBetween done.stack
      | .over _ _ => done
      | _ => breakOff .broken done.stack
    else breakOff .broken st.stack
  | _ => breakOff .broken st.stack

/-- The document of a state. -/
def State.document (st : State) : Document :=
  match st.mode with
  | .over v clean => ⟨v, clean⟩
  | _ => ⟨.broken, false⟩

/-- Before the first character. -/
def State.start : State := ⟨[], .value false⟩

/-- Reads a document. -/
def Document.read (text : String) : Document :=
  (text.toList.foldl State.step State.start).finish.document

end PowerLease.Json
