import PowerLease.Halt
import PowerLease.Json.Number
import PowerLease.Json.Reader
import PowerLease.Text.Quoted

/-!
# Reading typed values

A `Decoder` makes a value of some type from a value of a document, or says what is wrong with it.
Documents are read in the order of their text and the first problem is reported, so a decoder looks
at the parts of a value one after another, and at the end of each array and object at whether it has
one.

A record is written as an object, or as an array of its fields in their order. Fields that it does
not know are passed over; one that it knows must not come twice, and one without default must come.
`Fields` are the fields of a record, and a `Draft` holds those that are read so far.
-/

namespace PowerLease.Json

/-! ## Faults -/

/-- Why a document is not accepted. -/
inductive Fault where
  /-- The text is no document. -/
  | malformed
  /-- A value of one kind stands where another was expected. -/
  | mismatch (found expected : String)
  /-- An array ends too early. -/
  | tooShort (length : Nat) (expected : String)
  | missingField (name : String)
  | duplicateField (name : String)
  | unknownVariant (name : String) (known : List String)
  /-- A value that has none of the forms of its type. -/
  | noForm (type : String)
  /-- A string that its own reader refuses, in that reader's words. -/
  | refused (message : String)
deriving DecidableEq, Repr

/-- A name as messages show it. -/
def shownName (name : String) : String := s!"`{name}`"

/-- The wording of a fault; what is no document has none of its own. -/
def Fault.message : Fault → String
  | .malformed => "JSON syntax error"
  | .mismatch found expected => s!"invalid type: {found}, expected {expected}"
  | .tooShort length expected => s!"invalid length {length}, expected {expected}"
  | .missingField name => s!"missing field {shownName name}"
  | .duplicateField name => s!"duplicate field {shownName name}"
  | .unknownVariant name known =>
    let names := ", ".intercalate (known.map shownName)
    s!"unknown variant {shownName name}, expected one of {names}"
  | .noForm type => s!"data did not match any variant of untagged enum {type}"
  | .refused message => message

/-- Makes a value of a value of a document. -/
abbrev Decoder (α : Type) := Value → Except (Halt Fault) α

/-- What a value is, as messages show it. -/
def shape : Decoder String
  | .null => .ok "null"
  | .bool b => .ok s!"boolean `{b}`"
  | .number n =>
    match n.quantity with
    | .integer n => .ok s!"integer `{n}`"
    | .binary x => .ok s!"floating point `{Decimal.render x}`"
    | .outOfRange => refuse .malformed
  | .string (some s) => .ok s!"string {Text.quoted s}"
  | .array _ _ => .ok "sequence"
  | .object _ _ => .ok "map"
  | .string none | .broken => refuse .malformed

/-- Refuses a value of the wrong kind. -/
def mismatch {α : Type} (expected : String) (v : Value) : Except (Halt Fault) α := do
  refuse (.mismatch (← shape v) expected)

/-! ## Leaves -/

/-- A string, under a name of its own. -/
def stringOf (expected : String) : Decoder String
  | .string (some s) => .ok s
  | v => mismatch expected v

/-- A string. -/
def string : Decoder String := stringOf "a string"

/-- The path of a file. -/
def path : Decoder String := stringOf "path string"

/-- A truth value. -/
def bool : Decoder Bool
  | .bool b => .ok b
  | v => mismatch "a boolean" v

/-- A value or null. -/
def optional {α : Type} (decode : Decoder α) : Decoder (Option α)
  | .null => .ok none
  | v => (decode v).map some

/-- A string that is read further. -/
def parsed {α ε : Type} (parse : String → Except (Halt ε) α) (message : ε → String) :
    Decoder α := fun v => do
  let s ← string v
  match parse s with
  | .ok a => .ok a
  | .error halt => .error (halt.map fun fault => .refused (message fault))

/-- Nothing, written as null. -/
def unit : Decoder Unit
  | .null => .ok ()
  | v => mismatch "unit" v

/-- What is passed over only has to be whole. -/
def ignored : Decoder Unit := fun v => if v.isWhole then .ok () else refuse .malformed

/-! ## Compounds -/

/-- The end of an array or object. -/
def atEnd : Ending → Except (Halt Fault) Unit
  | .closed => .ok ()
  | .broken => refuse .malformed

/-- All items of an array. -/
def array {α : Type} (decode : Decoder α) : Decoder (List α)
  | .array items ending => do
    let decoded ← items.mapM decode
    atEnd ending
    pure decoded
  | v => mismatch "a sequence" v

/-- A word out of some, each with what it stands for. -/
def word {α : Type} (words : List (String × α)) (name : String) : Except (Halt Fault) α :=
  match words.find? fun w => w.1 == name with
  | some w => .ok w.2
  | none => refuse (.unknownVariant name (words.map Prod.fst))

/-- One of some words: a string, or an object of one member whose key it is and whose value is
null. Nothing else is a word, whatever it is. -/
def oneOf {α : Type} (words : List (String × α)) : Decoder α
  | .string (some s) => word words s
  | .object ((key, v) :: rest) ending => do
    let a ← word words (← stringOf "variant identifier" key)
    unit v
    if rest.isEmpty then atEnd ending else refuse .malformed
    pure a
  | _ => refuse .malformed

/-! ## Records -/

/-- The fields of a record; `ρ` is the type of their values together. -/
inductive Fields : Type → Type 1 where
  | done : Fields Unit
  /-- A field, and its default if it has one. -/
  | field {α ρ : Type} (name : String) (decode : Decoder α) (default : Option α)
      (rest : Fields ρ) : Fields (α × ρ)

namespace Fields

/-- How many fields there are. -/
def count {ρ : Type} : Fields ρ → Nat
  | done => 0
  | field _ _ _ rest => rest.count + 1

/-- Whether there is a field of a name. -/
def knows {ρ : Type} (name : String) : Fields ρ → Bool
  | done => false
  | field own _ _ rest => own == name || rest.knows name

/-- The type of a record that is read in part: the values that are read. -/
def Draft {ρ : Type} : Fields ρ → Type
  | done => Unit
  | field (α := α) _ _ _ rest => Option α × rest.Draft

/-- The record of which nothing is read. -/
def blank {ρ : Type} : (fields : Fields ρ) → fields.Draft
  | done => ()
  | field _ _ _ rest => (none, rest.blank)

/-- Reads the field of a name. -/
def put {ρ : Type} (name : String) (v : Value) :
    (fields : Fields ρ) → fields.Draft → Except (Halt Fault) fields.Draft
  | done, draft => .ok draft
  | field own decode _ rest, draft =>
    let held : Option _ := draft.1
    let others : rest.Draft := draft.2
    if own = name then
      if held.isSome then refuse (.duplicateField name)
      else (decode v).map fun a => (some a, others)
    else (rest.put name v others).map fun others => (held, others)

/-- Reads a member of an object. -/
def putMember {ρ : Type} (fields : Fields ρ) (draft : fields.Draft) (member : Value × Value) :
    Except (Halt Fault) fields.Draft :=
  match member.1 with
  | .string (some name) =>
    if fields.knows name then fields.put name member.2 draft
    else (ignored member.2).map fun _ => draft
  | _ => refuse .malformed

/-- The record, when its object is over. -/
def finish {ρ : Type} : (fields : Fields ρ) → fields.Draft → Except (Halt Fault) ρ
  | done, _ => .ok ()
  | field name _ default rest, draft => do
    let held : Option _ := draft.1
    match held.or default with
    | none => refuse (.missingField name)
    | some a => return (a, ← rest.finish draft.2)

/-- The record of an array. `expected` names the record in full, and `before` items are read. -/
def fill {ρ : Type} (expected : String) (ending : Ending) (before : Nat) :
    Fields ρ → List Value → Except (Halt Fault) ρ
  | done, rest => if rest.isEmpty then atEnd ending else refuse .malformed
  | field _ decode _ fields, v :: rest => do
    let a ← decode v
    return (a, ← fields.fill expected ending (before + 1) rest)
  | field _ _ default fields, [] => do
    atEnd ending
    match default with
    | none => refuse (.tooShort before expected)
    | some a => return (a, ← fields.fill expected ending (before + 1) [])

end Fields

/-- The name of a record with the count of its fields. -/
def recordLength (name : String) (n : Nat) : String :=
  let plural := if n = 1 then "" else "s"
  s!"{name} with {n} element{plural}"

/-- A record of some fields. -/
def record {ρ : Type} (name : String) (fields : Fields ρ) : Decoder ρ
  | .object members ending => do
    let draft ← members.foldlM fields.putMember fields.blank
    atEnd ending
    fields.finish draft
  | .array items ending => fields.fill (recordLength name fields.count) ending 0 items
  | v => mismatch name v

/-- A field that has to come. -/
def field {α ρ : Type} (name : String) (decode : Decoder α) (rest : Fields ρ) : Fields (α × ρ) :=
  .field name decode none rest

/-- A field that has a default. -/
def fieldOr {α ρ : Type} (name : String) (decode : Decoder α) (default : α) (rest : Fields ρ) :
    Fields (α × ρ) :=
  .field name decode (some default) rest

/-! ## Documents -/

/-- Reads a document of some type. -/
def decodeText {α : Type} (decode : Decoder α) (text : String) : Except (Halt Fault) α := do
  let document := Document.read text
  let a ← decode document.value
  if document.clean then pure a else refuse .malformed

/-! ## Values of any kind -/

mutual

/-- Whether a value can be kept for later: all its strings have a text, its numbers are in range, and
it is nested no deeper than there is room for. -/
def isKeepable (room : Nat) : Value → Bool
  | .string text => text.isSome
  | .number n =>
    match n.quantity with
    | .outOfRange => false
    | _ => true
  | .array items ending => room != 0 && ending == .closed && areKeepable (room - 1) items
  | .object members ending => room != 0 && ending == .closed && areKeepableMembers (room - 1) members
  | .broken => false
  | _ => true

/-- Whether all values of a list can be kept. -/
def areKeepable (room : Nat) : List Value → Bool
  | [] => true
  | v :: rest => isKeepable room v && areKeepable room rest

/-- Whether all keys and values of an object can be kept. -/
def areKeepableMembers (room : Nat) : List (Value × Value) → Bool
  | [] => true
  | (key, v) :: rest => isKeepable room key && isKeepable room v && areKeepableMembers room rest

end

end PowerLease.Json
