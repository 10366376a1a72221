import PowerLease.Json.Printer
import PowerLease.Json.Reader

/-!
# Documents come back from their text

A value that is written and read again is the same value (`read_render`), as long as it has no numbers and
nothing in it is broken: the values of such a document are *plain*.

The machine is followed through the text of a value from any stack. Where a value may come, the text of a
plain value leads to the state in which this value is complete (`foldl_letters`); the induction is on the
value, with the items of an array and the members of an object. Around it, nothing is said of the stack, so
that the statement holds for a value in the middle of others just as for a whole document.
-/

namespace PowerLease.Json

/-! ## Plain values -/

namespace Value

mutual

/-- Whether a value is whole, its strings have a text, its keys are strings, and it has no numbers. -/
def isPlain : Value → Bool
  | .null | .bool _ => true
  | .string text => text.isSome
  | .array items ending => ending == .closed && arePlain items
  | .object members ending => ending == .closed && arePlainMembers members
  | .number _ | .broken => false

/-- Whether all values of a list are plain. -/
def arePlain : List Value → Bool
  | [] => true
  | v :: rest => isPlain v && arePlain rest

/-- Whether all members of an object have a string as key and a plain value. -/
def arePlainMembers : List (Value × Value) → Bool
  | [] => true
  | (.string text, v) :: rest => text.isSome && isPlain v && arePlainMembers rest
  | _ :: _ => false

end

end Value

/-! ## Strings -/

variable {stack : List Frame} {mayClose : Bool}

theorem hexDigit?_hexDigit {n : Nat} (h : n < 16) : hexDigit? (Text.hexDigit n) = some n := by
  have hall : ∀ n < 16, hexDigit? (Text.hexDigit n) = some n := by decide
  exact hall n h

theorem step_hex {c : Char} {d : Nat} (h : hexDigit? c = some d) (letters : Letters)
    (missing n : Nat) : State.step ⟨stack, .hex letters missing n⟩ c =
      if missing ≤ 1 then ⟨stack, .string (letters.pushUnit (n * 16 + d))⟩
      else ⟨stack, .hex letters (missing - 1) (n * 16 + d)⟩ := by
  simp only [State.step, h]

/-- A control character is read from its two digits. -/
theorem foldl_hex {c : Char} (h : c.toNat < 0x20) (read : List Char) :
    ['\\', 'u', '0', '0', Text.hexDigit (c.toNat / 16), Text.hexDigit (c.toNat % 16)].foldl State.step
      ⟨stack, .string { text := some read }⟩ = ⟨stack, .string { text := some (c :: read) }⟩ := by
  have hhigh : hexDigit? (Text.hexDigit (c.toNat / 16)) = some (c.toNat / 16) :=
    hexDigit?_hexDigit (by omega)
  have hlow : hexDigit? (Text.hexDigit (c.toNat % 16)) = some (c.toNat % 16) :=
    hexDigit?_hexDigit (by omega)
  have hcode : (0 * 16 + c.toNat / 16) * 16 + c.toNat % 16 = c.toNat := by omega
  have hunit : Letters.pushUnit { text := some read } c.toNat = { text := some (c :: read) } := by
    have hfirst : ¬0xD800 ≤ c.toNat := by omega
    have hsecond : ¬0xDC00 ≤ c.toNat := by omega
    simp [Letters.pushUnit, Letters.push, hfirst, hsecond, Char.ofNat_toNat]
  show State.step (State.step ⟨stack, .hex { text := some read } 2 0⟩ _) _ = _
  rw [step_hex hhigh, if_neg (by decide), step_hex hlow, if_pos (by decide), hcode, hunit]

/-- What a character of a string is written as, is read as this character. -/
theorem foldl_escapeChar (c : Char) (read : List Char) :
    (escapeChar c).foldl State.step ⟨stack, .string { text := some read }⟩ =
      ⟨stack, .string { text := some (c :: read) }⟩ := by
  unfold escapeChar
  split
  case h_8 hquote hbackslash _ _ _ _ _ =>
    split
    next hcontrol => exact foldl_hex hcontrol read
    next hprinted =>
      simp only [List.foldl_cons, List.foldl_nil, State.step, if_neg hquote, if_neg hbackslash,
        if_neg hprinted]
      rfl
  all_goals rfl

/-- A string is read to its closing quote. -/
theorem foldl_escapes (cs read : List Char) :
    (cs.flatMap escapeChar).foldl State.step ⟨stack, .string { text := some read }⟩ =
      ⟨stack, .string { text := some (cs.reverse ++ read) }⟩ := by
  induction cs generalizing read with
  | nil => rfl
  | cons c rest ih =>
    rw [List.flatMap_cons, List.foldl_append, foldl_escapeChar, ih, List.reverse_cons,
      List.append_assoc]
    rfl

/-! ## Where a value may come -/

/-- Only a bracket closes a frame. -/
theorem close_eq_none {c : Char} (harray : c ≠ ']') (hobject : c ≠ '}') : close c stack = none := by
  unfold close
  split
  · exact if_neg harray
  · exact if_neg hobject
  · rfl

/-- Any other character begins a value. -/
theorem step_value {c : Char} (hblank : isBlank c = false) (harray : c ≠ ']') (hobject : c ≠ '}') :
    State.step ⟨stack, .value mayClose⟩ c = begin c stack := by
  simp only [State.step, hblank, close_eq_none harray hobject, ite_self, Bool.false_eq_true, if_false]

theorem foldl_quote (s : String) :
    (quote s.toList).foldl State.step ⟨stack, .value mayClose⟩ = complete (.text s) stack := by
  rw [quote, List.foldl_cons, step_value (by decide) (by decide) (by decide), List.foldl_append]
  show List.foldl State.step
    ((s.toList.flatMap escapeChar).foldl State.step ⟨stack, .string { text := some [] }⟩) ['"'] = _
  rw [foldl_escapes, List.append_nil]
  show complete (Letters.value { text := some s.toList.reverse }) stack = _
  rw [Letters.value]
  simp only [Option.isSome_none, Bool.false_eq_true, if_false, Option.map_some, List.reverse_reverse,
    String.ofList_toList]
  rfl

/-- A member of an object is read if its value is. -/
theorem foldl_member {v : Value} (hv : ∀ (stack : List Frame) (mayClose : Bool),
    v.letters.foldl State.step ⟨stack, .value mayClose⟩ = complete v stack)
    (key : String) (before : List (Value × Value)) :
    (quote key.toList ++ ':' :: v.letters).foldl State.step ⟨.key before :: stack, .value mayClose⟩ =
      ⟨.key ((.text key, v) :: before) :: stack, .after⟩ := by
  rw [List.foldl_append, foldl_quote, List.foldl_cons]
  show v.letters.foldl State.step ⟨.member before (.text key) :: stack, .value false⟩ = _
  rw [hv]
  rfl

/-! ## Values -/

open Value in
mutual

/-- **Where a value may come, the text of a plain value leads to its end.** -/
theorem foldl_letters : ∀ v : Value, v.isPlain = true → ∀ (stack : List Frame) (mayClose : Bool),
    v.letters.foldl State.step ⟨stack, .value mayClose⟩ = complete v stack
  | .null, _, stack, mayClose => by
    rw [letters, show "null".toList = 'n' :: "ull".toList from rfl, List.foldl_cons,
      step_value (by decide) (by decide) (by decide)]
    rfl
  | .bool true, _, stack, mayClose => by
    rw [letters, show (toString true).toList = 't' :: "rue".toList from rfl, List.foldl_cons,
      step_value (by decide) (by decide) (by decide)]
    rfl
  | .bool false, _, stack, mayClose => by
    rw [letters, show (toString false).toList = 'f' :: "alse".toList from rfl, List.foldl_cons,
      step_value (by decide) (by decide) (by decide)]
    rfl
  | .string (some s), _, stack, mayClose => by
    rw [letters]
    exact foldl_quote s
  | .array [] .closed, _, stack, mayClose => by
    rw [letters, List.foldl_cons, step_value (by decide) (by decide) (by decide)]
    rfl
  | .array (v :: rest) .closed, h, stack, mayClose => by
    have hplain : arePlain (v :: rest) = true := by simpa [isPlain] using h
    rw [letters, List.foldl_cons, step_value (by decide) (by decide) (by decide), List.foldl_append]
    show List.foldl State.step ((commas (lettersOf (v :: rest))).foldl State.step
      ⟨.items [] :: stack, .value true⟩) [']'] = _
    rw [foldl_items (v :: rest) (List.cons_ne_nil v rest) hplain, List.append_nil]
    show complete (.array (v :: rest).reverse.reverse .closed) stack = _
    rw [List.reverse_reverse]
  | .object [] .closed, _, stack, mayClose => by
    rw [letters, List.foldl_cons, step_value (by decide) (by decide) (by decide)]
    rfl
  | .object (m :: rest) .closed, h, stack, mayClose => by
    have hplain : arePlainMembers (m :: rest) = true := by simpa [isPlain] using h
    rw [letters, List.foldl_cons, step_value (by decide) (by decide) (by decide), List.foldl_append]
    show List.foldl State.step ((commas (lettersOfMembers (m :: rest))).foldl State.step
      ⟨.key [] :: stack, .value true⟩) ['}'] = _
    rw [foldl_members (m :: rest) (List.cons_ne_nil m rest) hplain, List.append_nil]
    show complete (.object (m :: rest).reverse.reverse .closed) stack = _
    rw [List.reverse_reverse]

/-- So do the items of an array. -/
theorem foldl_items : ∀ items : List Value, items ≠ [] → arePlain items = true →
    ∀ (before : List Value) (stack : List Frame) (mayClose : Bool),
      (commas (lettersOf items)).foldl State.step ⟨.items before :: stack, .value mayClose⟩ =
        ⟨.items (items.reverse ++ before) :: stack, .after⟩
  | [v], _, h, before, stack, mayClose => by
    have hplain : v.isPlain = true := by simpa [arePlain] using h
    show v.letters.foldl State.step _ = _
    rw [foldl_letters v hplain]
    rfl
  | v :: w :: rest, _, h, before, stack, mayClose => by
    obtain ⟨hplain, hrest⟩ : v.isPlain = true ∧ arePlain (w :: rest) = true := by
      simpa [arePlain] using h
    show (v.letters ++ ',' :: commas (lettersOf (w :: rest))).foldl State.step _ = _
    rw [List.foldl_append, foldl_letters v hplain, List.foldl_cons]
    show (commas (lettersOf (w :: rest))).foldl State.step
      ⟨.items (v :: before) :: stack, .value false⟩ = _
    rw [foldl_items (w :: rest) (List.cons_ne_nil w rest) hrest]
    simp

/-- And the members of an object. -/
theorem foldl_members : ∀ members : List (Value × Value), members ≠ [] →
    arePlainMembers members = true →
      ∀ (before : List (Value × Value)) (stack : List Frame) (mayClose : Bool),
        (commas (lettersOfMembers members)).foldl State.step
          ⟨.key before :: stack, .value mayClose⟩ =
            ⟨.key (members.reverse ++ before) :: stack, .after⟩
  | [(.string (some key), v)], _, h, before, stack, mayClose => by
    have hplain : v.isPlain = true := by simpa [arePlainMembers] using h
    exact foldl_member (foldl_letters v hplain) key before
  | (.string (some key), v) :: m :: rest, _, h, before, stack, mayClose => by
    obtain ⟨hplain, hrest⟩ : v.isPlain = true ∧ arePlainMembers (m :: rest) = true := by
      simpa [arePlainMembers] using h
    show ((quote key.toList ++ ':' :: v.letters) ++
      ',' :: commas (lettersOfMembers (m :: rest))).foldl State.step _ = _
    rw [List.foldl_append, foldl_member (foldl_letters v hplain), List.foldl_cons]
    show (commas (lettersOfMembers (m :: rest))).foldl State.step
      ⟨.key ((.text key, v) :: before) :: stack, .value false⟩ = _
    rw [foldl_members (m :: rest) (List.cons_ne_nil m rest) hrest]
    simp [Value.text]

end

/-- **A plain document comes back from its text.** -/
theorem read_render {v : Value} (h : v.isPlain = true) : Document.read v.render = ⟨v, true⟩ := by
  rw [Document.read, Value.render, String.toList_ofList, State.start, foldl_letters v h]
  rfl

end PowerLease.Json
