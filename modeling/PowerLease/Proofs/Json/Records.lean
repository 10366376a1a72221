import PowerLease.Json.Decode

/-!
# What a record is read from

A record is read from an object or from an array, and the two directions of this are told here. What is
written by the names of its fields, in their order, is read as the record (`record_of_written`). And the
values of a record that is read are those that are given for its fields, or else their defaults
(`holds_of_record`).

Names of fields must be distinct for this: with one name for two fields, only the first would ever be read.

The members of an object come in any order. So what a draft holds after some of them is compared with what
these members give (`Tells`), which each further member preserves.
-/

namespace PowerLease.Json

/-- Whether no two fields have one name. -/
def Fields.areDistinct {ρ : Type} : Fields ρ → Bool
  | done => true
  | field name _ _ rest => !rest.knows name && rest.areDistinct

theorem Fields.areDistinct_field {α ρ : Type} {name : String} {decode : Decoder α} {default : Option α}
    {rest : Fields ρ} : (Fields.field name decode default rest).areDistinct = true ↔
      rest.knows name = false ∧ rest.areDistinct = true := by
  rw [areDistinct, Bool.and_eq_true, Bool.not_eq_true']

/-- The draft of a record whose first field holds a value or none. -/
def Fields.Draft.of {α ρ : Type} {name : String} {decode : Decoder α} {default : Option α}
    {rest : Fields ρ} (held : Option α) (others : rest.Draft) :
    (Fields.field name decode default rest).Draft :=
  (held, others)

/-! ## From a record to what is read -/

/-- Members that give a record by the names of its fields, in their order. -/
inductive Fields.Written : {ρ : Type} → Fields ρ → ρ → List (String × Value) → Prop
  | done : Written done () []
  | field {α ρ : Type} {name : String} {decode : Decoder α} {default : Option α} {rest : Fields ρ}
      {v : Value} {a : α} {r : ρ} {members : List (String × Value)} (hv : decode v = .ok a)
      (hrest : Written rest r members) :
      Written (field name decode default rest) (a, r) ((name, v) :: members)

/-- The members of an object by their names. -/
def named (members : List (String × Value)) : List (Value × Value) :=
  members.map fun m => (.text m.1, m.2)

/-- Members that give a record have names of its fields. -/
theorem Fields.Written.knows {ρ : Type} {fields : Fields ρ} {r : ρ}
    {members : List (String × Value)} (h : fields.Written r members) :
    ∀ m ∈ members, fields.knows m.1 = true := by
  induction h with
  | done => exact fun _ hm => absurd hm List.not_mem_nil
  | field _ _ ih =>
    intro m hm
    rw [Fields.knows, Bool.or_eq_true, beq_iff_eq]
    rcases List.mem_cons.mp hm with rfl | hm
    · exact .inl rfl
    · exact .inr (ih m hm)

section

variable {α ρ : Type} {own : String} {decode : Decoder α} {default : Option α} {rest : Fields ρ}

/-- A member of another name leaves a field alone. -/
theorem putMember_other {name : String} (h : own ≠ name) (held : Option α) (others : rest.Draft)
    (v : Value) :
    (Fields.field own decode default rest).putMember (.of held others) (.text name, v) =
      (rest.putMember others (.text name, v)).map (Fields.Draft.of held) := by
  have hknows : (Fields.field own decode default rest).knows name = rest.knows name := by
    rw [Fields.knows, beq_false_of_ne h, Bool.false_or]
  have hput : (Fields.field own decode default rest).put name v (.of held others) =
      (rest.put name v others).map (Fields.Draft.of held) := if_neg h
  simp only [Fields.putMember, Value.text, hknows, hput]
  split
  · rfl
  · cases ignored v <;> rfl

/-- So do some of them. -/
theorem foldlM_putMember_other {members : List (String × Value)} (h : ∀ m ∈ members, own ≠ m.1)
    (held : Option α) (others : rest.Draft) :
    (named members).foldlM (Fields.field own decode default rest).putMember (.of held others) =
      ((named members).foldlM rest.putMember others).map (Fields.Draft.of held) := by
  induction members generalizing others with
  | nil => rfl
  | cons m members ih =>
    rw [named, List.map_cons, List.foldlM_cons, List.foldlM_cons,
      putMember_other (h m List.mem_cons_self)]
    cases rest.putMember others (.text m.1, m.2) with
    | error e => rfl
    | ok others => exact ih (fun n hn => h n (List.mem_cons_of_mem m hn)) others

/-- The member of its own name fills a field. -/
theorem putMember_own {a : α} {v : Value} (h : decode v = .ok a) (others : rest.Draft) :
    (Fields.field own decode default rest).putMember (.of none others) (.text own, v) =
      .ok (.of (some a) others) := by
  have hknows : (Fields.field own decode default rest).knows own = true := by
    rw [Fields.knows, beq_self_eq_true, Bool.true_or]
  have hput : (Fields.field own decode default rest).put own v (.of none others) =
      (decode v).map fun a => .of (some a) others := if_pos rfl
  simp only [Fields.putMember, Value.text, hknows, hput, h, if_true]
  rfl

end

/-- Members that give a record fill a draft of it. -/
theorem exists_draft {ρ : Type} {fields : Fields ρ} (hdistinct : fields.areDistinct = true) {r : ρ}
    {members : List (String × Value)} (h : fields.Written r members) :
    ∃ draft, (named members).foldlM fields.putMember fields.blank = .ok draft ∧
      fields.finish draft = .ok r := by
  induction h with
  | done => exact ⟨(), rfl, rfl⟩
  | @field _ _ own decode default rest v a r others hv hrest ih =>
    obtain ⟨hown, hdistinct⟩ := Fields.areDistinct_field.mp hdistinct
    obtain ⟨draft, hdraft, hfinish⟩ := ih hdistinct
    -- the members behind are read as if this field were not there
    have hother : ∀ m ∈ others, own ≠ m.1 := by
      intro m hm heq
      rw [heq, hrest.knows m hm] at hown
      exact absurd hown (by decide)
    refine ⟨.of (some a) draft, ?_, ?_⟩
    · show ((Fields.field own decode default rest).putMember (.of none rest.blank)
        (.text own, v)).bind _ = _
      rw [putMember_own hv]
      show (named others).foldlM _ _ = _
      rw [foldlM_putMember_other hother, hdraft]
      rfl
    · show (rest.finish draft).bind (fun others => .ok (a, others)) = _
      rw [hfinish]
      rfl

/-- **A record comes back from what gives it by its names.** -/
theorem record_of_written {ρ : Type} {fields : Fields ρ} (hdistinct : fields.areDistinct = true)
    {r : ρ} {members : List (String × Value)} (h : fields.Written r members) (name : String) :
    record name fields (.record members) = .ok r := by
  obtain ⟨draft, hdraft, hfinish⟩ := exists_draft hdistinct h
  show ((named members).foldlM fields.putMember fields.blank).bind _ = _
  rw [hdraft]
  exact hfinish

/-! ## From what is read to a record -/

/-- Whether a key of an object is a name. -/
def Value.isName (name : String) : Value → Bool
  | .string (some s) => s == name
  | _ => false

/-- The value under a name, the first one if there are several. -/
def valueOf (name : String) (members : List (Value × Value)) : Option Value :=
  (members.find? fun m => m.1.isName name).map Prod.snd

/-- What a value gives for the field of a name and a place. -/
def Value.given (name : String) (place : Nat) : Value → Option Value
  | .object members _ => valueOf name members
  | .array items _ => items[place]?
  | _ => none

/-- Whether the values of a record are those that are given, or the defaults where none is. The places
of its fields are counted from `place`. -/
def Fields.Holds {ρ : Type} (given : String → Nat → Option Value) : Fields ρ → Nat → ρ → Prop
  | done, _, _ => True
  | field name decode default rest, place, r =>
    (∀ v, given name place = some v → decode v = .ok r.1) ∧
      (given name place = none → default = some r.1) ∧ rest.Holds given (place + 1) r.2

/-- Whether a draft holds what some members give. -/
def Fields.Tells {ρ : Type} (members : List (Value × Value)) : (fields : Fields ρ) → fields.Draft → Prop
  | done, _ => True
  | field (α := α) name decode _ rest, draft =>
    (valueOf name members).mapM decode = .ok (show Option α from draft.1) ∧ rest.Tells members draft.2

section

variable {ρ : Type} {members : List (Value × Value)}

/-- One more member counts where none before it has the name. -/
theorem valueOf_append_singleton (own name : String) (v : Value) :
    valueOf own (members ++ [(.text name, v)]) =
      (valueOf own members).or (if own = name then some v else none) := by
  have hlast : ([(Value.text name, v)].find? fun m => m.1.isName own).map Prod.snd =
      if own = name then some v else none := by
    by_cases h : own = name
    · simp [Value.isName, Value.text, h]
    · simp [Value.isName, Value.text, h, Ne.symm h]
  rw [valueOf, List.find?_append, Option.map_or, hlast]
  rfl

/-- A name that no field has is passed over. -/
theorem put_of_not_knows {fields : Fields ρ} {name : String} (h : fields.knows name = false)
    (v : Value) (draft : fields.Draft) : fields.put name v draft = .ok draft := by
  induction fields with
  | done => rfl
  | field own decode default rest ih =>
    obtain ⟨hown, hrest⟩ : ¬own = name ∧ rest.knows name = false := by
      simpa [Fields.knows] using h
    show (if own = name then _ else (rest.put name v draft.2).map (Fields.Draft.of draft.1)) = _
    rw [if_neg hown, ih hrest]
    rfl

/-- What one more member gives is held after it is read. -/
theorem tells_put {fields : Fields ρ} (hdistinct : fields.areDistinct = true)
    {draft after : fields.Draft} (htells : fields.Tells members draft) {name : String} {v : Value}
    (h : fields.put name v draft = .ok after) :
    fields.Tells (members ++ [(.text name, v)]) after := by
  induction fields with
  | done => trivial
  | @field α _ own decode default rest ih =>
    obtain ⟨hown, hdistinct⟩ := Fields.areDistinct_field.mp hdistinct
    obtain ⟨held, others⟩ := draft
    obtain ⟨hheld, hothers⟩ : (valueOf own members).mapM decode = .ok held ∧
      rest.Tells members others := htells
    by_cases heq : own = name
    · -- the field is not filled yet, so no member before has its name
      subst heq
      have hput : (if held.isSome then refuse (.duplicateField own) else
          (decode v).map fun a => (some a, others)) = Except.ok after := by
        rw [← h]
        exact (if_pos rfl).symm
      cases hvalue : valueOf own members with
      | some w =>
        rw [hvalue] at hheld
        obtain ⟨a, -, ha⟩ := exists_of_map_eq_ok hheld
        rw [← ha] at hput
        exact nomatch hput
      | none =>
        rw [hvalue] at hheld
        rw [← Except.ok.inj hheld] at hput
        obtain ⟨a, ha, rfl⟩ := exists_of_map_eq_ok hput
        refine ⟨?_, ih hdistinct hothers (put_of_not_knows hown v others)⟩
        rw [valueOf_append_singleton, hvalue, if_pos rfl]
        show (decode v).map some = .ok (some a)
        rw [ha]
        rfl
    · have hput : (rest.put name v others).map (Fields.Draft.of held) = .ok after := by
        rw [← h]
        exact (if_neg heq).symm
      obtain ⟨others', hothers', rfl⟩ := exists_of_map_eq_ok hput
      refine ⟨?_, ih hdistinct hothers hothers'⟩
      rw [valueOf_append_singleton, if_neg heq, Option.or_none]
      exact hheld

/-- So it is after a member is read, whether or not a field has its name. -/
theorem tells_putMember {fields : Fields ρ} (hdistinct : fields.areDistinct = true)
    {draft after : fields.Draft} (htells : fields.Tells members draft) {m : Value × Value}
    (h : fields.putMember draft m = .ok after) : fields.Tells (members ++ [m]) after := by
  obtain ⟨key, v⟩ := m
  unfold Fields.putMember at h
  split at h
  case h_1 name hkey =>
    rw [show key = .text name from hkey]
    by_cases hknows : fields.knows name = true
    · rw [if_pos hknows] at h
      exact tells_put hdistinct htells h
    · rw [if_neg hknows] at h
      obtain ⟨_, _, rfl⟩ := exists_of_map_eq_ok h
      exact tells_put hdistinct htells (put_of_not_knows (Bool.not_eq_true _ ▸ hknows) v draft)
  case h_2 => exact nomatch h

/-- And after all members. -/
theorem tells_foldlM {fields : Fields ρ} (hdistinct : fields.areDistinct = true)
    {draft after : fields.Draft} {before : List (Value × Value)} (htells : fields.Tells before draft)
    (h : members.foldlM fields.putMember draft = .ok after) : fields.Tells (before ++ members) after := by
  induction members generalizing draft before with
  | nil =>
    rw [List.append_nil, ← Except.ok.inj h]
    exact htells
  | cons m members ih =>
    rw [List.foldlM_cons] at h
    obtain ⟨next, hnext, h⟩ := exists_of_bind_eq_ok h
    rw [List.append_cons]
    exact ih (tells_putMember hdistinct htells hnext) h

/-- The blank draft holds what no members give. -/
theorem tells_blank (fields : Fields ρ) : fields.Tells [] fields.blank := by
  induction fields with
  | done => trivial
  | field own decode default rest ih => exact ⟨rfl, ih⟩

/-- The record that a draft ends in. -/
theorem holds_of_finish {fields : Fields ρ} {draft : fields.Draft} (htells : fields.Tells members draft)
    {r : ρ} (h : fields.finish draft = .ok r) (place : Nat) :
    fields.Holds (fun name _ => valueOf name members) place r := by
  induction fields generalizing place with
  | done => trivial
  | @field α _ own decode default rest ih =>
    obtain ⟨held, others⟩ := draft
    obtain ⟨hheld, hothers⟩ : (valueOf own members).mapM decode = .ok held ∧
      rest.Tells members others := htells
    simp only [Fields.finish] at h
    split at h
    next => cases h
    next a hfilled =>
      obtain ⟨others', hothers', hr⟩ := exists_of_bind_eq_ok h
      obtain rfl := Except.ok.inj hr
      refine ⟨?_, ?_, ih hothers hothers' (place + 1)⟩
      · intro v (hv : valueOf own members = some v)
        rw [hv] at hheld
        obtain ⟨b, hb, rfl⟩ := exists_of_map_eq_ok hheld
        rw [hb, ← Option.some.inj hfilled]
      · intro (hnone : valueOf own members = none)
        rw [hnone] at hheld
        rw [← hfilled, ← Except.ok.inj hheld]
        rfl

/-- The record of an array. -/
theorem holds_of_fill {fields : Fields ρ} {expected : String} {ending : Ending} {before : Nat}
    {items : List Value} {given : String → Nat → Option Value} {place : Nat}
    (hgiven : ∀ name k, given name (place + k) = items[k]?) {r : ρ}
    (h : fields.fill expected ending before items = .ok r) : fields.Holds given place r := by
  induction fields generalizing place before items with
  | done => trivial
  | field own decode default rest ih =>
    have hfirst : given own place = items[0]? := hgiven own 0
    -- what is given from the next place on are the items behind the first one
    have hnext : ∀ name k, given name (place + 1 + k) = items[k + 1]? := by
      intro name k
      rw [Nat.add_assoc, Nat.add_comm 1, hgiven]
    unfold Fields.fill at h
    cases items with
    | nil =>
      obtain ⟨_, _, h⟩ := exists_of_bind_eq_ok h
      cases default with
      | none => exact nomatch h
      | some a =>
        obtain ⟨others, hothers, hr⟩ := exists_of_bind_eq_ok h
        obtain rfl := Except.ok.inj hr
        refine ⟨?_, fun _ => rfl, ih hnext hothers⟩
        intro v hv
        exact nomatch hfirst.symm.trans hv
    | cons v items =>
      obtain ⟨a, ha, h⟩ := exists_of_bind_eq_ok h
      obtain ⟨others, hothers, hr⟩ := exists_of_bind_eq_ok h
      obtain rfl := Except.ok.inj hr
      refine ⟨?_, ?_, ih hnext hothers⟩
      · intro w hw
        obtain rfl := Option.some.inj (hfirst.symm.trans hw)
        exact ha
      · intro hnone
        exact nomatch hfirst.symm.trans hnone

/-- **The values of a record that is read are those that are given for its fields, or the defaults.** -/
theorem holds_of_record {fields : Fields ρ} (hdistinct : fields.areDistinct = true) {name : String}
    {v : Value} {r : ρ} (h : record name fields v = .ok r) :
    fields.Holds (fun name place => v.given name place) 0 r := by
  unfold record at h
  split at h
  case h_1 members ending =>
    obtain ⟨draft, hdraft, h⟩ := exists_of_bind_eq_ok h
    obtain ⟨_, _, h⟩ := exists_of_bind_eq_ok h
    exact holds_of_finish (tells_foldlM hdistinct (tells_blank fields) hdraft) h 0
  case h_2 items ending =>
    refine holds_of_fill (fun name k => ?_) h
    rw [Nat.zero_add]
    rfl
  case h_3 =>
    obtain ⟨_, _, h⟩ := exists_of_bind_eq_ok h
    exact nomatch h

end

end PowerLease.Json
