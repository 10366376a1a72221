import PowerLease.Proofs.Interleaving.Journal

/-!
# Flags of a session

A session has five flags, and most of their combinations never arise. A session is without token exactly
if it is ended, and its holder is told that the servers are off only after its end was announced.

Along an interleaving the flags go one way. The end of a session, and that its holder was told that the
servers are on or off, are never taken back. An announcement falls due again only with the end itself, and
a warning only with an extension. Once a session is ended, nothing changes any more but what the lifecycle
has still to tell (`Session.Becomes`).
-/

namespace PowerLease

/-- What a session `s'` keeps of the session `s` that it was earlier. -/
structure Session.Becomes (s s' : Session) : Prop where
  sameLease : s.SameLease s'
  ended : s.ended = true → s'.ended = true
  readyTold : s.readyTold = true → s'.readyTold = true
  offTold : s.offTold = true → s'.offTold = true
  frozen : s.ended = true → s'.token = s.token ∧ s'.expiry = s.expiry ∧ s'.warned = s.warned ∧
    s'.readyTold = s.readyTold

namespace Session.Becomes

variable {r s t : Session}

theorem refl (s : Session) : s.Becomes s :=
  ⟨.refl s, fun h => h, fun h => h, fun h => h, fun _ => ⟨rfl, rfl, rfl, rfl⟩⟩

theorem trans (h : r.Becomes s) (h' : s.Becomes t) : r.Becomes t := by
  refine ⟨h.sameLease.trans h'.sameLease, fun hr => h'.ended (h.ended hr),
    fun hr => h'.readyTold (h.readyTold hr), fun hr => h'.offTold (h.offTold hr), fun hr => ?_⟩
  obtain ⟨htoken, hexpiry, hwarned, hready⟩ := h.frozen hr
  obtain ⟨htoken', hexpiry', hwarned', hready'⟩ := h'.frozen (h.ended hr)
  exact ⟨htoken'.trans htoken, hexpiry'.trans hexpiry, hwarned'.trans hwarned, hready'.trans hready⟩

/-- Where a session is live, nothing is frozen yet. -/
theorem of_live (hlive : s.ended = false) (hsame : s.SameLease t)
    (hready : s.readyTold = true → t.readyTold = true)
    (hoff : s.offTold = true → t.offTold = true) : s.Becomes t := by
  have hnot : s.ended = true → False := fun hended =>
    Bool.false_ne_true (hlive.symm.trans hended)
  exact ⟨hsame, fun h => (hnot h).elim, hready, hoff, fun h => (hnot h).elim⟩

end Session.Becomes

namespace Transaction.Makes

variable {t : Transaction} {c : Catalog} {s s' : Session}

/-- A session that has a token is live. -/
theorem live_of_token (hc : c.Consistent) (hs : s ∈ c.sessions) {token : String}
    (htoken : s.token = some token) : s.ended = false := by
  refine eq_false_of_ne_true fun hended => ?_
  rw [(hc.token_eq_none_iff s hs).mpr hended] at htoken
  exact nomatch htoken

theorem becomes (h : Makes s t s') (hc : c.Consistent) (hs : s ∈ c.sessions) : s.Becomes s' := by
  cases h with
  | same => exact .refl s
  | extended htoken =>
    exact .of_live (live_of_token hc hs htoken) ⟨rfl, rfl, rfl, rfl⟩ (fun h => h) fun h => h
  | ended _ hlive => exact .of_live hlive ⟨rfl, rfl, rfl, rfl⟩ (fun h => h) fun h => h
  | warned _ _ hlive => exact .of_live hlive ⟨rfl, rfl, rfl, rfl⟩ (fun h => h) fun h => h
  | toldReady _ hlive => exact .of_live hlive ⟨rfl, rfl, rfl, rfl⟩ (fun _ => rfl) fun h => h
  | announced =>
    exact ⟨⟨rfl, rfl, rfl, rfl⟩, fun h => h, fun h => h, fun h => h, fun _ => ⟨rfl, rfl, rfl, rfl⟩⟩
  | toldOff =>
    exact ⟨⟨rfl, rfl, rfl, rfl⟩, fun h => h, fun h => h, fun _ => rfl, fun _ => ⟨rfl, rfl, rfl, rfl⟩⟩

/-- An announcement falls due again only with the end of the session. -/
theorem ends_of_unannounced (h : Makes s t s') (hdone : s.unannounced = false)
    (hdue : s'.unannounced = true) : s.ended = false ∧ s'.ended = true := by
  cases h with
  | ended _ hlive => exact ⟨hlive, rfl⟩
  | announced => exact absurd hdue Bool.false_ne_true
  | same | extended | warned | toldOff | toldReady =>
    exact absurd (hdone.symm.trans hdue) Bool.false_ne_true

/-- A warning is taken back only by an extension. -/
theorem extends_of_not_warned (h : Makes s t s') (hwarned : s.warned = true)
    (hnot : s'.warned = false) : ∃ token expiry now, t = .extendSession token expiry now ∧
      s.token = some token ∧ now < s.expiry ∧ s' = s.extend expiry := by
  cases h with
  | extended htoken hnow => exact ⟨_, _, _, rfl, htoken, hnow, rfl⟩
  | warned => exact absurd hnot.symm Bool.false_ne_true
  | same | ended | announced | toldOff | toldReady =>
    exact absurd (hnot.symm.trans hwarned) Bool.false_ne_true

end Transaction.Makes

/-- The session that an extension answers is the one that it has extended. -/
theorem Catalog.Consistent.extendSession_eq {c : Catalog} (hc : c.Consistent) {s : Session}
    (hs : s ∈ c.sessions) {token : String} {expiry now : Int} (htoken : s.token = some token)
    (hnow : now < s.expiry) : (c.extendSession token expiry now).1 = .ok (s.extend expiry) := by
  rcases c.extendSession_cases token expiry now with ⟨hmiss, -⟩ | ⟨r, hr, hrtoken, -, hrun⟩
  · exact absurd (hmiss s hs htoken) (Int.not_le.mpr hnow)
  · rw [hrun, hc.session_eq_of_token hr hs hrtoken htoken]

namespace Interleaving

variable {journal before since : Journal} {e : Entry} {p c : Catalog} {s s' : Session}

/-- A row with the id of a session that was there earlier has become of it. -/
theorem becomes (hp : Interleaving before p) (hs : s ∈ p.sessions)
    (hc : Interleaving (since ++ before) c) (hs' : s' ∈ c.sessions) (hid : s'.id = s.id) :
    s.Becomes s' := by
  have hstart : ∀ r ∈ p.sessions, r.id = s.id → s.Becomes r := by
    intro r hr hrid
    rw [hp.consistent.session_eq_of_id hr hs hrid]
    exact .refl s
  refine since_induct (P := fun _ d => ∀ r ∈ d.sessions, r.id = s.id → s.Becomes r) hp hstart
    (fun since d t hd ih r' hr' hid' => ?_) hc s' hs' hid
  obtain ⟨r, hr, hrid, hmakes⟩ := hp.exists_makes hd hs hr' hid'
  exact (ih r hr hrid).trans (hmakes.becomes hd.consistent hr)

/-- What a transaction makes of a session, told from the rows before and after it. -/
theorem makes_of_id (h : Interleaving journal c) (he : e ∈ journal) (hs : s ∈ e.met.sessions)
    (hs' : s' ∈ (e.did.run e.met).sessions) (hid : s'.id = s.id) :
    Transaction.Makes s e.did s' := by
  obtain ⟨-, before, -, hmet, -⟩ := h.exists_before he
  obtain ⟨r, hr, hrid, hmakes⟩ :=
    hmet.exists_makes (show Interleaving ([] ++ before) e.met from hmet) hs hs' hid
  rwa [hmet.consistent.session_eq_of_id hr hs hrid] at hmakes

/-- Who is told that the servers are off, was told before that the session has ended. -/
theorem announced_of_offTold (h : Interleaving journal c) :
    ∀ s ∈ c.sessions, s.offTold = true → s.ended = true ∧ s.unannounced = false := by
  induction journal generalizing c with
  | nil =>
    rw [h.unique .start]
    exact fun s hs => absurd hs List.not_mem_nil
  | cons e rest ih =>
    obtain ⟨d, t⟩ := e
    obtain ⟨hrest, rfl⟩ := h.of_cons
    intro s' hs' htold
    rcases Transaction.mem_sessions_run.mp hs' with ⟨s, hs, hstep⟩ | hopened
    · cases Transaction.makes_of_onSession hstep with
      | toldOff hid hended =>
        -- the reading that this was decided on had the end announced
        obtain ⟨since, before, p, rfl, hp, hdecides⟩ := h.exists_reading rfl
        cases hdecides with
        | tellOff hread =>
          obtain ⟨hmem, hreadEnded, hdone, -⟩ := Catalog.mem_sessionsToClean.mp hread
          have hsince := hp.session_since hmem hrest hs hid
          exact ⟨hended, hsince.announced hreadEnded hdone⟩
      | ended _ hlive =>
        have hended := (ih hrest s hs htold).1
        exact absurd (hlive.symm.trans hended) Bool.false_ne_true
      | announced => exact ⟨(ih hrest s hs htold).1, rfl⟩
      | same => exact ih hrest _ hs htold
      | extended | warned | toldReady => exact ih hrest s hs htold
    · obtain ⟨request, now, -, rfl⟩ := Transaction.eq_of_mem_opens hopened
      exact absurd htold Bool.false_ne_true

end Interleaving

/-- **The flags of a session, at any time and along any interleaving.** Which combinations there are; what
a session keeps from any earlier time on; and which transactions alone let an announcement fall due again
or take a warning back. -/
theorem flags_of_interleaving {journal : Journal} {c : Catalog} (h : Interleaving journal c) :
    (∀ s ∈ c.sessions, (s.token = none ↔ s.ended = true) ∧
      (s.offTold = true → s.ended = true ∧ s.unannounced = false)) ∧
    (c.sessions.filterMap Session.token).Nodup ∧
    (∀ since before p, journal = since ++ before → Interleaving before p →
      ∀ s ∈ p.sessions, ∀ s' ∈ c.sessions, s'.id = s.id →
        (s'.user = s.user ∧ s'.email = s.email ∧ s'.group = s.group) ∧
        (s.ended = true → s'.ended = true) ∧ (s.readyTold = true → s'.readyTold = true) ∧
        (s.offTold = true → s'.offTold = true) ∧
        (s.ended = true → s'.token = s.token ∧ s'.expiry = s.expiry ∧ s'.warned = s.warned ∧
          s'.readyTold = s.readyTold)) ∧
    ∀ e ∈ journal, ∀ s ∈ e.met.sessions, ∀ s' ∈ (e.did.run e.met).sessions, s'.id = s.id →
      (s.unannounced = false → s'.unannounced = true → s.ended = false ∧ s'.ended = true) ∧
      (s.warned = true → s'.warned = false → ∃ token expiry now,
        e.did = .extendSession token expiry now ∧
        (e.met.extendSession token expiry now).1 = .ok s') := by
  refine ⟨fun s hs => ⟨?_, ?_⟩, h.consistent.tokens, ?_, ?_⟩
  · exact h.consistent.token_eq_none_iff s hs
  · exact h.announced_of_offTold s hs
  · rintro since before p rfl hp s hs s' hs' hid
    have hbecomes := hp.becomes hs h hs' hid
    have hsame := hbecomes.sameLease
    exact ⟨⟨hsame.user.symm, hsame.email.symm, hsame.group.symm⟩, hbecomes.ended, hbecomes.readyTold,
      hbecomes.offTold, hbecomes.frozen⟩
  · intro e he s hs s' hs' hid
    have hmakes := h.makes_of_id he hs hs' hid
    refine ⟨hmakes.ends_of_unannounced, fun hwarned hnot => ?_⟩
    obtain ⟨token, expiry, now, hdid, htoken, hnow, rfl⟩ := hmakes.extends_of_not_warned hwarned hnot
    obtain ⟨-, before, -, hmet, -⟩ := h.exists_before he
    exact ⟨token, expiry, now, hdid, hmet.consistent.extendSession_eq hs htoken hnow⟩

/-- Given back, a lease is without token, and it is still the lease that it was. -/
theorem flags_of_interleaving_givenBack :
    leasedSession.end ∈ ((Transaction.endByToken "digest" 10).run leased).sessions ∧
      (leasedSession.end.token = none ↔ leasedSession.end.ended = true) ∧
      leasedSession.end.email = leasedSession.email := by
  obtain ⟨before, hp⟩ := interleaving_leased
  have hc : Interleaving ([⟨leased, .endByToken "digest" 10⟩] ++ before)
      ((Transaction.endByToken "digest" 10).run leased) := .others _ hp rfl
  have hmem : leasedSession.end ∈ ((Transaction.endByToken "digest" 10).run leased).sessions := by
    decide
  obtain ⟨hflags, -, hkept, -⟩ := flags_of_interleaving hc
  refine ⟨hmem, (hflags _ hmem).1, ?_⟩
  exact (hkept _ before leased rfl hp leasedSession (by decide) _ hmem rfl).1.2.1

end PowerLease
