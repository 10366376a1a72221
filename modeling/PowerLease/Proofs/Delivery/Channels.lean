import PowerLease.Proofs.Delivery.Fates

/-!
# What the front door lets in can be delivered

A config is judged once, when its user sets it (`Registry.choose`), and read anew at each delivery. The
two are different code: the judgement asks for more than a delivery does, and looks at fields trimmed
where a delivery takes them as they stand. Here it is shown for each channel of the network that what it
judges well it can deliver with: a delivery then comes to nothing only by what lies outside, a network or
a relay that does not take it (`Channel.Keeps`).

If all settings came in through the front door, then all that are stored were judged well, and so was
every config that a round has in hand. So nothing is ever dropped, and no config ever fails
(`routable_of_frontDoor`).

A message is dated by the clock. A time that has no date, before 1970 or after the year 9999, ends the
worker; no other delivery does.
-/

namespace PowerLease

/-! ## Outcomes -/

/-- Whether a fault lies outside: with a network, or with what is reached over it. -/
def ChannelFault.isOutside : ChannelFault → Bool
  | request | api _ _ | smtp => true
  | invalidConfig _ | unsupported _ | store _ => false

/-- The outcomes at a time of a delivery with which nothing is wrong but what lies outside. -/
inductive Delivery.Carried (now : Int) : Except (Halt ChannelFault) Unit → Prop
  | delivered : Carried now (.ok ())
  | refused {fault : ChannelFault} (h : fault.isOutside = true) : Carried now (refuse fault)
  | undated (h : Calendar.messageDate? now = none) : Carried now abort

open Delivery (Carried)

variable {ν : Type}

/-- Whether a channel can deliver with every config that it judges well, whatever is to be told. -/
def Channel.Keeps (channel : Channel ν) : Prop :=
  ∀ config, channel.validate config = .ok () →
    ∀ title message now network, Carried now (channel.send ⟨title, message, config, now⟩ network).1

/-! ## The channels of the network -/

section

variable [Network ν]

/-- Posting comes to nothing only by what lies outside. -/
theorem Network.carried_postJson (now : Int) (address : String) (body : Json.Value) (network : ν) :
    Carried now (postJson address body network).1 := by
  unfold postJson
  split
  · split
    next => exact .refused rfl
    next reply _ _ =>
      show Carried now (if reply.isSuccess then _ else _)
      split
      · exact .delivered
      · exact .refused rfl
  · exact .refused rfl

theorem Telegram.keeps (base : String) : (Telegram.channel base : Channel ν).Keeps := by
  intro config hvalid title message now network
  obtain ⟨t, hread, -⟩ := exists_of_bind_eq_ok hvalid
  show Carried now (Telegram.send base ⟨title, message, config, now⟩ network).1
  rw [Telegram.send, hread]
  exact Network.carried_postJson now _ _ network

theorem Teams.keeps : (Teams.channel : Channel ν).Keeps := by
  intro config hvalid title message now network
  obtain ⟨t, hread, -⟩ := exists_of_bind_eq_ok hvalid
  show Carried now (Teams.send ⟨title, message, config, now⟩ network).1
  rw [Teams.send, hread]
  exact Network.carried_postJson now _ _ network

/-- A config that is judged well has two mailboxes. -/
theorem Email.mailboxes_of_check {e : Email} (h : e.check = .ok ()) :
    ∃ sender recipient, Email.mailbox "from" e.sender = .ok sender ∧
      Email.mailbox "to" e.to = .ok recipient := by
  have hmailboxes : ((Email.mailbox "to" e.to).bind fun _ =>
      (Email.mailbox "from" e.sender).bind fun _ => .ok ()) = .ok () := by
    obtain ⟨_, -, h⟩ := exists_of_bind_eq_ok h
    by_cases hgate : e.gate = 0
    · rw [if_pos hgate] at h
      exact nomatch h
    · rw [if_neg hgate] at h
      obtain ⟨_, -, h⟩ := exists_of_bind_eq_ok h
      obtain ⟨_, -, h⟩ := exists_of_bind_eq_ok h
      by_cases hauth : e.auth = true
      · rw [if_pos hauth] at h
        obtain ⟨_, -, h⟩ := exists_of_bind_eq_ok h
        obtain ⟨_, -, h⟩ := exists_of_bind_eq_ok h
        exact h
      · rw [if_neg hauth] at h
        exact h
  obtain ⟨recipient, hrecipient, h⟩ := exists_of_bind_eq_ok hmailboxes
  obtain ⟨sender, hsender, -⟩ := exists_of_bind_eq_ok h
  exact ⟨sender, recipient, hsender, hrecipient⟩

/-- With two mailboxes, a notice becomes a message if the time has a date. -/
theorem Email.letter_of_mailboxes {e : Email} {sender recipient : Mailbox}
    (hsender : Email.mailbox "from" e.sender = .ok sender)
    (hrecipient : Email.mailbox "to" e.to = .ok recipient) (title body : String) (now : Int) :
    (∃ message, e.letter title body now = .ok message) ∨
      e.letter title body now = abort ∧ Calendar.messageDate? now = none := by
  rw [Email.letter, hsender, hrecipient]
  cases hdate : Calendar.messageDate? now with
  | none => exact Or.inr ⟨rfl, rfl⟩
  | some date => exact Or.inl ⟨_, rfl⟩

/-- Handing a message to a relay comes to nothing only by what lies outside. -/
theorem Email.carried_submit (now : Int) (taken : Bool) :
    Carried now (if taken then .ok () else refuse .smtp) := by
  cases taken with
  | true => exact .delivered
  | false => exact .refused rfl

theorem Email.keeps : (Email.channel : Channel ν).Keeps := by
  intro config hvalid title message now network
  obtain ⟨e, hread, hcheck⟩ := exists_of_bind_eq_ok hvalid
  obtain ⟨sender, recipient, hsender, hrecipient⟩ := Email.mailboxes_of_check hcheck
  show Carried now (Email.send ⟨title, message, config, now⟩ network).1
  rcases Email.letter_of_mailboxes hsender hrecipient title message now with
    ⟨letter, hletter⟩ | ⟨hletter, hdate⟩
  · simp only [Email.send, hread, hletter, bind, Except.bind, pure, Except.pure]
    exact Email.carried_submit now _
  · simp only [Email.send, hread, hletter, bind, Except.bind, pure, Except.pure]
    exact .undated hdate

end

/-! ## Registries -/

namespace Registry

variable {r : Registry ν} {type config : String}

/-- Whether notices for a config can be brought to a channel of its type, whatever is to be told. -/
def Carries (r : Registry ν) (type config : String) : Prop :=
  ∃ channel, r.find? type = some channel ∧
    ∀ title message now network, Carried now (channel.send ⟨title, message, config, now⟩ network).1

/-- Whether all channels of a registry can deliver with what they judge well. -/
def Keeps (r : Registry ν) : Prop := ∀ channel ∈ r.channels, channel.Keeps

theorem Keeps.carries (h : r.Keeps) (hvalid : r.validate type config = .ok ()) :
    r.Carries type config := by
  unfold validate at hvalid
  cases hfind : r.find? type with
  | none =>
    rw [hfind] at hvalid
    exact nomatch hvalid
  | some channel =>
    rw [hfind] at hvalid
    exact ⟨channel, hfind, h channel (List.mem_of_find?_eq_some hfind) config hvalid⟩

theorem mem_of_mem_place {c d : Channel ν} {cs : List (Channel ν)} (h : d ∈ place c cs) :
    d = c ∨ d ∈ cs := by
  induction cs with
  | nil => exact Or.inl (List.mem_singleton.mp h)
  | cons e rest ih =>
    unfold place at h
    split at h
    · exact List.mem_cons.mp h
    · split at h
      · exact (List.mem_cons.mp h).imp_right (List.mem_cons_of_mem e)
      · rcases List.mem_cons.mp h with rfl | h
        · exact Or.inr List.mem_cons_self
        · exact (ih h).imp_right (List.mem_cons_of_mem e)

theorem keeps_ofChannels {cs : List (Channel ν)} (h : ∀ channel ∈ cs, channel.Keeps) :
    (ofChannels cs).Keeps := by
  have hfold : ∀ (cs : List (Channel ν)) (r : Registry ν), (∀ channel ∈ cs, channel.Keeps) →
      r.Keeps → (cs.foldl (fun r c => r.register c) r).Keeps := by
    intro cs
    induction cs with
    | nil => exact fun r _ hr => hr
    | cons c rest ih =>
      intro r hcs hr
      refine ih _ (fun d hd => hcs d (List.mem_cons_of_mem c hd)) fun d hd => ?_
      rcases mem_of_mem_place hd with rfl | hd
      · exact hcs d List.mem_cons_self
      · exact hr d hd
  exact hfold cs empty h fun _ hnone => absurd hnone List.not_mem_nil

theorem keeps_standard [Network ν] : (standard : Registry ν).Keeps := by
  refine keeps_ofChannels fun channel hchannel => ?_
  rcases List.mem_cons.mp hchannel with rfl | hchannel
  · exact Email.keeps
  rcases List.mem_cons.mp hchannel with rfl | hchannel
  · exact Telegram.keeps Telegram.service
  rw [List.mem_singleton.mp hchannel]
  exact Teams.keeps

end Registry

/-! ## Settings -/

namespace Catalog

variable {c : Catalog} {s new : Setting}

theorem mem_of_mem_putSetting {settings : List Setting} (h : s ∈ putSetting new settings) :
    s = new ∨ s ∈ settings := by
  induction settings with
  | nil => exact Or.inl (List.mem_singleton.mp h)
  | cons t rest ih =>
    unfold putSetting at h
    split at h
    · exact (List.mem_cons.mp h).imp_right (List.mem_cons_of_mem t)
    · rcases List.mem_cons.mp h with rfl | h
      · exact Or.inr List.mem_cons_self
      · exact (ih h).imp_right (List.mem_cons_of_mem t)

theorem settings_raise (guard : Session → Bool) (flag : Session → Session) (read : Session)
    (text : NoticeText) (now : Int) : (raise guard flag read text now c).2.settings = c.settings :=
  raise_induct (P := fun d => d.settings = c.settings) rfl rfl

/-- A setting that was not there before was set. -/
theorem mem_settings_run {t : Transaction} (h : s ∈ (t.run c).settings) :
    t = .setSetting s ∨ s ∈ c.settings := by
  have hkept : (t.run c).settings = c.settings → t = .setSetting s ∨ s ∈ c.settings :=
    fun hsettings => Or.inr (hsettings ▸ h)
  have hsame : c.settings = c.settings := rfl
  cases t with
  | setSetting new => exact (mem_of_mem_putSetting h).imp_left fun heq => congrArg _ heq.symm
  | deleteSetting user => exact Or.inr (List.mem_of_mem_filter h)
  | markWarned | markAnnounced | markOff | markReady => exact hkept (settings_raise ..)
  | openSession =>
    exact hkept (openSession_induct (P := fun d => d.settings = c.settings) hsame fun _ => rfl)
  | extendSession =>
    exact hkept (extendSession_induct (P := fun d => d.settings = c.settings) hsame rfl)
  | endSession =>
    exact hkept (endSession_induct (P := fun d => d.settings = c.settings) hsame fun _ _ _ _ => rfl)
  | endByToken =>
    exact hkept (endByToken_induct (P := fun d => d.settings = c.settings) hsame fun _ _ _ _ => rfl)
  | finalize =>
    exact hkept (finalize_induct (P := fun d => d.settings = c.settings) hsame
      fun _ _ _ _ _ => rfl)
  | sync | enqueue | purge | deleteNotice => exact hkept rfl

end Catalog

namespace Dispatch

variable {registry : Registry ν} {log since : Log} {c c' : Catalog} {stage stage' : Stage} {did : Deed}

/-! ## The front door -/

/-- Whether all settings of a run were set through the front door: each was accepted by the registry, and
stored as it was given. -/
def Log.FrontDoor (registry : Registry ν) (log : Log) : Prop :=
  ∀ m ∈ log, ∀ s, m.did = .other (.setSetting s) →
    registry.choose s (.opened m.met) = (.ok (), .opened (m.met.setSetting s))

theorem Log.FrontDoor.mono (h : Log.FrontDoor registry log) {log' : Log} (hsubset : log' ⊆ log) :
    Log.FrontDoor registry log' :=
  fun m hm => h m (hsubset hm)

theorem validate_of_choose {s : Setting} {store : Store}
    (h : registry.choose s (.opened c) = (.ok (), store)) :
    registry.validate s.channel s.config = .ok () := by
  unfold Registry.choose at h
  split at h
  next => exact nomatch (Prod.mk.inj h).1
  next hvalid => exact hvalid

/-- Every config that is stored, and every one that a round has in hand, was judged well. -/
structure Judged (registry : Registry ν) (c : Catalog) (stage : Stage) : Prop where
  settings : ∀ s ∈ c.settings, registry.validate s.channel s.config = .ok ()
  inHand : ∀ p ∈ stage.inHand, registry.validate p.channel p.config = .ok ()

namespace Judged

/-- With no other settings, and with no more in hand. -/
theorem mono (h : Judged registry c stage) (hsettings : c'.settings = c.settings)
    (hless : stage'.inHand ⊆ stage.inHand) : Judged registry c' stage' :=
  ⟨fun s hs => h.settings s (hsettings ▸ hs), fun p hp => h.inHand p (hless hp)⟩

/-- What is read of the queue comes with the configs that are stored. -/
theorem pending (h : Judged registry c stage) {p : PendingNotice} (hp : p ∈ c.pending) :
    registry.validate p.channel p.config = .ok () := by
  obtain ⟨-, s, hs, hchannel, hconfig⟩ := Catalog.mem_pending.mp hp
  rw [← hchannel, ← hconfig]
  exact h.settings s (List.mem_of_find?_eq_some hs)

theorem step (h : Judged registry c stage) (hdoor : Log.FrontDoor registry [⟨c, did⟩])
    (hstep : Step registry c stage did c' stage') : Judged registry c' stage' := by
  cases hstep with
  | other t =>
    refine ⟨fun s hs => ?_, h.inHand⟩
    rcases Catalog.mem_settings_run hs with rfl | hs
    · exact validate_of_choose (hdoor _ List.mem_cons_self s rfl)
    · exact h.settings s hs
  | read => exact ⟨h.settings, fun p hp => h.pending hp⟩
  | drop | fail => exact h.mono rfl (List.subset_cons_self _ _)
  | delete => exact h.mono rfl (List.subset_cons_self _ _)
  | send => exact h.mono rfl (List.Subset.refl _)
  | purge | abort | finish => exact h.mono rfl (List.nil_subset _)

end Judged

theorem Delivering.judged (h : Delivering registry log c stage) (hdoor : log.FrontDoor registry) :
    Judged registry c stage := by
  induction h with
  | start => exact ⟨fun _ hs => absurd hs List.not_mem_nil, fun _ hp => absurd hp List.not_mem_nil⟩
  | next _ hstep ih =>
    refine (ih (hdoor.mono (List.subset_cons_self _ _))).step (hdoor.mono ?_) hstep
    exact List.cons_subset_cons _ (List.nil_subset _)

/-! ## Rounds -/

namespace Delivering

variable {m : Moment} {p : PendingNotice}

/-- What a round handles, it can deliver. -/
theorem carries_of_handled (hkeeps : registry.Keeps) (h : Delivering registry log c stage)
    (hdoor : log.FrontDoor registry) (hm : m ∈ log) (hp : p ∈ m.handled) :
    registry.Carries p.channel p.config := by
  obtain ⟨since, before, rfl⟩ := List.append_of_mem hm
  obtain ⟨stage, c', after, hbefore, hstep⟩ := h.exists_step
  have hjudged := hbefore.judged (hdoor.mono fun m' hm' => by simp [hm'])
  obtain ⟨met, did⟩ := m
  have hfirst : p ∈ stage.inHand := by
    cases hstep with
    | drop | send | fail | abort =>
      rw [List.mem_singleton.mp hp]
      exact List.mem_cons_self
    | other | purge | read | delete | finish => exact absurd hp List.not_mem_nil
  exact hkeeps.carries (hjudged.inHand p hfirst)

/-- So nothing is dropped. -/
theorem dropped_eq_nil (hkeeps : registry.Keeps) (h : Delivering registry log c stage)
    (hdoor : log.FrontDoor registry) (hm : m ∈ log) : m.dropped = [] := by
  refine List.eq_nil_iff_forall_not_mem.mpr fun p hp => ?_
  have hhandled : p ∈ m.handled := by
    unfold Moment.dropped at hp
    split at hp
    next hdid =>
      rw [Moment.handled, hdid]
      exact hp
    next => exact absurd hp List.not_mem_nil
  obtain ⟨channel, hfind, -⟩ := h.carries_of_handled hkeeps hdoor hm hhandled
  obtain ⟨since, before, rfl⟩ := List.append_of_mem hm
  obtain ⟨_, _, _, -, hstep⟩ := h.exists_step
  obtain ⟨met, did⟩ := m
  cases hstep with
  | drop hnone =>
    rw [List.mem_singleton.mp hp, hnone] at hfind
    cases hfind
  | _ => exact absurd hp List.not_mem_nil

/-- And a round reports none that are. -/
theorem report_dropped (hkeeps : registry.Keeps) (h : Delivering registry log c stage)
    (hdoor : log.FrontDoor registry) {report : DispatchReport} (hm : m ∈ log)
    (hdid : m.did = .finished report) : report.dropped = 0 := by
  obtain ⟨since, before, rfl⟩ := List.append_of_mem hm
  obtain ⟨c', after, hfinished⟩ := h.of_append
  obtain ⟨met, did⟩ := m
  subst hdid
  have hcounts := hfinished.finished_round.2
  have hnone : (Log.round before).collect Moment.dropped = [] := by
    refine List.flatMap_eq_nil_iff.mpr fun m hm => ?_
    have hbefore : m ∈ since ++ ⟨met, .finished report⟩ :: before :=
      List.mem_append_right _ (List.mem_cons_of_mem _ (Log.round_subset before (List.mem_reverse.mp hm)))
    exact h.dropped_eq_nil hkeeps hdoor hbefore
  rw [hcounts, Log.counts, hnone]
  rfl

end Delivering

/-- A round that nobody disturbs drops nothing if all that it has read can be brought to a channel. -/
theorem dropped_deliverAll {pending : List PendingNotice}
    (hcarries : ∀ p ∈ pending, registry.Carries p.channel p.config) {now : Int} {network : ν}
    {store : Store} {report report' : DispatchReport}
    (h : (deliverAll registry now pending report network store).1 = .ok report') :
    report'.dropped = report.dropped := by
  induction pending generalizing report network store with
  | nil =>
    rw [Except.ok.inj h]
  | cons p rest ih =>
    obtain ⟨channel, hfind, -⟩ := hcarries p List.mem_cons_self
    have hrest : ∀ q ∈ rest, registry.Carries q.channel q.config :=
      fun q hq => hcarries q (List.mem_cons_of_mem p hq)
    rw [deliverAll, hfind] at h
    dsimp only at h
    split at h
    · unfold deleteThen at h
      split at h
      · cases h
      · exact (ih hrest h :)
    · exact (ih hrest h :)
    · cases h

theorem dropped_run (hkeeps : registry.Keeps) (hjudged : Judged registry c .between) {now : Int}
    {network : ν} {report : DispatchReport}
    (h : (run registry now network (.opened c)).1 = .ok report) : report.dropped = 0 := by
  have hpurged : Judged registry c.purge.2 .between := hjudged.mono rfl (List.Subset.refl _)
  exact dropped_deliverAll (fun p hp => hkeeps.carries (hpurged.pending hp)) h

/-- What holds of the rounds of a run if configs that are stored can be delivered with. -/
structure Routable (registry : Registry ν) (log : Log) (c : Catalog) : Prop where
  /-- What is stored can be delivered with, whatever is to be told. -/
  stored : ∀ s ∈ c.settings, registry.Carries s.channel s.config
  /-- So can all that was ever given to a channel. -/
  attempted : ∀ m ∈ log, ∀ p ∈ m.attempted, registry.Carries p.channel p.config
  /-- Nothing was ever dropped. -/
  not_dropped : log.collect Moment.dropped = []
  /-- No round has counted anything as dropped. -/
  reported : ∀ m ∈ log, ∀ report, m.did = .finished report → report.dropped = 0
  /-- Nor will the next one, if nobody disturbs it. -/
  next : ∀ now network report, (run registry now network (.opened c)).1 = .ok report →
    report.dropped = 0

theorem Delivering.routable (hkeeps : registry.Keeps) (h : Delivering registry log c stage)
    (hdoor : log.FrontDoor registry) : Routable registry log c where
  stored s hs := hkeeps.carries ((h.judged hdoor).settings s hs)
  attempted m hm p hp := by
    refine h.carries_of_handled hkeeps hdoor hm ?_
    obtain ⟨met, did⟩ := m
    cases did <;> first | exact hp | exact absurd hp List.not_mem_nil
  not_dropped := by
    refine List.flatMap_eq_nil_iff.mpr fun m hm => ?_
    exact h.dropped_eq_nil hkeeps hdoor (List.mem_reverse.mp hm)
  reported m hm report hdid := h.report_dropped hkeeps hdoor hm hdid
  next now network report hrun := by
    have hjudged : Judged registry c .between := (h.judged hdoor).mono rfl (List.nil_subset _)
    exact dropped_run hkeeps hjudged hrun

/-- **A channel that is set through the front door can always be delivered to.** In every run in which
settings come from there only, no round drops a notice, and no delivery fails for its config, whatever
it is to tell and whatever the network does. -/
theorem routable_of_frontDoor [Network ν] {log : Log} {c : Catalog} {stage : Stage}
    (h : Delivering (Registry.standard : Registry ν) log c stage)
    (hdoor : log.FrontDoor (Registry.standard : Registry ν)) :
    Routable (Registry.standard : Registry ν) log c :=
  h.routable Registry.keeps_standard hdoor

/-- The setting of a user who chose a chat. -/
def chatSetting : Setting := ⟨"u1", "telegram", "\x7b\"token\":\"t\",\"chat_id\":\"c\"\x7d"⟩

/-- A notice for this user. -/
def chatQueue : Catalog :=
  (Transaction.enqueue "u1" "a" "b" 10).run <| (Transaction.setSetting chatSetting).run .empty

/-- The user chooses the chat, and a round cannot reach it. The notice stays. -/
theorem routable_of_frontDoor_chat : ∃ log c,
    Log.FrontDoor (Registry.standard : Registry Offline) log ∧
      Routable (Registry.standard : Registry Offline) log c ∧
        Log.counts log = ⟨0, 1, 0, 0⟩ ∧ c.queue.map Notice.title = ["a"] := by
  have hqueue : Delivering (Registry.standard : Registry Offline)
      [⟨(Transaction.setSetting chatSetting).run .empty, .other (.enqueue "u1" "a" "b" 10)⟩,
        ⟨.empty, .other (.setSetting chatSetting)⟩] chatQueue .between :=
    .next (.next .start (.other _ rfl)) (.other _ rfl)
  have hread : chatQueue.purge.2.pending =
      [⟨⟨1, "u1", "a", "b", 10⟩, "telegram", chatSetting.config⟩] := by
    rw [Catalog.pending, Catalog.queued, List.mergeSort_of_pairwise (by decide)]
    rfl
  have hbegun := Delivering.next (Delivering.next hqueue .purge) .read
  rw [hread] at hbegun
  have hsend : Telegram.send Telegram.service
      (delivery 30 ⟨⟨1, "u1", "a", "b", 10⟩, "telegram", chatSetting.config⟩) Offline.offline =
        (refuse .request, .offline) := by
    decide +kernel
  have hround := Delivering.next (Delivering.next hbegun (.fail 30 .offline rfl hsend)) .finish
  have hchosen : (Registry.standard : Registry Offline).choose chatSetting (.opened .empty) =
      (.ok (), .opened (Catalog.empty.setSetting chatSetting)) := by
    decide +kernel
  refine ⟨_, _, ?hdoor, routable_of_frontDoor hround ?hdoor, rfl, rfl⟩
  intro m hm s hdid
  simp only [List.mem_cons, List.not_mem_nil, or_false] at hm
  rcases hm with rfl | rfl | rfl | rfl | rfl | rfl
  case inr.inr.inr.inr.inr =>
    cases hdid
    exact hchosen
  all_goals cases hdid

end Dispatch
end PowerLease
