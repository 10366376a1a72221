import PowerLease.Proofs.Delivery.Rounds

/-!
# The course of one round

The steps of one round, from its purge on, with the network that its deliveries are made on. Each
delivery meets the network that the one before has left, and no other step does anything to it
(`Deed.Takes`). Others may still write on the catalog between any two steps. A course goes on with any
run among others that has come to the catalog which the course finds (`Delivering.round`).

`Dispatch.run` computes the courses that nobody disturbs, and nothing else: it comes to a result, a
network and a catalog exactly if such a course ends there with that result (`run_eq_iff`). For one
direction a course is continued by the dispatcher's own steps (`Round.completes`). For the other, each of
these steps leaves a part of the round to do, and all parts come to the same end (`Round.run_eq`).
-/

namespace PowerLease.Dispatch

variable {ν : Type} {registry : Registry ν} {now : Int} {network network' reached : ν}
  {c d c' : Catalog} {log own before : Log} {m : Moment} {did : Deed} {stage stage' : Stage}
  {pending : List PendingNotice} {report : DispatchReport}
  {result : Except (Halt ChannelFault) DispatchReport} {outcome : Outcome ν}

/-! ## Deeds on a network -/

/-- Whether the channel of a notice, if it is called on one network, gives this answer and leaves
another network. -/
def Answers (registry : Registry ν) (now : Int) (p : PendingNotice) (network : ν)
    (answer : Except (Halt ChannelFault) Unit) (network' : ν) : Prop :=
  ∃ channel, registry.find? p.channel = some channel ∧
    channel.send (delivery now p) network = (answer, network')

/-- Whether a deed takes one network to another, at a time of the clock. -/
def Deed.Takes (registry : Registry ν) (now : Int) (network network' : ν) : Deed → Prop
  | sent p => Answers registry now p network (.ok ()) network'
  | failed p => ∃ fault, Answers registry now p network (.error (.refused fault)) network'
  | aborted p => Answers registry now p network abort network'
  | other _ | purged | read | dropped _ | deleted _ | finished _ => network' = network

/-- The result of the round that a deed ends. -/
def Deed.result? : Deed → Option (Except (Halt ChannelFault) DispatchReport)
  | finished report => some (.ok report)
  | aborted _ => some abort
  | _ => none

/-- The result of the round that the last step of a log ends. -/
def Log.result? (log : Log) : Option (Except (Halt ChannelFault) DispatchReport) :=
  log.head?.bind fun m => m.did.result?

theorem Log.result?_append (h : Log.result? own = some result) (log : Log) :
    Log.result? (own ++ log) = some result := by
  cases own with
  | nil => exact nomatch h
  | cons m rest => exact h

theorem Log.collect_append {α : Type} (f : Moment → List α) (log before : Log) :
    collect f (log ++ before) = collect f before ++ collect f log := by
  rw [collect, List.reverse_append, List.flatMap_append]
  rfl

/-! ## Courses -/

/-- The courses of one round that finds a catalog and a network, with what they lead to. -/
inductive Round (registry : Registry ν) (now : Int) (c : Catalog) (network : ν) :
    Log → Catalog → Stage → ν → Prop
  | begin : Round registry now c network [⟨c, .purged⟩] c.purge.2 (.purged c.purge.1) network
  | next {log : Log} {d d' : Catalog} {stage stage' : Stage} {did : Deed} {reached reached' : ν}
    (h : Round registry now c network log d stage reached) (hopen : stage ≠ .between)
    (hstep : Step registry d stage did d' stage')
    (htakes : did.Takes registry now reached reached') :
    Round registry now c network (⟨d, did⟩ :: log) d' stage' reached'

/-- A course goes on with a run that has its dispatcher between two rounds. -/
theorem Delivering.round (h : Delivering registry before c .between)
    (hround : Round registry now c network log d stage reached) :
    Delivering registry (log ++ before) d stage := by
  induction hround with
  | begin => exact .next h .purge
  | next _ _ hstep _ ih => exact .next ih hstep

/-- A course that is not over has no result yet. -/
theorem Round.result?_eq_none (h : Round registry now c network log d stage reached)
    (hopen : stage ≠ .between) : Log.result? log = none := by
  cases h with
  | begin => rfl
  | next _ _ hstep _ =>
    cases hstep with
    | abort | finish => exact absurd rfl hopen
    | other | purge | read | drop | send | delete | fail => rfl

/-! ## What is left to do -/

/-- What is left of a round at a stage, if nobody disturbs it any more. -/
def remaining (registry : Registry ν) (now : Int) (stage : Stage) (network : ν) (store : Store) :
    Outcome ν :=
  match stage with
  | .between => run registry now network store
  | .purged orphaned => deliverQueue registry now orphaned network store
  | .delivering pending report => deliverAll registry now pending report network store
  | .delivered p pending report =>
    deleteThen p.notice.id store network
      (deliverAll registry now pending { report with sent := report.sent + 1 } network)

/-- A step of a dispatcher ends the round, or leaves just as much to do as there was. -/
theorem remaining_step (hstep : Step registry d stage did c' stage')
    (hown : Moment.others ⟨d, did⟩ = []) (htakes : did.Takes registry now network network') :
    remaining registry now stage network (.opened d) =
      match did.result? with
      | some result => (result, network', .opened c')
      | none => remaining registry now stage' network' (.opened c') := by
  cases hstep with
  | other => exact absurd hown (List.cons_ne_nil _ _)
  | drop hnone =>
    subst htakes
    simp only [remaining, deliverAll, hnone]
    rfl
  | send _ _ _ _ =>
    obtain ⟨channel, hfind, hsend⟩ := htakes
    simp only [remaining, deliverAll, hfind, hsend]
    rfl
  | fail _ _ _ _ =>
    obtain ⟨fault, channel, hfind, hsend⟩ := htakes
    simp only [remaining, deliverAll, hfind, hsend]
    rfl
  | abort _ _ _ _ =>
    obtain ⟨channel, hfind, hsend⟩ := htakes
    simp only [remaining, deliverAll, hfind, hsend, abort]
    rfl
  | purge | read | delete | finish =>
    subst htakes
    rfl

/-- What a round comes to can be told at any time of a course that nobody has disturbed. -/
theorem Round.run_eq (h : Round registry now c network log d stage reached)
    (hown : log.collect Moment.others = []) :
    run registry now network (.opened c) =
      match Log.result? log with
      | some result => (result, reached, .opened d)
      | none => remaining registry now stage reached (.opened d) := by
  induction h with
  | begin => rfl
  | next h hopen hstep htakes ih =>
    rw [Log.collect_cons, List.append_eq_nil_iff] at hown
    rw [ih hown.1, h.result?_eq_none hopen]
    exact remaining_step hstep hown.2 htakes

/-! ## Courses to the end -/

/-- The dispatcher's own steps bring a course to its end, with this outcome. -/
def Completes (registry : Registry ν) (now : Int) (c : Catalog) (network : ν) (log : Log)
    (outcome : Outcome ν) : Prop :=
  ∃ own d, outcome.2.2 = .opened d ∧
    Round registry now c network (own ++ log) d .between outcome.2.1 ∧
      Log.collect Moment.others own = [] ∧ Log.result? own = some outcome.1

theorem Completes.of_cons (h : Completes registry now c network (m :: log) outcome)
    (hown : m.others = []) : Completes registry now c network log outcome := by
  obtain ⟨own, d, hstore, hround, hothers, hresult⟩ := h
  refine ⟨own ++ [m], d, hstore, ?_, ?_, Log.result?_append hresult [m]⟩
  · rwa [List.append_assoc]
  · rw [Log.collect_append, hothers, List.append_nil, Log.collect_cons, hown]
    rfl

/-- A course goes on as long as there is something to deliver. -/
theorem Round.deliver (h : Round registry now c network log d (.delivering pending report) reached)
    (hstep : Step registry d (.delivering pending report) did c' stage')
    (htakes : did.Takes registry now reached network') :
    Round registry now c network (⟨d, did⟩ :: log) c' stage' network' :=
  .next h (by simp) hstep htakes

/-- A course that has read the queue can be continued to its end. The induction is on what it has still
to deliver. -/
theorem Round.completes_delivering
    (h : Round registry now c network log d (.delivering pending report) reached) :
    Completes registry now c network log
      (deliverAll registry now pending report reached (.opened d)) := by
  induction pending generalizing log d report reached with
  | nil => exact ⟨[⟨d, .finished report⟩], d, rfl, h.deliver .finish rfl, rfl, rfl⟩
  | cons p rest ih =>
    unfold deliverAll
    split
    next hnone => exact (ih (h.deliver (.drop hnone) rfl)).of_cons rfl
    next channel hfind =>
      split
      next reached' hsend =>
        have hsent := h.deliver (.send now reached hfind hsend) ⟨channel, hfind, hsend⟩
        have hdeleted := Round.next hsent (by simp) .delete rfl
        exact ((ih hdeleted).of_cons rfl).of_cons rfl
      next fault reached' hsend =>
        have hfailed := h.deliver (.fail now reached hfind hsend) ⟨fault, channel, hfind, hsend⟩
        exact (ih hfailed).of_cons rfl
      next reached' hsend =>
        have haborted := h.deliver (.abort now reached hfind hsend) ⟨channel, hfind, hsend⟩
        exact ⟨[⟨d, .aborted p⟩], d, rfl, haborted, rfl, rfl⟩

/-- Any course can be continued to its end, which is what was left to do. -/
theorem Round.completes (h : Round registry now c network log d stage reached)
    (hopen : stage ≠ .between) :
    Completes registry now c network log (remaining registry now stage reached (.opened d)) := by
  cases stage with
  | between => exact absurd rfl hopen
  | purged orphaned => exact (completes_delivering (.next h hopen .read rfl)).of_cons rfl
  | delivering pending report => exact h.completes_delivering
  | delivered p pending report =>
    exact (completes_delivering (.next h hopen .delete rfl)).of_cons rfl

/-- **A round that nobody disturbs takes the steps of a round, and only those.** It has a result, and
leaves a network and a catalog, exactly if a course of own steps ends with that result and leaves them. -/
theorem run_eq_iff :
    run registry now network (.opened c) = (result, network', .opened c') ↔
      ∃ log, Round registry now c network log c' .between network' ∧
        log.collect Moment.others = [] ∧ log.result? = some result := by
  constructor
  · intro hrun
    have hcompletes : Completes registry now c network [⟨c, .purged⟩]
        (run registry now network (.opened c)) := Round.begin.completes nofun
    rw [hrun] at hcompletes
    obtain ⟨own, d, hstore, hround, hothers, hresult⟩ := hcompletes
    cases hstore
    refine ⟨own ++ [⟨c, .purged⟩], hround, ?_, Log.result?_append hresult _⟩
    rw [Log.collect_append, hothers]
    rfl
  · rintro ⟨log, hround, hothers, hresult⟩
    rw [hround.run_eq hothers, hresult]

end PowerLease.Dispatch
