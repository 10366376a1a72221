import PowerLease.Cloud.Simulated
import PowerLease.Notify.Registry
import PowerLease.Proofs.Catalog.Statements
import PowerLease.Proofs.Installation.Routines

/-!
# Requests that are refused

Whatever is asked of an installation and not done, because it makes no sense, because what it is about
is not there, because it is in conflict with something else, or because the provider or a channel
refuses, leaves the catalog as it was (`store_of_refused`): servers, sessions, notices and settings, and
the ids that were given last.
-/

namespace PowerLease

variable {σ ν : Type}

/-! ## Stores -/

namespace Store

variable {α : Type} {store after : Store}

theorem attempt_of_error {f : Catalog → Except StoreFault α × Catalog}
    (hf : ∀ c, (f c).1.isOk = false → (f c).2 = c) (h : (store.attempt f).1.isOk = false) :
    (store.attempt f).2 = store := by
  cases store with
  | opened c => exact congrArg opened (hf c h)
  | closed => rfl

theorem eq_of_attempt_error {f : Catalog → Except StoreFault α × Catalog}
    (hf : ∀ c, (f c).1.isOk = false → (f c).2 = c) {fault : StoreFault}
    (h : store.attempt f = (.error fault, after)) : after = store := by
  have hafter := attempt_of_error hf (by rw [h]; rfl)
  rwa [h] at hafter

/-- Whether a transaction was run, and says that it was done. -/
def isDone : Except StoreFault Bool → Bool
  | .ok done => done
  | .error _ => false

theorem run_of_not_done {f : Catalog → Bool × Catalog} (hf : ∀ c, (f c).1 = false → (f c).2 = c)
    (h : isDone (store.run f).1 = false) : (store.run f).2 = store := by
  cases store with
  | opened c => exact congrArg opened (hf c h)
  | closed => rfl

end Store

/-! ## Services -/

section

variable {store : Store} {token duration : String} {now : Int}

theorem Leasing.store_lease_of_error {user email group : String}
    (h : (lease user email group duration token now store).1.isOk = false) :
    (lease user email group duration token now store).2 = store := by
  unfold lease at h ⊢
  split
  · rfl
  · dsimp only
    split
    next hrun => exact Store.eq_of_attempt_error (fun _ => Catalog.openSession_of_error) hrun
    next hterm _ _ _ hrun => simp [hterm, hrun, Except.isOk, Except.toBool] at h

theorem Leasing.store_extend_of_error (h : (extend token duration now store).1.isOk = false) :
    (extend token duration now store).2 = store := by
  unfold extend at h ⊢
  split
  · rfl
  · split
    next hrun => exact Store.eq_of_attempt_error (fun _ => Catalog.extendSession_of_error) hrun
    next hterm _ _ _ hrun => simp [hterm, hrun, Except.isOk, Except.toBool] at h

theorem Leasing.store_giveBack_of_error (h : (giveBack token now store).1.isOk = false) :
    (giveBack token now store).2 = store := by
  unfold giveBack at h ⊢
  split
  next hrun => exact Store.eq_of_attempt_error (fun _ => Catalog.endByToken_of_error) hrun
  next hrun => simp [hrun, Except.isOk, Except.toBool] at h

theorem Registry.store_choose_of_error {registry : Registry ν} {choice : Setting}
    (h : (registry.choose choice store).1.isOk = false) :
    (registry.choose choice store).2 = store := by
  unfold choose at h ⊢
  split
  · rfl
  next hvalid =>
    cases store with
    | opened c => simp [hvalid, Store.run, Except.isOk, Except.toBool] at h
    | closed => rfl

theorem Installation.store_scrape_of_error [Provider σ] {i : Installation σ ν}
    (h : (i.scrape now).1.isOk = false) : (i.scrape now).2.store = i.store := by
  obtain ⟨cloud, store, network⟩ := i
  simp only [scrape, Reconciler.scrape] at h ⊢
  split
  · rfl
  next hreport =>
    cases store with
    | opened c => simp [hreport, Store.run, Except.mapError, Except.isOk, Except.toBool] at h
    | closed => rfl

end

/-! ## Requests -/

/-- What can be asked for and refused: of the services, and of the store directly. -/
inductive Request (ν : Type) where
  | scrape (now : Int)
  | lease (user email group duration token : String) (now : Int)
  | extend (token duration : String) (now : Int)
  | giveBack (token : String) (now : Int)
  | choose (registry : Registry ν) (choice : Setting)
  | openSession (request : LeaseRequest) (now : Int)
  | extendSession (token : String) (expiry now : Int)
  | endSession (group : String) (now : Int)
  | endByToken (token : String) (now : Int)
  | markWarned (read : Session) (text : NoticeText) (now : Int)
  | markAnnounced (read : Session) (text : NoticeText) (now : Int)
  | markOff (read : Session) (text : NoticeText) (now : Int)
  | markReady (read : Session) (text : NoticeText) (now : Int)
  | finalize (read : Session)

namespace Request

/-- What was answered, and the store after it, in an installation. An error says that nothing was done. -/
def answered {ε α : Type} (r : Except ε α × Store) (i : Installation σ ν) : Bool × Installation σ ν :=
  (r.1.isOk, { i with store := r.2 })

/-- A transaction that answers whether it was done. -/
def guarded (f : Catalog → Bool × Catalog) (i : Installation σ ν) : Bool × Installation σ ν :=
  (Store.isDone (i.store.run f).1, { i with store := (i.store.run f).2 })

/-- Whether a request is done, and the installation after it. -/
def run [Provider σ] : Request ν → Installation σ ν → Bool × Installation σ ν
  | scrape now, i => ((i.scrape now).1.isOk, (i.scrape now).2)
  | lease user email group duration token now, i =>
    answered (Leasing.lease user email group duration token now i.store) i
  | extend token duration now, i => answered (Leasing.extend token duration now i.store) i
  | giveBack token now, i => answered (Leasing.giveBack token now i.store) i
  | choose registry choice, i => answered (registry.choose choice i.store) i
  | openSession request now, i => answered (i.store.attempt (Catalog.openSession request now)) i
  | extendSession token expiry now, i =>
    answered (i.store.attempt (Catalog.extendSession token expiry now)) i
  | endByToken token now, i => answered (i.store.attempt (Catalog.endByToken token now)) i
  | endSession group now, i => guarded (Catalog.endSession group now) i
  | markWarned read text now, i => guarded (Catalog.markWarned read text now) i
  | markAnnounced read text now, i => guarded (Catalog.markAnnounced read text now) i
  | markOff read text now, i => guarded (Catalog.markOff read text now) i
  | markReady read text now, i => guarded (Catalog.markReady read text now) i
  | finalize read, i => guarded (Catalog.finalize read) i

theorem store_answered {ε α : Type} {r : Except ε α × Store} {i : Installation σ ν}
    (hr : r.1.isOk = false → r.2 = i.store) (h : (answered r i).1 = false) :
    (answered r i).2.store = i.store :=
  hr h

theorem store_guarded {f : Catalog → Bool × Catalog} {i : Installation σ ν}
    (hf : ∀ c, (f c).1 = false → (f c).2 = c) (h : (guarded f i).1 = false) :
    (guarded f i).2.store = i.store :=
  Store.run_of_not_done hf h

end Request

/-- **What is refused leaves the catalog as it was.** Whatever is asked of an installation, on any
provider and network and with whatever arguments: unless it is done, the store is what it was before. -/
theorem store_of_refused [Provider σ] (request : Request ν) (i : Installation σ ν)
    (h : (request.run i).1 = false) : (request.run i).2.store = i.store := by
  cases request with
  | scrape => exact Installation.store_scrape_of_error h
  | lease user email group duration token now =>
    exact Request.store_answered (r := Leasing.lease user email group duration token now i.store)
      Leasing.store_lease_of_error h
  | extend token duration now =>
    exact Request.store_answered (r := Leasing.extend token duration now i.store)
      Leasing.store_extend_of_error h
  | giveBack token now =>
    exact Request.store_answered (r := Leasing.giveBack token now i.store)
      Leasing.store_giveBack_of_error h
  | choose registry choice =>
    exact Request.store_answered (r := registry.choose choice i.store)
      Registry.store_choose_of_error h
  | openSession request now =>
    exact Request.store_answered (r := i.store.attempt (Catalog.openSession request now))
      (Store.attempt_of_error fun _ => Catalog.openSession_of_error) h
  | extendSession token expiry now =>
    exact Request.store_answered (r := i.store.attempt (Catalog.extendSession token expiry now))
      (Store.attempt_of_error fun _ => Catalog.extendSession_of_error) h
  | endByToken token now =>
    exact Request.store_answered (r := i.store.attempt (Catalog.endByToken token now))
      (Store.attempt_of_error fun _ => Catalog.endByToken_of_error) h
  | endSession group now =>
    exact Request.store_guarded (f := Catalog.endSession group now)
      (fun _ => Catalog.endSession_of_false) h
  | markWarned read text now =>
    exact Request.store_guarded (f := Catalog.markWarned read text now)
      (fun _ => Catalog.raise_of_false) h
  | markAnnounced read text now =>
    exact Request.store_guarded (f := Catalog.markAnnounced read text now)
      (fun _ => Catalog.raise_of_false) h
  | markOff read text now =>
    exact Request.store_guarded (f := Catalog.markOff read text now)
      (fun _ => Catalog.raise_of_false) h
  | markReady read text now =>
    exact Request.store_guarded (f := Catalog.markReady read text now)
      (fun _ => Catalog.raise_of_false) h
  | finalize read =>
    exact Request.store_guarded (f := Catalog.finalize read) (fun _ => Catalog.finalize_of_false) h

/-- Another user asks for a group that is taken. By the time this is found out, the servers of the group
are written already. -/
theorem store_of_refused_conflict :
    ((Request.openSession ⟨"other", "u2", "u2@example.com", "QA", 7200⟩ 10).run
        (⟨.ofInstances [], .opened Catalog.taken, ()⟩ : Installation SimulatedCloud Unit)).1 = false ∧
      ((Request.openSession ⟨"other", "u2", "u2@example.com", "QA", 7200⟩ 10).run
        (⟨.ofInstances [], .opened Catalog.taken, ()⟩ : Installation SimulatedCloud Unit)).2.store =
          .opened Catalog.taken :=
  ⟨by decide, store_of_refused _ _ (by decide)⟩

end PowerLease
