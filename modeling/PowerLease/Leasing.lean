import PowerLease.Catalog.Lease
import PowerLease.Catalog.Store
import PowerLease.Catalog.View
import PowerLease.Digest.Sha256
import PowerLease.Duration.Reader
import PowerLease.Timestamp

/-!
# The leasing service

What users ask for: to lease a group for some time, to have more time, to give the group back, and
to see who holds what. A holder is known by a token alone. The store keeps its digest, so nobody who
reads the store can act as a holder.

The length of a lease is its whole seconds; parts of a second count for nothing. A lease has to end
at a time that can be stored.
-/

namespace PowerLease

/-- Why a text gives no length of a lease. -/
inductive LengthFault where
  | refused (refusal : Duration.Refusal)
  | tooLong (text : String)
deriving DecidableEq, Repr

/-- The wording of a fault. -/
def LengthFault.message : LengthFault → String
  | .refused refusal => refusal.message
  | .tooLong text => s!"{text} is too long"

/-- Why the service does not do what it is asked for. -/
inductive LeaseFault where
  | groupNotFound (group : String)
  | groupInUse (group : String)
  | sessionNotFound
  | invalidDuration (fault : LengthFault)
  | store (fault : StoreFault)
deriving DecidableEq, Repr

/-- The wording of a fault. The store words its own. -/
def LeaseFault.message : LeaseFault → Option String
  | .groupNotFound group => some s!"Server group not found: {group}"
  | .groupInUse group => some s!"Server group already has an active session: {group}"
  | .sessionNotFound => some "Session not found or expired"
  | .invalidDuration fault => some s!"Invalid duration: {fault.message}"
  | .store _ => none

/-- What a holder is told of a lease. -/
structure Grant where
  group : String
  duration : Duration
  expiry : Int
deriving DecidableEq

namespace Leasing

/-- The digest under which a token is stored. -/
def tokenDigest (token : String) : String := Sha256.hexDigest token

/-- The duration that a text gives, and when a lease of that length ends that begins now. -/
def term (text : String) (now : Int) : Except (Halt LeaseFault) (Duration × Int) :=
  match Duration.readPositive text with
  | .error halt => .error (halt.map fun refusal => .invalidDuration (.refused refusal))
  | .ok d =>
    if Timestamp.last < d.seconds then refuse (.invalidDuration (.tooLong text))
    else
      match Timestamp.add? now d.seconds with
      | none => refuse (.invalidDuration (.tooLong text))
      | some expiry => .ok (d, expiry)

/-- The answer for a fault of the store while a lease is opened. -/
def openFault (group : String) : StoreFault → LeaseFault
  | .notFound _ => .groupNotFound group
  | .conflict => .groupInUse group
  | fault => .store fault

/-- The answer for a fault of the store while a session is looked up by its token. -/
def tokenFault : StoreFault → LeaseFault
  | .notFound _ => .sessionNotFound
  | fault => .store fault

/-- Leases a group to a user. The holder is given the token. -/
def lease (user email group duration token : String) (now : Int) (store : Store) :
    Except (Halt LeaseFault) Grant × Store :=
  match term duration now with
  | .error halt => (.error halt, store)
  | .ok (d, expiry) =>
    let request : LeaseRequest := { token := tokenDigest token, user, email, group, expiry }
    match store.attempt (Catalog.openSession request now) with
    | (.error fault, after) => (refuse (openFault group fault), after)
    | (.ok _, after) => (.ok { group, duration := d, expiry }, after)

/-- Gives the holder of a token more time, counted from now. -/
def extend (token duration : String) (now : Int) (store : Store) :
    Except (Halt LeaseFault) Grant × Store :=
  match term duration now with
  | .error halt => (.error halt, store)
  | .ok (d, expiry) =>
    match store.attempt (Catalog.extendSession (tokenDigest token) expiry now) with
    | (.error fault, after) => (refuse (tokenFault fault), after)
    | (.ok session, after) => (.ok { group := session.group, duration := d, expiry }, after)

/-- Gives a group back, and says which. -/
def giveBack (token : String) (now : Int) (store : Store) :
    Except (Halt LeaseFault) String × Store :=
  match store.attempt (Catalog.endByToken (tokenDigest token) now) with
  | (.error fault, after) => (refuse (tokenFault fault), after)
  | (.ok group, after) => (.ok group, after)

/-- All sessions, in the order of their groups. -/
def sessions (store : Store) : Except LeaseFault (List Session) :=
  (store.ask Catalog.listSessions).mapError .store

/-- The summaries of all groups. -/
def summaries (store : Store) : Except LeaseFault (List GroupSummary) :=
  (store.ask Catalog.summaries).mapError .store

end Leasing
end PowerLease
