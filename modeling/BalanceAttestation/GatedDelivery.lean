import BalanceAttestation.ChatGate
import BalanceAttestation.Consumer
import BalanceAttestation.GateContexts
import BalanceAttestation.InMemory
import BalanceAttestation.WakuTopics

/-! Admission of what arrives over a transport. The operator of a group polls the
group's own topic and admits each credential under the nonce its envelope carries. -/

namespace BalanceAttestation

open ClaimOnce Mailbox VerifierOffchain

def CredentialEnvelope.request {risc0 : Risc0} (e : CredentialEnvelope risc0) : MembershipRequest risc0 where
  receipt := e.receipt
  presenterNonce := e.challengeNonce
  presenterSignatureDer := e.presenterSignatureDer

def GroupRoster.receive (sha256 : HashFn) (k256 : K256) {risc0 : Risc0} (roster : GroupRoster)
    (e : CredentialEnvelope risc0) : GroupRoster :=
  (roster.admitRequest sha256 k256 e.request).2

section Receive

variable {sha256 : HashFn} {k256 : K256} {risc0 : Risc0}

theorem receive_foldl (roster : GroupRoster) (es : List (CredentialEnvelope risc0)) :
    es.foldl (GroupRoster.receive sha256 k256) roster =
      roster.admits sha256 k256 (es.map CredentialEnvelope.request) := by
  rw [GroupRoster.admits, List.foldl_map]
  rfl

variable (sha256 k256) in
theorem admits_config (roster : GroupRoster) (reqs : List (MembershipRequest risc0)) :
    (roster.admits sha256 k256 reqs).groupId = roster.groupId ∧
      (roster.admits sha256 k256 reqs).minimumStake = roster.minimumStake := by
  induction reqs generalizing roster with
  | nil => exact ⟨rfl, rfl⟩
  | cons req reqs ih =>
    have hone := admitRequest_config sha256 k256 roster req
    have hrest := ih (roster.admitRequest sha256 k256 req).2
    exact ⟨hrest.1.trans hone.1, hrest.2.trans hone.2⟩

/-- A roster has nothing to learn from a request it has had. -/
theorem admits_again (roster : GroupRoster) {reqs again : List (MembershipRequest risc0)}
    (hseen : again ⊆ reqs) :
    (roster.admits sha256 k256 reqs).admits sha256 k256 again = roster.admits sha256 k256 reqs := by
  have hconfig := admits_config sha256 k256 roster reqs
  rw [admits_eq_runs _ again, hconfig.1, hconfig.2, admits_eq_runs roster reqs]
  exact Registry.runs_again roster hseen

theorem member_of_admits {groupId : String} {stake : U128} {reqs : List (MembershipRequest risc0)}
    {pk : Bytes 33} (h : pk ∈ ((GroupRoster.new groupId stake).admits sha256 k256 reqs).members) :
    ∃ req ∈ reqs, ∃ j, j.presenterPubkey = pk ∧ req.Verified sha256 k256 groupId stake j := by
  rw [members_admits, List.mem_toFinset] at h
  obtain ⟨j, hj, rfl⟩ := List.mem_map.mp h
  obtain ⟨req, hreq, hverified⟩ := admitted_verified hj
  exact ⟨req, hreq, j, rfl, hverified⟩

/-- A journal is admitted to one group. -/
theorem admitted_group {g g' : String} {stake stake' : U128} {reqs reqs' : List (MembershipRequest risc0)}
    {j : PublicJournal} (h : j ∈ (GroupRoster.new g stake).admitted sha256 k256 reqs)
    (h' : j ∈ (GroupRoster.new g' stake').admitted sha256 k256 reqs') :
    g = g' ∨ Collision sha256 (groupContextBytes g) (groupContextBytes g') := by
  obtain ⟨_, _, hverified⟩ := admitted_verified h
  obtain ⟨_, _, hverified'⟩ := admitted_verified h'
  rcases eq_or_collision (h := sha256) (hverified.context.symm.trans hverified'.context) with hbytes | hcol
  · exact .inl (ByteLayout.utf8_injective (List.append_cancel_left hbytes))
  · exact .inr hcol

end Receive

/-! The groups behind one transport. -/

/-- The transport, and the roster of every group. -/
structure ChatNetwork (σ : Type) where
  transport : σ
  rosters : String → GroupRoster

open WakuRest (contentTopicFor)

section Network

variable (sha256 : HashFn) (k256 : K256) {risc0 : Risc0} {σ ι M : Type} (step : σ → ι → σ)
  (returned : String → σ → ι → List (CredentialEnvelope risc0))

namespace ChatNetwork

/-- What a poll of a group's topic returns goes to the group's operator. -/
def next (net : ChatNetwork σ) (event : ι) : ChatNetwork σ where
  transport := step net.transport event
  rosters groupId := (returned (contentTopicFor groupId) net.transport event).foldl
    (GroupRoster.receive sha256 k256) (net.rosters groupId)

def run (idle : σ) (stakes : String → U128) (events : List ι) : ChatNetwork σ :=
  events.foldl (ChatNetwork.next sha256 k256 step returned)
    ⟨idle, fun groupId => .new groupId (stakes groupId)⟩

/-- Every roster is what admitting the received envelopes in their order makes it.
They and the waiting ones were sent, so each member holds a key from a sent
envelope that verifies for the group. An envelope that comes back changes nothing,
and no journal opens two groups. -/
structure Gated (stakes : String → U128)
    (sent received waiting : String → List (CredentialEnvelope risc0))
    (rosters : String → GroupRoster) : Prop where
  roster : ∀ g, rosters g = (GroupRoster.new g (stakes g)).admits sha256 k256
    ((received g).map CredentialEnvelope.request)
  origin : ∀ g, (received g ++ waiting g).Sublist (sent g)
  member : ∀ g, ∀ pk ∈ (rosters g).members, ∃ e ∈ sent g, ∃ j, j.presenterPubkey = pk ∧
    e.request.Verified sha256 k256 g (stakes g) j
  again : ∀ g, ∀ es ⊆ received g, es.foldl (GroupRoster.receive sha256 k256) (rosters g) = rosters g
  apart : ∀ g g' j,
    j ∈ (GroupRoster.new g (stakes g)).admitted sha256 k256
      ((received g).map CredentialEnvelope.request) →
    j ∈ (GroupRoster.new g' (stakes g')).admitted sha256 k256
      ((received g').map CredentialEnvelope.request) →
    g = g' ∨ Collision sha256 (groupContextBytes g) (groupContextBytes g')

variable {sha256 k256 step returned} {idle : σ} {stakes : String → U128} {events : List ι}

variable (sha256 k256 step returned events) in
theorem foldl_eq_feed (net : ChatNetwork σ) (groupId : String) :
    ((events.foldl (ChatNetwork.next sha256 k256 step returned) net).transport,
      (events.foldl (ChatNetwork.next sha256 k256 step returned) net).rosters groupId) =
    events.foldl (feed step (returned (contentTopicFor groupId)) (GroupRoster.receive sha256 k256))
      (net.transport, net.rosters groupId) := by
  induction events generalizing net with
  | nil => rfl
  | cons event events ih => exact ih (net.next sha256 k256 step returned event)

theorem run_eq (groupId : String) :
    (run sha256 k256 step returned idle stakes events).transport = events.foldl step idle ∧
      (run sha256 k256 step returned idle stakes events).rosters groupId =
        (GroupRoster.new groupId (stakes groupId)).admits sha256 k256
          ((along step (returned (contentTopicFor groupId)) idle events).map
            CredentialEnvelope.request) := by
  have hfeed := foldl_eq_feed sha256 k256 step returned events
    ⟨idle, fun groupId => .new groupId (stakes groupId)⟩ groupId
  rw [feed_run, receive_foldl] at hfeed
  exact Prod.mk.inj hfeed

variable {read : M → Option (CredentialEnvelope risc0)} {keep : List M → List M}
  {buffer : String → σ → List M} {op : String → ι → Option (Op M)}
  {accepted : String → σ → ι → List (CredentialEnvelope risc0)}

variable (sha256 k256 idle stakes events) in
theorem gated (hserves : ∀ topic, Serves read keep step (buffer topic) (op topic) (accepted topic)
      (returned topic)) (hkeep : ∀ b, (keep b).Sublist b.tail) (hidle : ∀ topic, buffer topic idle = []) :
    Gated sha256 k256 stakes (fun g => along step (accepted (contentTopicFor g)) idle events)
      (fun g => along step (returned (contentTopicFor g)) idle events)
      (fun g => (buffer (contentTopicFor g)
        (run sha256 k256 step returned idle stakes events).transport).filterMap read)
      (run sha256 k256 step returned idle stakes events).rosters := by
  have horigin (g : String) := (hserves (contentTopicFor g)).out_sublist hkeep (hidle _) events
  refine ⟨fun g => (run_eq g).2, ?_, ?_, ?_, ?_⟩
  · intro g
    rw [(run_eq g).1]
    exact horigin g
  · intro g pk hpk
    rw [(run_eq g).2] at hpk
    obtain ⟨req, hreq, j, hkey, hverified⟩ := member_of_admits hpk
    obtain ⟨e, he, rfl⟩ := List.mem_map.mp hreq
    exact ⟨e, (horigin g).subset (List.mem_append_left _ he), j, hkey, hverified⟩
  · intro g es hes
    rw [(run_eq g).2, receive_foldl]
    exact admits_again _ (List.map_subset _ hes)
  · intro g g' j h h'
    exact admitted_group h h'

variable (sha256 k256 stakes) in
/-- A topic that loses nothing leaves its roster, once the waiting envelopes are in,
where admitting all that was sent would have put it. -/
theorem admits_waiting {g : String} {waiting : List (CredentialEnvelope risc0)}
    (hkept : along step (returned (contentTopicFor g)) idle events ++ waiting =
      along step (accepted (contentTopicFor g)) idle events) :
    waiting.foldl (GroupRoster.receive sha256 k256)
        ((run sha256 k256 step returned idle stakes events).rosters g) =
      (GroupRoster.new g (stakes g)).admits sha256 k256
        ((along step (accepted (contentTopicFor g)) idle events).map CredentialEnvelope.request) := by
  rw [(run_eq g).2, receive_foldl, ← admits_append, ← List.map_append, hkept]

end ChatNetwork

end Network

open WakuRest in
/-- Token-gated groups over a Waku node, for every run of it: its polls, the sends
of this transport and the messages of other peers. A group whose polls never find
a second credential waiting decides as if it had read everything that was sent. -/
theorem waku_groups_gated {risc0 : Risc0} {bincode : Bincode risc0} (hbincode : bincode.RoundTrips)
    (sha256 : HashFn) (k256 : K256) (endpoint : String) (stakes : String → U128)
    (events : List (WakuEvent risc0)) :
    let empty : WakuNode := fun _ => []
    let net := ChatNetwork.run sha256 k256 (next bincode endpoint) (returned bincode) empty stakes events
    let sent := fun g => sent bincode endpoint (contentTopicFor g) empty events
    let waiting := fun g => pending bincode (contentTopicFor g) net.transport
    ChatNetwork.Gated sha256 k256 stakes sent
      (fun g => received bincode endpoint (contentTopicFor g) empty events) waiting net.rosters ∧
    ∀ g, OnePending bincode endpoint (contentTopicFor g) empty events →
      (waiting g).foldl (GroupRoster.receive sha256 k256) (net.rosters g) =
        (GroupRoster.new g (stakes g)).admits sha256 k256 ((sent g).map CredentialEnvelope.request) := by
  intro empty net sent waiting
  have hkeep (b : List WakuMessage) : ([] : List WakuMessage).Sublist b.tail := List.nil_sublist _
  have hserves (topic : String) : Serves (read bincode) (fun _ => []) (next bincode endpoint)
      (fun node => node topic) (op bincode topic) (accepted bincode endpoint topic)
      (returned bincode topic) := serves hbincode
  refine ⟨ChatNetwork.gated sha256 k256 empty stakes events hserves hkeep fun _ => rfl, ?_⟩
  intro g hone
  have hkept := ((hserves (contentTopicFor g)).conserved_iff hkeep empty events).mpr (keepsAll_iff.mpr hone)
  rw [← (ChatNetwork.run_eq g).1] at hkept
  exact ChatNetwork.admits_waiting sha256 k256 stakes hkept

namespace Scenario

def loungeEnvelope : CredentialEnvelope Risc0.ofJournals := ⟨loungeJournal, .replicate 32 9, [0x30], []⟩

def loungeEvents : List (WakuEvent Risc0.ofJournals) :=
  [.send (contentTopicFor "lounge") loungeEnvelope .ok, .recv (contentTopicFor "lounge") .messages,
    .recv (contentTopicFor "lounge") .messages]

end Scenario

open Scenario WakuRest in
theorem waku_lounge_gated :
    let bincode := bincode loungeJournal
    let endpoint := "http://127.0.0.1:8645"
    let empty : WakuNode := fun _ => []
    let net := ChatNetwork.run Sha256.digest loungeKeys (next bincode endpoint) (returned bincode) empty
      (fun _ => 100000) loungeEvents
    let sent := fun g => sent bincode endpoint (contentTopicFor g) empty loungeEvents
    ChatNetwork.Gated Sha256.digest loungeKeys (fun _ => 100000) sent
      (fun g => received bincode endpoint (contentTopicFor g) empty loungeEvents)
      (fun g => pending bincode (contentTopicFor g) net.transport) net.rosters ∧
    (pending bincode (contentTopicFor "lounge") net.transport).foldl
        (GroupRoster.receive Sha256.digest loungeKeys) (net.rosters "lounge") =
      (GroupRoster.new "lounge" 100000).admits Sha256.digest loungeKeys
        ((sent "lounge").map CredentialEnvelope.request) ∧
    loungeJournal.presenterPubkey ∈ (net.rosters "lounge").members := by
  intro bincode endpoint empty net sent
  obtain ⟨hgated, hkept⟩ := waku_groups_gated (bincode_roundTrips loungeJournal) Sha256.digest loungeKeys
    endpoint (fun _ => 100000) loungeEvents
  have hone : OnePending bincode endpoint (contentTopicFor "lounge") empty loungeEvents :=
    (conserved_iff (bincode_roundTrips loungeJournal) loungeEvents).mp (by decide +kernel)
  exact ⟨hgated, hkept "lounge" hone, by decide +kernel⟩

open InMemoryTransport in
/-- The same over the in-process bus, where nothing is ever lost. -/
theorem inmem_groups_gated {risc0 : Risc0} (sha256 : HashFn) (k256 : K256) (stakes : String → U128)
    (events : List (BusEvent risc0)) :
    let empty : InMemoryTransport risc0 := fun _ => []
    let net := ChatNetwork.run sha256 k256 next returned empty stakes events
    let sent := fun g => along next (accepted (contentTopicFor g)) empty events
    let waiting := fun g => net.transport (contentTopicFor g)
    ChatNetwork.Gated sha256 k256 stakes sent
      (fun g => along next (returned (contentTopicFor g)) empty events) waiting net.rosters ∧
    ∀ g, (waiting g).foldl (GroupRoster.receive sha256 k256) (net.rosters g) =
      (GroupRoster.new g (stakes g)).admits sha256 k256 ((sent g).map CredentialEnvelope.request) := by
  intro empty net sent waiting
  have hkeep (b : List (CredentialEnvelope risc0)) : b.tail.Sublist b.tail := List.Sublist.refl _
  have hgated := ChatNetwork.gated sha256 k256 empty stakes events serves hkeep fun _ => rfl
  simp only [List.filterMap_some] at hgated
  refine ⟨hgated, fun g => ?_⟩
  have hkept := ((serves (contentTopicFor g)).conserved_iff hkeep empty events).mpr fun _ _ _ _ _ => rfl
  simp only [List.filterMap_some] at hkept
  rw [← (ChatNetwork.run_eq g).1] at hkept
  exact ChatNetwork.admits_waiting sha256 k256 stakes hkept

end BalanceAttestation
