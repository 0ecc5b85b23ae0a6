import BalanceAttestation.Mailbox
import BalanceAttestation.WakuBase64

/-! Credentials over a Waku node. The node buffers the messages of a topic, and a
poll empties the buffer; `recv` hands out the first message and drops the rest. -/

namespace BalanceAttestation

open Checks Mailbox

/-- A decoded value comes with the number of bytes it was read from. -/
structure Bincode (risc0 : Risc0) where
  encodeToVec : CredentialEnvelope risc0 → Except String (List UInt8)
  decodeFromSlice : List UInt8 → Except String (CredentialEnvelope risc0 × Nat)

def Bincode.RoundTrips {risc0 : Risc0} (bincode : Bincode risc0) : Prop :=
  ∀ e bytes, bincode.encodeToVec e = .ok bytes → ∃ n, bincode.decodeFromSlice bytes = .ok (e, n)

/-- A message as the node keeps it; the payload is `none` unless it is a text. -/
structure WakuMessage where
  payload : Option (List UInt8)
  contentTopic : String
  version : Nat
  ephemeral : Bool
  deriving DecidableEq

abbrev WakuNode := String → List WakuMessage

def WakuNode.post (node : WakuNode) (m : WakuMessage) : WakuNode :=
  Function.update node m.contentTopic (node m.contentTopic ++ [m])

inductive PostResponse
  | ok
  | status (code : Nat) (detail : String)
  | failed (reason : String)

inductive GetResponse
  | messages
  | notJson (reason : String)
  | failed (reason : String)

namespace WakuRest

variable {risc0 : Risc0} (bincode : Bincode risc0)

def encodeEnvelope (envelope : CredentialEnvelope risc0) : Except TransportError (List UInt8) :=
  (bincode.encodeToVec envelope).mapError .encode

def decodeEnvelope (bytes : List UInt8) : Except TransportError (CredentialEnvelope risc0) :=
  ((bincode.decodeFromSlice bytes).map Prod.fst).mapError .decode

theorem decodeEnvelope_ok {bytes : List UInt8} {e : CredentialEnvelope risc0} :
    decodeEnvelope bincode bytes = .ok e ↔ ∃ n, bincode.decodeFromSlice bytes = .ok (e, n) := by
  rw [decodeEnvelope, mapError_ok]
  cases bincode.decodeFromSlice bytes with
  | error reason => simp [Except.map]
  | ok value =>
    obtain ⟨e', n⟩ := value
    simp [Except.map]

def statusError (endpoint topic : String) (code : Nat) (detail : String) : TransportError :=
  if "NoPeersToPublish".toList <:+: detail.toList then
    .upstream ("the Waku node at " ++ endpoint ++ " has no relay peers, so nothing was published. " ++
      "Peer it with --staticnode=<listenAddress of another node>.")
  else .upstream ("publish to " ++ topic ++ " failed with HTTP " ++ toString code ++ ": " ++ detail)

def published (endpoint topic : String) : PostResponse → Except TransportError Unit
  | .ok => .ok ()
  | .status code detail => .error (statusError endpoint topic code detail)
  | .failed reason => .error (.upstream ("publish to " ++ topic ++ ": " ++ reason))

def send (endpoint topic : String) (envelope : CredentialEnvelope risc0) (response : PostResponse)
    (node : WakuNode) : Except TransportError Unit × WakuNode :=
  match encodeEnvelope bincode envelope with
  | .error e => (.error e, node)
  | .ok bytes =>
    let body : WakuMessage := ⟨some (b64Encode bytes), topic, 0, false⟩
    -- The node appends what it answers `ok` to.
    let node := match response with
      | .ok => node.post body
      | _ => node
    (published endpoint topic response, node)

def openMessage (first : WakuMessage) : Except TransportError (CredentialEnvelope risc0) := do
  let payload ← okOr first.payload (.decode "Waku message had no payload")
  let bytes ← b64Decode payload
  decodeEnvelope bincode bytes

def recv (topic : String) (response : GetResponse) (node : WakuNode) :
    Except TransportError (Option (CredentialEnvelope risc0)) × WakuNode :=
  match response with
  | .failed reason => (.error (.upstream ("poll " ++ topic ++ ": " ++ reason)), node)
  | .notJson reason => (.error (.decode ("message list was not JSON: " ++ reason)), node)
  | .messages =>
    let msgs := node topic
    let node := Function.update node topic []
    match msgs with
    | [] => (.ok none, node)
    | first :: _ => ((openMessage bincode first).map some, node)

end WakuRest

/-- What happens at a node: this transport's calls, with the node's answer, and
the messages of other peers. -/
inductive WakuEvent (risc0 : Risc0)
  | send (topic : String) (envelope : CredentialEnvelope risc0) (response : PostResponse)
  | publish (m : WakuMessage)
  | recv (topic : String) (response : GetResponse)

namespace WakuRest

variable {risc0 : Risc0} (bincode : Bincode risc0) (endpoint : String)

def next (node : WakuNode) : WakuEvent risc0 → WakuNode
  | .send topic envelope response => (send bincode endpoint topic envelope response node).2
  | .publish m => node.post m
  | .recv topic response => (recv bincode topic response node).2

def run (node : WakuNode) (events : List (WakuEvent risc0)) : WakuNode :=
  events.foldl (next bincode endpoint) node

def read (m : WakuMessage) : Option (CredentialEnvelope risc0) := (openMessage bincode m).toOption

def returned (topic : String) (node : WakuNode) : WakuEvent risc0 → List (CredentialEnvelope risc0)
  | .recv t response =>
    if t = topic then
      match (recv bincode topic response node).1 with
      | .ok (some envelope) => [envelope]
      | _ => []
    else []
  | _ => []

/-- The envelope that reaches the topic: by a `send` that succeeds, or by another
peer in a message that can be read. -/
def accepted (topic : String) (node : WakuNode) : WakuEvent risc0 → List (CredentialEnvelope risc0)
  | .send t envelope response =>
    if t = topic ∧ (send bincode endpoint t envelope response node).1.isOk then [envelope] else []
  | .publish m => if m.contentTopic = topic then (read bincode m).toList else []
  | .recv _ _ => []

def received (topic : String) : WakuNode → List (WakuEvent risc0) → List (CredentialEnvelope risc0) :=
  along (next bincode endpoint) (returned bincode topic)

def sent (topic : String) : WakuNode → List (WakuEvent risc0) → List (CredentialEnvelope risc0) :=
  along (next bincode endpoint) (accepted bincode endpoint topic)

def pending (topic : String) (node : WakuNode) : List (CredentialEnvelope risc0) :=
  (node topic).filterMap (read bincode)

def op (topic : String) : WakuEvent risc0 → Option (Op WakuMessage)
  | .send t envelope .ok =>
    if t = topic then
      match encodeEnvelope bincode envelope with
      | .ok bytes => some (.post ⟨some (b64Encode bytes), t, 0, false⟩)
      | .error _ => none
    else none
  | .send _ _ _ => none
  | .publish m => if m.contentTopic = topic then some (.post m) else none
  | .recv t .messages => if t = topic then some .poll else none
  | .recv _ _ => none

variable {bincode endpoint} {topic : String} {node : WakuNode}

theorem decodeEnvelope_encodeEnvelope (hbincode : bincode.RoundTrips) {e : CredentialEnvelope risc0}
    {bytes : List UInt8} (h : encodeEnvelope bincode e = .ok bytes) :
    decodeEnvelope bincode bytes = .ok e := by
  rw [encodeEnvelope, mapError_ok] at h
  exact (decodeEnvelope_ok bincode).mpr (hbincode e bytes h)

theorem read_sent (hbincode : bincode.RoundTrips) {e : CredentialEnvelope risc0} {bytes : List UInt8}
    (h : encodeEnvelope bincode e = .ok bytes) (t : String) :
    read bincode ⟨some (b64Encode bytes), t, 0, false⟩ = some e := by
  rw [read, toOption_eq_some]
  simp only [openMessage, bind_ok]
  exact ⟨_, rfl, bytes, b64Decode_b64Encode bytes, decodeEnvelope_encodeEnvelope hbincode h⟩

theorem post_apply (m : WakuMessage) : (node.post m) topic =
    if m.contentTopic = topic then node topic ++ [m] else node topic := by
  by_cases h : m.contentTopic = topic
  · subst h
    simp [WakuNode.post]
  · simp [WakuNode.post, h, Function.update_of_ne (Ne.symm h)]

theorem published_isOk {t : String} {response : PostResponse} (h : response ≠ .ok) :
    (published endpoint t response).isOk = false := by
  cases response with
  | ok => exact absurd rfl h
  | status code detail => rfl
  | failed reason => rfl

theorem send_unpublished {t : String} {e : CredentialEnvelope risc0} {response : PostResponse}
    (h : response ≠ .ok) : (send bincode endpoint t e response node).1.isOk = false ∧
      (send bincode endpoint t e response node).2 = node := by
  rw [send]
  cases encodeEnvelope bincode e with
  | error reason => exact ⟨rfl, rfl⟩
  | ok bytes =>
    refine ⟨published_isOk h, ?_⟩
    cases response with
    | ok => exact absurd rfl h
    | status code detail => rfl
    | failed reason => rfl

theorem send_unencoded {t : String} {e : CredentialEnvelope risc0} {response : PostResponse}
    {reason : TransportError} (h : encodeEnvelope bincode e = .error reason) :
    send bincode endpoint t e response node = (.error reason, node) := by
  rw [send, h]

theorem send_published {t : String} {e : CredentialEnvelope risc0} {bytes : List UInt8}
    (h : encodeEnvelope bincode e = .ok bytes) : send bincode endpoint t e .ok node =
      (.ok (), node.post ⟨some (b64Encode bytes), t, 0, false⟩) := by
  rw [send, h]
  rfl

theorem next_apply (event : WakuEvent risc0) : next bincode endpoint node event topic =
    after (fun _ => []) (node topic) (op bincode topic event) := by
  cases event with
  | send t e response =>
    cases response with
    | ok =>
      rw [next, op]
      cases hencode : encodeEnvelope bincode e with
      | error reason =>
        rw [send_unencoded hencode]
        by_cases ht : t = topic <;> simp [ht, after]
      | ok bytes =>
        rw [send_published hencode]
        by_cases ht : t = topic <;> simp [post_apply, ht, after]
    | status code detail =>
      rw [next, (send_unpublished (by simp)).2]
      rfl
    | failed reason =>
      rw [next, (send_unpublished (by simp)).2]
      rfl
  | publish m =>
    rw [next, op, post_apply]
    by_cases hm : m.contentTopic = topic <;> simp [hm, after]
  | recv t response =>
    cases response with
    | failed reason => rfl
    | notJson reason => rfl
    | messages =>
      have hempty : (recv bincode t .messages node).2 = Function.update node t [] := by
        rw [recv]
        cases node t <;> rfl
      rw [next, op, hempty]
      by_cases ht : t = topic
      · simp [ht, after]
      · simp [ht, after, Function.update_of_ne (Ne.symm ht)]

theorem op_eq_poll {event : WakuEvent risc0} :
    op bincode topic event = some .poll ↔ event = .recv topic .messages := by
  cases event with
  | send t e response =>
    cases response with
    | ok =>
      rw [op]
      cases encodeEnvelope bincode e <;> by_cases ht : t = topic <;> simp [ht]
    | status code detail => simp [op]
    | failed reason => simp [op]
  | publish m => by_cases hm : m.contentTopic = topic <;> simp [op, hm]
  | recv t response =>
    cases response with
    | messages => by_cases ht : t = topic <;> simp [op, ht]
    | notJson reason => simp [op]
    | failed reason => simp [op]

theorem returned_eq (event : WakuEvent risc0) : returned bincode topic node event =
    handed (read bincode) (node topic) (op bincode topic event) := by
  cases event with
  | send t e response =>
    have hop : op bincode topic (.send t e response) ≠ some .poll := by simp [op_eq_poll]
    rw [handed]
    · rfl
    · exact hop
  | publish m => by_cases hm : m.contentTopic = topic <;> simp [returned, op, hm, handed]
  | recv t response =>
    cases response with
    | failed reason => by_cases ht : t = topic <;> simp [returned, op, recv, ht, handed]
    | notJson reason => by_cases ht : t = topic <;> simp [returned, op, recv, ht, handed]
    | messages =>
      by_cases ht : t = topic
      · subst ht
        rw [returned, recv, op]
        cases hbuffer : node t with
        | nil => simp [handed]
        | cons first rest =>
          cases hread : openMessage bincode first with
          | error e => simp [read, hread, handed, Except.map, Except.toOption]
          | ok e => simp [read, hread, handed, Except.map, Except.toOption]
      · simp [returned, op, ht, handed]

theorem accepted_eq (hbincode : bincode.RoundTrips) (event : WakuEvent risc0) :
    accepted bincode endpoint topic node event = added (read bincode) (op bincode topic event) := by
  cases event with
  | send t e response =>
    cases response with
    | ok =>
      rw [accepted, op]
      cases hencode : encodeEnvelope bincode e with
      | error reason =>
        rw [send_unencoded hencode]
        by_cases ht : t = topic <;> simp [ht, added, Except.isOk, Except.toBool]
      | ok bytes =>
        rw [send_published hencode]
        by_cases ht : t = topic
        · subst ht
          simp [read_sent hbincode hencode, added, Except.isOk, Except.toBool]
        · simp [ht, added]
    | status code detail => simp [accepted, op, added, (send_unpublished _).1]
    | failed reason => simp [accepted, op, added, (send_unpublished _).1]
  | publish m => by_cases hm : m.contentTopic = topic <;> simp [accepted, op, added, hm]
  | recv t response =>
    cases response with
    | failed reason => rfl
    | notJson reason => rfl
    | messages => by_cases ht : t = topic <;> simp [accepted, op, added, ht]

theorem serves (hbincode : bincode.RoundTrips) : Serves (read bincode) (fun _ => [])
    (next bincode endpoint) (fun node => node topic) (op bincode topic)
    (accepted bincode endpoint topic) (returned bincode topic) where
  buffer_next _ event := next_apply event
  put_eq _ event := accepted_eq hbincode event
  out_eq _ event := returned_eq event

/-- At every poll of the topic nothing behind the first message can be read. -/
def OnePending (bincode : Bincode risc0) (endpoint topic : String) (node : WakuNode)
    (events : List (WakuEvent risc0)) : Prop :=
  ∀ pre post, events = pre ++ .recv topic .messages :: post →
    ∀ m ∈ (run bincode endpoint node pre topic).tail, read bincode m = none

theorem keepsAll_iff {events : List (WakuEvent risc0)} :
    (∀ pre event post, events = pre ++ event :: post → op bincode topic event = some .poll →
      ([] : List WakuMessage).filterMap (read bincode) =
        (pre.foldl (next bincode endpoint) node topic).tail.filterMap (read bincode)) ↔
      OnePending bincode endpoint topic node events := by
  constructor
  · intro h pre post hevents
    exact List.filterMap_eq_nil_iff.mp (h pre _ post hevents (op_eq_poll.mpr rfl)).symm
  · intro h pre event post hevents hpoll
    rw [op_eq_poll.mp hpoll] at hevents
    exact (List.filterMap_eq_nil_iff.mpr (h pre post hevents)).symm

theorem conserved_iff (hbincode : bincode.RoundTrips) (events : List (WakuEvent risc0)) :
    received bincode endpoint topic (fun _ => []) events ++
        pending bincode topic (run bincode endpoint (fun _ => []) events) =
      sent bincode endpoint topic (fun _ => []) events ↔
        OnePending bincode endpoint topic (fun _ => []) events := by
  rw [← keepsAll_iff]
  exact (serves hbincode).conserved_iff (fun _ => List.nil_sublist _) _ events

theorem OnePending.prefix {pre post : List (WakuEvent risc0)}
    (h : OnePending bincode endpoint topic node (pre ++ post)) :
    OnePending bincode endpoint topic node pre := by
  intro before after hpre
  exact h before (after ++ post) (by rw [hpre, List.append_assoc, List.cons_append])

end WakuRest

open WakuRest in
/-- What the topic's successful `recv` calls return and what still waits at the
node are what was sent, in order and once each, exactly in the runs in which no
poll finds a second message that can be read; then also in every state before. -/
theorem waku_conserves_iff {risc0 : Risc0} {bincode : Bincode risc0} (hbincode : bincode.RoundTrips)
    (endpoint topic : String) (events : List (WakuEvent risc0)) :
    let empty : WakuNode := fun _ => []
    let Conserved (events : List (WakuEvent risc0)) :=
      received bincode endpoint topic empty events ++
        pending bincode topic (run bincode endpoint empty events) =
      sent bincode endpoint topic empty events
    (Conserved events ↔ OnePending bincode endpoint topic empty events) ∧
    (OnePending bincode endpoint topic empty events →
      ∀ pre post, events = pre ++ post → Conserved pre) := by
  intro empty Conserved
  refine ⟨conserved_iff hbincode events, ?_⟩
  intro h pre post hevents
  rw [hevents] at h
  exact (conserved_iff hbincode pre).mpr h.prefix

/-! Two envelopes under one signature, told apart by their metadata, in the layout
of bincode: a byte string under 251 bytes stands after its length. One receipt is known
to the codec, and a single byte stands for it. -/

namespace Scenario

def numbered (appMeta : List UInt8) : CredentialEnvelope Risc0.ofJournals :=
  envelope [0x30, 0x06, 0x02, 0x01, 0x00, 0x02, 0x01, 0x00] appMeta

instance : DecidableEq Risc0.ofJournals.Receipt := inferInstanceAs (DecidableEq PublicJournal)

instance : DecidableEq (CredentialEnvelope Risc0.ofJournals) := fun e e' =>
  decidable_of_iff (e.receipt = e'.receipt ∧ e.challengeNonce = e'.challengeNonce ∧
    e.presenterSignatureDer = e'.presenterSignatureDer ∧ e.appMeta = e'.appMeta) (by
    cases e
    cases e'
    simp)

def varBytes (s : List UInt8) : List UInt8 := UInt8.ofNat s.length :: s

def takeVar : List UInt8 → Option (List UInt8 × List UInt8)
  | [] => none
  | n :: bytes => if n.toNat ≤ bytes.length then some (bytes.splitAt n.toNat) else none

theorem takeVar_varBytes {s : List UInt8} (h : s.length < 251) (rest : List UInt8) :
    takeVar (varBytes s ++ rest) = some (s, rest) := by
  have hn : (UInt8.ofNat s.length).toNat = s.length := by
    rw [UInt8.toNat_ofNat']
    omega
  simp [varBytes, takeVar, hn]

/-- The value at the front, and what is left. -/
def decodeBytes (receipt : Risc0.ofJournals.Receipt) :
    List UInt8 → Option (CredentialEnvelope Risc0.ofJournals × List UInt8)
  | 1 :: bytes =>
    if h : (bytes.take 32).length = 32 then do
      let (signature, bytes') ← takeVar (bytes.drop 32)
      let (appMeta, rest) ← takeVar bytes'
      return (⟨receipt, ⟨bytes.take 32, h⟩, signature, appMeta⟩, rest)
    else none
  | _ => none

def bincode (receipt : Risc0.ofJournals.Receipt) : Bincode Risc0.ofJournals where
  encodeToVec e :=
    if e.receipt = receipt ∧ e.presenterSignatureDer.length < 251 ∧ e.appMeta.length < 251 then
      .ok (1 :: (e.challengeNonce.toList ++ (varBytes e.presenterSignatureDer ++ varBytes e.appMeta)))
    else .error "Unsupported"
  decodeFromSlice bytes := do
    let (e, rest) ← okOr (decodeBytes receipt bytes) "UnexpectedEnd"
    return (e, bytes.length - rest.length)

theorem bincode_roundTrips (receipt : Risc0.ofJournals.Receipt) : (bincode receipt).RoundTrips := by
  intro e bytes h
  obtain ⟨receipt', nonce, signature, appMeta⟩ := e
  simp only [bincode] at h
  split at h
  · next hsmall =>
    obtain ⟨rfl, hsignature, hmeta⟩ := hsmall
    refine ⟨_, bind_ok.mpr ⟨(_, []), ?_, rfl⟩⟩
    rw [← Except.ok.inj h, okOr_ok, decodeBytes]
    have htake : (nonce.toList ++ (varBytes signature ++ varBytes appMeta)).take 32 = nonce.toList :=
      List.take_left' nonce.toList_length
    have hdrop : (nonce.toList ++ (varBytes signature ++ varBytes appMeta)).drop 32 =
        varBytes signature ++ varBytes appMeta := List.drop_left' nonce.toList_length
    have hlast := takeVar_varBytes hmeta []
    rw [List.append_nil] at hlast
    simp [htake, hdrop, takeVar_varBytes hsignature, hlast]
  · cases h

def twoSends : List (WakuEvent Risc0.ofJournals) :=
  [.send "lounge" (numbered (ascii "1")) .ok, .send "lounge" (numbered (ascii "2")) .ok,
    .recv "lounge" .messages, .recv "lounge" .messages]

def inTurns : List (WakuEvent Risc0.ofJournals) :=
  [.send "lounge" (numbered (ascii "1")) .ok, .recv "lounge" .messages,
    .send "lounge" (numbered (ascii "2")) .ok, .recv "lounge" .messages]

end Scenario

open Scenario WakuRest in
theorem waku_conserves_numbered :
    let bincode := bincode journal
    let endpoint := "http://127.0.0.1:8645"
    let empty : WakuNode := fun _ => []
    let Conserved (events : List (WakuEvent Risc0.ofJournals)) :=
      received bincode endpoint "lounge" empty events ++
        pending bincode "lounge" (run bincode endpoint empty events) =
      sent bincode endpoint "lounge" empty events
    (Conserved twoSends ↔ OnePending bincode endpoint "lounge" empty twoSends) ∧
    OnePending bincode endpoint "lounge" empty inTurns ∧
    ∀ pre post, inTurns = pre ++ post → Conserved pre := by
  intro bincode endpoint empty Conserved
  have hturns := waku_conserves_iff (bincode_roundTrips journal) endpoint "lounge" inTurns
  have hone := hturns.1.mp (by decide +kernel)
  exact ⟨(waku_conserves_iff (bincode_roundTrips journal) endpoint "lounge" twoSends).1, hone, hturns.2 hone⟩

open Scenario WakuRest in
theorem waku_drops_second :
    let bincode := bincode journal
    let empty : WakuNode := fun _ => []
    let received := received bincode "http://127.0.0.1:8645" "lounge" empty twoSends
    let pending := pending bincode "lounge" (run bincode "http://127.0.0.1:8645" empty twoSends)
    let sent := sent bincode "http://127.0.0.1:8645" "lounge" empty twoSends
    bincode.RoundTrips ∧ received = [numbered (ascii "1")] ∧ pending = [] ∧
      sent = [numbered (ascii "1"), numbered (ascii "2")] ∧ received ++ pending ≠ sent :=
  ⟨bincode_roundTrips journal, by decide +kernel⟩

end BalanceAttestation
