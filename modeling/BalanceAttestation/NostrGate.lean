import BalanceAttestation.GateAgreement

/-! The Nostr relay gate. The relay draws a challenge per session, but the gate
takes the nonce from the tag; runs of AUTH attempts show what that costs. -/

namespace BalanceAttestation

open ByteLayout Checks VerifierOffchain

/-- What the gate calls of `base64`, `bincode` and `hex`, errors as texts. -/
structure TagCodec (risc0 : Risc0) where
  b64Decode : String → Except String (List UInt8)
  decodeReceipt : List UInt8 → Except String (risc0.Receipt × Nat)
  hexDecode : String → Except String (List UInt8)

inductive NostrGateError
  | missingTag
  | badBase64 (reason : String)
  | decodeReceipt (reason : String)
  | verify (e : VerifyError)
  | badHex (reason : String)
  deriving DecidableEq

structure Lp0005AuthTag where
  credentialB64 : String
  nonceHex : String
  signatureHex : String
  deriving DecidableEq

def contextIdForRelay (sha256 : HashFn) (relayId : String) : Bytes 32 :=
  sha256 (ascii "nostr-auth-gate/v1/" ++ relayId.toUTF8.toList)

def nonceBytes (bytes : List UInt8) : Option (Bytes 32) :=
  if h : bytes.length = 32 then some ⟨bytes, h⟩ else none

def verifyNip42WithLp0005 (sha256 : HashFn) (k256 : K256) {risc0 : Risc0} (codec : TagCodec risc0)
    (tag : Lp0005AuthTag) (relayContext : String) (minimumThreshold : U128) :
    Except NostrGateError PublicJournal := do
  let receiptBytes ← (codec.b64Decode tag.credentialB64).mapError .badBase64
  let (receipt, _) ← (codec.decodeReceipt receiptBytes).mapError .decodeReceipt
  let nonce ← (codec.hexDecode tag.nonceHex).mapError .badHex
  let nonce ← okOr (nonceBytes nonce) (.badHex "nonce must be exactly 32 bytes")
  let signatureBytes ← (codec.hexDecode tag.signatureHex).mapError .badHex
  let contextId := contextIdForRelay sha256 relayContext
  let journal ← (verifyCredential sha256 k256 risc0 receipt nonce signatureBytes contextId
    minimumThreshold).mapError .verify
  return journal

structure RelaySession where
  challenge : Bytes 32
  relayContext : String
  minimumThreshold : U128

structure AuthAttempt where
  session : RelaySession
  tag : Lp0005AuthTag

namespace AuthAttempt

variable (sha256 : HashFn) (k256 : K256) {risc0 : Risc0} (codec : TagCodec risc0) (a : AuthAttempt)

def accepted : Bool :=
  (verifyNip42WithLp0005 sha256 k256 codec a.tag a.session.relayContext
    a.session.minimumThreshold).isOk

def Answers : Prop := codec.hexDecode a.tag.nonceHex = .ok a.session.challenge.toList

instance : Decidable (a.Answers codec) :=
  inferInstanceAs (Decidable (codec.hexDecode a.tag.nonceHex = .ok a.session.challenge.toList))

/-- The tag is a complete credential for the session's relay and floor, signed
over `nonce`, which is the tag's own. -/
structure Carries (nonce : Bytes 32) (receiptBytes : List UInt8) (receipt : risc0.Receipt)
    (signature : List UInt8) (j : PublicJournal) : Prop where
  credential : codec.b64Decode a.tag.credentialB64 = .ok receiptBytes
  decoded : ∃ consumed, codec.decodeReceipt receiptBytes = .ok (receipt, consumed)
  ownNonce : codec.hexDecode a.tag.nonceHex = .ok nonce.toList
  signatureHex : codec.hexDecode a.tag.signatureHex = .ok signature
  verified : verifyReceipt risc0 receipt = .ok j
  context : j.contextId = contextIdForRelay sha256 a.session.relayContext
  floor : a.session.minimumThreshold ≤ j.threshold
  signed : SignatureVerifies sha256 k256 nonce j signature

def Stale : Prop :=
  ∃ nonce receiptBytes receipt signature j,
    a.Carries sha256 k256 codec nonce receiptBytes receipt signature j ∧
      nonce ≠ a.session.challenge

end AuthAttempt

theorem nonceBytes_eq_some {bytes : List UInt8} {nonce : Bytes 32} :
    nonceBytes bytes = some nonce ↔ bytes = nonce.toList := ofSlice_eq_some

section Freshness

variable {sha256 : HashFn} {k256 : K256} {risc0 : Risc0} {codec : TagCodec risc0} {a b : AuthAttempt}

theorem AuthAttempt.accepted_iff : a.accepted sha256 k256 codec = true ↔
    ∃ nonce receiptBytes receipt signature j,
      a.Carries sha256 k256 codec nonce receiptBytes receipt signature j := by
  simp only [accepted, isOk_iff, verifyNip42WithLp0005, bind_ok, mapError_ok, okOr_ok,
    nonceBytes_eq_some, verifyCredential_eq_ok]
  constructor
  · intro h
    obtain ⟨j, rb, hrb, ⟨r, consumed⟩, hr, _, hn, n, rfl, s, hs, hj, hc, hf, hv⟩ := h
    exact ⟨n, rb, r, s, j, hrb, ⟨consumed, hr⟩, hn, hs, hj, hc, hf, hv⟩
  · intro h
    obtain ⟨n, rb, r, s, j, hc⟩ := h
    obtain ⟨consumed, hdecoded⟩ := hc.decoded
    exact ⟨j, rb, hc.credential, (r, consumed), hdecoded, n.toList, hc.ownNonce, n, rfl, s, hc.signatureHex,
      hc.verified, hc.context, hc.floor, hc.signed⟩

theorem AuthAttempt.fresh_iff :
    (a.accepted sha256 k256 codec = true → a.Answers codec) ↔ ¬ a.Stale sha256 k256 codec := by
  rw [AuthAttempt.accepted_iff]
  constructor
  · intro h hstale
    obtain ⟨n, rb, r, s, j, hc, hne⟩ := hstale
    have hans : codec.hexDecode a.tag.nonceHex = .ok a.session.challenge.toList :=
      h ⟨n, rb, r, s, j, hc⟩
    exact hne (List.Vector.eq _ _ (Except.ok.inj (hc.ownNonce.symm.trans hans)))
  · intro hfresh hacc
    obtain ⟨n, rb, r, s, j, hc⟩ := hacc
    have hn : n = a.session.challenge := by
      by_contra hne
      exact hfresh ⟨n, rb, r, s, j, hc, hne⟩
    rw [Answers, ← hn]
    exact hc.ownNonce

theorem AuthAttempt.challenge_eq (htag : a.tag = b.tag) (ha : a.Answers codec)
    (hb : b.Answers codec) : a.session.challenge = b.session.challenge := by
  have hh : codec.hexDecode a.tag.nonceHex = .ok b.session.challenge.toList := by
    rw [htag]
    exact hb
  exact List.Vector.eq _ _ (Except.ok.inj (ha.symm.trans hh))

/-- A run is fresh exactly when no attempt presents a stale tag; then a tag
accepted in one session is rejected in every session with another challenge. -/
theorem nostr_fresh_iff (sha256 : HashFn) (k256 : K256) {risc0 : Risc0} (codec : TagCodec risc0)
    (attempts : List AuthAttempt) :
    ((∀ a ∈ attempts, a.accepted sha256 k256 codec = true → a.Answers codec) ↔
      ∀ a ∈ attempts, ¬ a.Stale sha256 k256 codec) ∧
    ((∀ a ∈ attempts, ¬ a.Stale sha256 k256 codec) →
      ∀ a ∈ attempts, ∀ b ∈ attempts, a.tag = b.tag →
        a.session.challenge ≠ b.session.challenge →
        a.accepted sha256 k256 codec = true → b.accepted sha256 k256 codec = false) := by
  have hiff : (∀ a ∈ attempts, a.accepted sha256 k256 codec = true → a.Answers codec) ↔
      ∀ a ∈ attempts, ¬ a.Stale sha256 k256 codec :=
    forall₂_congr fun a _ => AuthAttempt.fresh_iff
  refine ⟨hiff, ?_⟩
  intro hfresh a ha b hb htag hne hacc
  have hans := hiff.mpr hfresh
  rw [Bool.eq_false_iff]
  intro hacc'
  exact hne (AuthAttempt.challenge_eq htag (hans a ha hacc) (hans b hb hacc'))

end Freshness

/-! A tag signed over the challenge of one session, seen on the wire and sent
again in another. -/

namespace Scenario

def relayContext : String := "wss://relay.example"

def relayJournal : PublicJournal :=
  { journal with
    contextId := beBytes 32 0xd4ee80883da4b813b49832310d78ba8904201c7eb4d9f95e04a970cf12734464
    nullifier := beBytes 32 0x2227b936ce0ca036a2f0ec6e7d43e7ea51e5599abe3f07e2666a2d6eb148fefe }

def hexDigit (c : Char) : Option UInt8 :=
  if '0' ≤ c ∧ c ≤ '9' then some (c.toNat - 48).toUInt8
  else if 'a' ≤ c ∧ c ≤ 'f' then some (c.toNat - 87).toUInt8
  else none

def hexPairs : List Char → Option (List UInt8)
  | [] => some []
  | [_] => none
  | hi :: lo :: rest => do return (16 * (← hexDigit hi) + (← hexDigit lo)) :: (← hexPairs rest)

def tagCodec : TagCodec Risc0.ofJournals where
  b64Decode text := if text = "AQ==" then .ok [1] else .error "Invalid symbol"
  decodeReceipt bytes := if bytes = [1] then .ok (relayJournal, 1) else .error "UnexpectedEnd"
  hexDecode text := okOr (hexPairs text.toList) "Invalid character"

def relayTag : Lp0005AuthTag where
  credentialB64 := "AQ=="
  nonceHex := "0909090909090909090909090909090909090909090909090909090909090909"
  signatureHex := "3045022100abb06d5df7d92d560e9385b3c95ab11faecad2ff621c412f11f41711c7494b970220" ++
    "7741ee8334b8066a18afd7fb93eebc99243006a7a433feb53fd5e2295ade153e"

def relayDigest : Bytes 32 :=
  beBytes 32 0xef80195300d39d94389edc43060f0507771a97d093fb0e3e94befc186aa32895

def relaySignature : List UInt8 :=
  (beBytes 36 0x3045022100abb06d5df7d92d560e9385b3c95ab11faecad2ff621c412f11f41711c7494b).toList ++
    (beBytes 35 0x9702207741ee8334b8066a18afd7fb93eebc99243006a7a433feb53fd5e2295ade153e).toList

def session (challenge : Bytes 32) : RelaySession := ⟨challenge, relayContext, 4000⟩

theorem relayTag_carries (challenge : Bytes 32) :
    AuthAttempt.Carries Sha256.digest (k256 relayDigest relaySignature) tagCodec
      ⟨session challenge, relayTag⟩ nonce [1] relayJournal relaySignature relayJournal := by
  obtain ⟨hkey, hder, hverify⟩ := K256.ofTable_singleton pubkey.toList relayDigest.toList
    relaySignature
  have hdigest : presenterChallengeDigest Sha256.digest nonce relayJournal = relayDigest := by
    decide +kernel
  have hnonce : tagCodec.hexDecode relayTag.nonceHex = .ok nonce.toList := by decide +kernel
  have hsignature : tagCodec.hexDecode relayTag.signatureHex = .ok relaySignature := by
    decide +kernel
  have hcontext : relayJournal.contextId = contextIdForRelay Sha256.digest relayContext := by
    decide +kernel
  exact
    { credential := rfl
      decoded := ⟨1, rfl⟩
      ownNonce := hnonce
      signatureHex := hsignature
      verified := rfl
      context := hcontext
      floor := BitVec.le_refl 4000
      signed := ⟨pubkey.toList, relaySignature, hkey, hder,
        (hverify _).mpr (congrArg List.Vector.toList hdigest)⟩ }

end Scenario

open Scenario in
theorem nostr_replay_accepted :
    let first : AuthAttempt := ⟨session (.replicate 32 9), relayTag⟩
    let second : AuthAttempt := ⟨session (.replicate 32 8), relayTag⟩
    first.accepted Sha256.digest (k256 relayDigest relaySignature) tagCodec = true ∧
    second.accepted Sha256.digest (k256 relayDigest relaySignature) tagCodec = true ∧
    ¬ second.Answers tagCodec :=
  ⟨AuthAttempt.accepted_iff.mpr ⟨_, _, _, _, _, relayTag_carries _⟩,
    AuthAttempt.accepted_iff.mpr ⟨_, _, _, _, _, relayTag_carries _⟩, by decide +kernel⟩

end BalanceAttestation
