import BalanceAttestation.DeepGate
import BalanceAttestation.Preimages

/-! The presenter's signature at the deployed v2 guest. The SDK signs the tagged
challenge; v2 hashes the nonce with the hash of the untagged journal bytes. -/

namespace BalanceAttestation

open Checks VerifierOffchain VerifierProgram

/-- What the SDK calls of `k256`: the compressed public point of a signing key,
and the DER encoding of its signature over a message. -/
structure K256.Signer where
  SigningKey : Type
  toEncodedPoint : SigningKey → List UInt8
  signDer : SigningKey → List UInt8 → List UInt8

namespace PresenterKey

variable (signer : K256.Signer) (key : signer.SigningKey)

def publicKey : Except Panic (Bytes 33) :=
  let bytes := signer.toEncodedPoint key
  if h : bytes.length = 33 then .ok ⟨bytes, h⟩
  else .error ⟨"compressed secp256k1 pubkey is 33 bytes"⟩

def signDigest (digest : Bytes 32) : List UInt8 := signer.signDer key digest.toList

def sign (sha256 : HashFn) (nonce : Bytes 32) (journal : PublicJournal) : List UInt8 :=
  let digest := VerifierOffchain.presenterChallengeDigest sha256 nonce journal
  signDigest signer key digest

end PresenterKey

/-- The signature `key` makes over `message` parses and verifies under the key for that
message, and not for `other`, unless the two are one. -/
def SignsOnly (k256 : K256) (signer : K256.Signer) (key : signer.SigningKey)
    (message other : List UInt8) : Prop :=
  ∃ vk sig, k256.fromSec1Bytes (signer.toEncodedPoint key) = some vk ∧
    k256.fromDer (signer.signDer key message) = some sig ∧
    k256.verify vk message sig = true ∧ (k256.verify vk other sig = true → other = message)

def PublicJournal.canonicalBytes (j : PublicJournal) : List UInt8 :=
  V2.canonicalJournalBytes j.merkleRoot j.threshold j.contextId j.presenterPubkey j.nullifier

section

variable {sha256 : HashFn} {k256 : K256} {signer : K256.Signer} {key : signer.SigningKey}

theorem V2.challengeBytes_length (journalBytes : List UInt8) (nonce : Bytes 32) :
    (V2.challengeBytes sha256 journalBytes nonce).length = 64 := by
  simp [V2.challengeBytes]

theorem V2.challengeBytes_ne (journalBytes : List UInt8) (nonce nonce' : Bytes 32)
    (j : PublicJournal) :
    V2.challengeBytes sha256 journalBytes nonce ≠ presenterChallengeBytes nonce' j := by
  intro h
  have hlen := congrArg List.length h
  rw [V2.challengeBytes_length, presenterChallengeBytes_length] at hlen
  omega

theorem V2.verifyPresenterSignature_eq_ok {journalBytes : List UInt8} {pk : Bytes 33}
    {nonce : Bytes 32} {sig : List UInt8} :
    V2.verifyPresenterSignature sha256 k256 journalBytes pk nonce sig = .ok () ↔
      ∃ vk s, k256.fromSec1Bytes pk.toList = some vk ∧ k256.fromDer sig = some s ∧
        k256.verify vk (sha256 (V2.challengeBytes sha256 journalBytes nonce)).toList s = true := by
  simp only [V2.verifyPresenterSignature, okOr_bind_ok, rejectIf_ok, Bool.not_eq_false,
    exists_and_left]

theorem V2.verifyPresenterSignature_error {journalBytes : List UInt8} {pk : Bytes 33}
    {nonce : Bytes 32} {sig : List UInt8} {e : SpelError}
    (h : V2.verifyPresenterSignature sha256 k256 journalBytes pk nonce sig = .error e) :
    e = ⟨E_BAD_SIGNATURE, "bad presenter signature"⟩ := by
  simp only [V2.verifyPresenterSignature, okOr_bind_error, rejectIf_error] at h
  rcases h with ⟨_, rfl⟩ | ⟨_, _, ⟨_, rfl⟩ | ⟨_, _, _, rfl⟩⟩ <;> rfl

theorem V2.gatedCheck_eq (p : Presentation) (hctx : p.journal.contextId = p.expectedContextId)
    (hfloor : p.minimumThreshold ≤ p.journal.threshold) (presenter : AccountWithMetadata) :
    V2.gatedCheck sha256 k256 presenter p.args =
      (V2.verifyPresenterSignature sha256 k256 p.journal.canonicalBytes p.journal.presenterPubkey
        p.nonce p.signatureDer).map fun _ =>
          ⟨[presenter.account], [⟨ATTESTATION_PROGRAM_ID, [], p.journal.canonicalBytes⟩]⟩ := by
  have hctx' : ¬ p.args.contextId ≠ p.args.expectedContextId := not_not.mpr hctx
  have hfloor' : ¬ p.args.threshold < p.args.minimumThreshold := BitVec.not_lt.mpr hfloor
  have hkey : pubkeyBytes p.args.presenterPubkey = some p.journal.presenterPubkey :=
    pubkeyBytes_toList _
  rw [V2.gatedCheck, rejectIf_ok.mpr hctx', rejectIf_ok.mpr hfloor', hkey, map_eq_bind]
  rfl

theorem PresenterKey.publicKey_eq_ok {pk : Bytes 33} :
    PresenterKey.publicKey signer key = .ok pk ↔ signer.toEncodedPoint key = pk.toList := by
  have hcopy : PresenterKey.publicKey signer key = okOr (pubkeyBytes (signer.toEncodedPoint key))
      ⟨"compressed secp256k1 pubkey is 33 bytes"⟩ := by
    rw [PresenterKey.publicKey, pubkeyBytes]
    split <;> rfl
  rw [hcopy, okOr_ok, pubkeyBytes_eq_some]

section SdkSignature

variable {j : PublicJournal} {nonce : Bytes 32}

theorem SignsOnly.signatureVerifies {other : List UInt8}
    (hpub : PresenterKey.publicKey signer key = .ok j.presenterPubkey)
    (h : SignsOnly k256 signer key (sha256 (presenterChallengeBytes nonce j)).toList other) :
    SignatureVerifies sha256 k256 nonce j (PresenterKey.sign signer key sha256 nonce j) := by
  obtain ⟨vk, s, hvk, hs, hverify, -⟩ := h
  rw [PresenterKey.publicKey_eq_ok.mp hpub] at hvk
  exact ⟨vk, s, hvk, hs, hverify⟩

theorem SignsOnly.collision_of_v2
    (hpub : PresenterKey.publicKey signer key = .ok j.presenterPubkey)
    (h : SignsOnly k256 signer key (sha256 (presenterChallengeBytes nonce j)).toList
      (sha256 (V2.challengeBytes sha256 j.canonicalBytes nonce)).toList)
    (hok : V2.verifyPresenterSignature sha256 k256 j.canonicalBytes j.presenterPubkey nonce
      (PresenterKey.sign signer key sha256 nonce j) = .ok ()) :
    Collision sha256 (V2.challengeBytes sha256 j.canonicalBytes nonce)
      (presenterChallengeBytes nonce j) := by
  obtain ⟨vk, s, hvk, hs, -, honly⟩ := h
  rw [PresenterKey.publicKey_eq_ok.mp hpub] at hvk
  obtain ⟨vk', s', hvk', hs', hv2⟩ := V2.verifyPresenterSignature_eq_ok.mp hok
  obtain rfl := Option.some.inj (hvk.symm.trans hvk')
  obtain rfl := Option.some.inj (hs.symm.trans hs')
  -- The signature also holds for the digest v2 checked, so that is the signed one.
  have hdigest := List.Vector.eq _ _ (honly hv2)
  exact ⟨V2.challengeBytes_ne _ _ _ _, hdigest⟩

end SdkSignature

/-- The SDK's signature passes `check_gate`, but v2 never verifies it over the
same string: it accepts only a signature that also holds for its own digest, so
one that does not hold for that digest is refused unless the digests collide. -/
theorem v2_challenge_differs (sha256 : HashFn) (k256 : K256) {j : PublicJournal}
    (hpub : PresenterKey.publicKey signer key = .ok j.presenterPubkey) {ctx : Bytes 32}
    (hctx : j.contextId = ctx) {floor : U128} (hfloor : floor ≤ j.threshold) (nonce : Bytes 32)
    (presenter : AccountWithMetadata) :
    let signed := presenterChallengeBytes nonce j
    let checked := V2.challengeBytes sha256 j.canonicalBytes nonce
    let der := PresenterKey.sign signer key sha256 nonce j
    let p : Presentation := ⟨j, nonce, der, ctx, floor⟩
    checked ≠ signed ∧
    ((∃ out, V2.gatedCheck sha256 k256 presenter p.args = .ok out) ↔
      ∃ vk s, k256.fromSec1Bytes j.presenterPubkey.toList = some vk ∧ k256.fromDer der = some s ∧
        k256.verify vk (sha256 checked).toList s = true) ∧
    (SignsOnly k256 signer key (sha256 signed).toList (sha256 checked).toList →
      checkGate sha256 k256 p.gateInputs = .ok () ∧
      (V2.gatedCheck sha256 k256 presenter p.args =
          .error ⟨E_BAD_SIGNATURE, "bad presenter signature"⟩ ∨
        Collision sha256 checked signed)) := by
  intro signed checked der p
  have hgate : V2.gatedCheck sha256 k256 presenter p.args = _ :=
    V2.gatedCheck_eq p hctx hfloor presenter
  refine ⟨V2.challengeBytes_ne _ _ _ _, ?_, ?_⟩
  · rw [hgate, ← V2.verifyPresenterSignature_eq_ok]
    cases V2.verifyPresenterSignature sha256 k256 j.canonicalBytes j.presenterPubkey nonce der with
    | ok u => simp [Except.map]
    | error e => simp [Except.map]
  · intro hsigns
    have hjudge : p.judge sha256 k256 = .ok () :=
      (judge_eq_ok p).mpr ⟨hctx, hfloor, hsigns.signatureVerifies hpub⟩
    refine ⟨by rw [checkGate_eq, hjudge]; rfl, ?_⟩
    cases hv : V2.verifyPresenterSignature sha256 k256 j.canonicalBytes j.presenterPubkey nonce
        der with
    | error e =>
      rw [hgate]
      exact .inl (by rw [hv, V2.verifyPresenterSignature_error hv]; rfl)
    | ok u => exact .inr (hsigns.collision_of_v2 hpub hv)

end

/-! The tests' key, for which `sign` is known at the digest of the consistent call. -/

namespace Scenario

def signer : K256.Signer where
  SigningKey := Unit
  toEncodedPoint _ := pubkey.toList
  signDer _ message := if message = digest.toList then honest.presenterSignatureDer else []

theorem signDer_digest : signer.signDer () digest.toList = honest.presenterSignatureDer := by
  simp [signer]

theorem sign_eq :
    PresenterKey.sign signer () Sha256.digest nonce journal = honest.presenterSignatureDer := by
  change signer.signDer () (VerifierOffchain.presenterChallengeDigest Sha256.digest nonce
    journal).toList = _
  rw [digest_eq, signDer_digest]

theorem publicKey_eq : PresenterKey.publicKey signer () = .ok journal.presenterPubkey :=
  PresenterKey.publicKey_eq_ok.mpr rfl

theorem signsOnly (other : List UInt8) : SignsOnly honestK256 signer ()
    (Sha256.digest (presenterChallengeBytes nonce journal)).toList other := by
  have hdigest : Sha256.digest (presenterChallengeBytes nonce journal) = digest := digest_eq
  obtain ⟨hkey, hder, hverify⟩ := K256.ofTable_singleton pubkey.toList digest.toList
    honest.presenterSignatureDer
  rw [hdigest]
  refine ⟨pubkey.toList, honest.presenterSignatureDer, hkey, ?_, (hverify _).mpr rfl, (hverify other).mp⟩
  rw [signDer_digest]
  exact hder

end Scenario

open Scenario in
theorem v2_refuses_sdk_signature :
    let der := PresenterKey.sign signer () Sha256.digest nonce journal
    let p : Presentation := ⟨journal, nonce, der, contextId, 4000⟩
    PresenterKey.publicKey signer () = .ok journal.presenterPubkey ∧
    checkGate Sha256.digest honestK256 p.gateInputs = .ok () ∧
    V2.gatedCheck Sha256.digest honestK256 (presenter 4000) p.args =
      .error ⟨3005, "bad presenter signature"⟩ := by
  refine ⟨publicKey_eq, ?_, ?_⟩
  · rw [sign_eq]
    decide +kernel
  · rw [sign_eq]
    decide +kernel

open Scenario in
theorem v2_challenge_differs_honest :
    let der := PresenterKey.sign signer () Sha256.digest nonce journal
    let p : Presentation := ⟨journal, nonce, der, contextId, 4000⟩
    checkGate Sha256.digest honestK256 p.gateInputs = .ok () ∧
    (V2.gatedCheck Sha256.digest honestK256 (presenter 4000) p.args =
        .error ⟨E_BAD_SIGNATURE, "bad presenter signature"⟩ ∨
      Collision Sha256.digest (V2.challengeBytes Sha256.digest journal.canonicalBytes nonce)
        (presenterChallengeBytes nonce journal)) :=
  (v2_challenge_differs Sha256.digest honestK256 publicKey_eq rfl (BitVec.le_refl 4000) nonce
    (presenter 4000)).2.2 (signsOnly _)

end BalanceAttestation
