import BalanceAttestation.AttestationCore
import BalanceAttestation.Checks

/-! The two host-side verifiers: `verify_credential` of the off-chain verifier
and `check_gate` of the verifier-program kernel. The `k256` and `risc0`
libraries are parameters. -/

namespace BalanceAttestation

open Checks

/-- What the verifiers call of `k256`: key parsing, DER parsing, and
verification of a signature over a message. -/
structure K256 where
  VerifyingKey : Type
  Signature : Type
  fromSec1Bytes : List UInt8 → Option VerifyingKey
  fromDer : List UInt8 → Option Signature
  verify : VerifyingKey → List UInt8 → Signature → Bool

def K256.ofTable (table : List (List UInt8 × List UInt8 × List UInt8)) : K256 where
  VerifyingKey := List UInt8
  Signature := List UInt8
  fromSec1Bytes key := table.findSome? fun row => if row.1 = key then some key else none
  fromDer signature := table.findSome? fun row => if row.2.2 = signature then some signature else none
  verify key message signature := (key, message, signature) ∈ table

theorem K256.ofTable_singleton (key message signature : List UInt8) :
    (ofTable [(key, message, signature)]).fromSec1Bytes key = some key ∧
    (ofTable [(key, message, signature)]).fromDer signature = some signature ∧
    ∀ m, (ofTable [(key, message, signature)]).verify key m signature = true ↔ m = message := by
  refine ⟨?_, ?_, ?_⟩
  · simp [ofTable]
  · simp [ofTable]
  · intro m
    simp [ofTable]

/-- What the verifiers call of `risc0`: receipt verification against the pinned
image id, and decoding of the journal the receipt carries. -/
structure Risc0 where
  Receipt : Type
  verify : Receipt → Except String Unit
  decodeJournal : Receipt → Except String PublicJournal

def Risc0.ofJournals : Risc0 where
  Receipt := PublicJournal
  verify _ := .ok ()
  decodeJournal := .ok

namespace VerifierOffchain

inductive VerifyError
  | receipt (reason : String)
  | journal (reason : String)
  | invalidPubkey
  | invalidSignature
  | signatureRejected
  | contextMismatch
  | thresholdTooLow
  deriving DecidableEq

def verifyReceipt (risc0 : Risc0) (receipt : risc0.Receipt) : Except VerifyError PublicJournal := do
  (risc0.verify receipt).mapError .receipt
  (risc0.decodeJournal receipt).mapError .journal

def presenterChallengeBytes (nonce : Bytes 32) (journal : PublicJournal) : List UInt8 :=
  ascii "/lp-0005/v0.1/PresenterChallenge/" ++ nonce.toList ++ journal.merkleRoot.toList ++
    journal.threshold.toLeBytes ++ journal.contextId.toList ++ journal.presenterPubkey.toList ++
    journal.nullifier.toList

def presenterChallengeDigest (sha256 : HashFn) (nonce : Bytes 32) (journal : PublicJournal) :
    Bytes 32 :=
  sha256 (presenterChallengeBytes nonce journal)

def verifyPresenterSignature (sha256 : HashFn) (k256 : K256) (journal : PublicJournal)
    (nonce : Bytes 32) (signatureDer : List UInt8) : Except VerifyError Unit := do
  let vk ← okOr (k256.fromSec1Bytes journal.presenterPubkey.toList) .invalidPubkey
  let sig ← okOr (k256.fromDer signatureDer) .invalidSignature
  let digest := presenterChallengeDigest sha256 nonce journal
  rejectIf (k256.verify vk digest.toList sig = false) .signatureRejected

def verifyCredential (sha256 : HashFn) (k256 : K256) (risc0 : Risc0) (receipt : risc0.Receipt)
    (presenterNonce : Bytes 32) (presenterSignatureDer : List UInt8)
    (expectedContextId : Bytes 32) (minimumThreshold : U128) :
    Except VerifyError PublicJournal := do
  let journal ← verifyReceipt risc0 receipt
  rejectIf (journal.contextId ≠ expectedContextId) .contextMismatch
  rejectIf (journal.threshold < minimumThreshold) .thresholdTooLow
  verifyPresenterSignature sha256 k256 journal presenterNonce presenterSignatureDer
  return journal

end VerifierOffchain

namespace VerifierProgram

inductive GateError
  | contextMismatch
  | thresholdTooLow
  | invalidPubkey
  | invalidSignature
  | signatureRejected
  | nullifierAlreadyUsed
  deriving DecidableEq

structure GateInputs where
  attested : PublicJournal
  expectedContextId : Bytes 32
  minimumThreshold : U128
  challengeNonce : Bytes 32
  presenterSignatureDer : List UInt8

def presenterChallengeDigest (sha256 : HashFn) (nonce : Bytes 32) (journal : PublicJournal) :
    Bytes 32 :=
  sha256 (ascii "/lp-0005/v0.1/PresenterChallenge/" ++ nonce.toList ++ journal.merkleRoot.toList ++
    journal.threshold.toLeBytes ++ journal.contextId.toList ++ journal.presenterPubkey.toList ++
    journal.nullifier.toList)

def verifyPresenter (sha256 : HashFn) (k256 : K256) (journal : PublicJournal) (nonce : Bytes 32)
    (signatureDer : List UInt8) : Except GateError Unit := do
  let vk ← okOr (k256.fromSec1Bytes journal.presenterPubkey.toList) .invalidPubkey
  let sig ← okOr (k256.fromDer signatureDer) .invalidSignature
  let digest := presenterChallengeDigest sha256 nonce journal
  rejectIf (k256.verify vk digest.toList sig = false) .signatureRejected

def checkGate (sha256 : HashFn) (k256 : K256) (inputs : GateInputs) : Except GateError Unit := do
  rejectIf (inputs.attested.contextId ≠ inputs.expectedContextId) .contextMismatch
  rejectIf (inputs.attested.threshold < inputs.minimumThreshold) .thresholdTooLow
  verifyPresenter sha256 k256 inputs.attested inputs.challengeNonce inputs.presenterSignatureDer

end VerifierProgram

open VerifierOffchain VerifierProgram

def SignatureVerifies (sha256 : HashFn) (k256 : K256) (nonce : Bytes 32) (journal : PublicJournal)
    (signatureDer : List UInt8) : Prop :=
  ∃ vk sig, k256.fromSec1Bytes journal.presenterPubkey.toList = some vk ∧
    k256.fromDer signatureDer = some sig ∧
    k256.verify vk (sha256 (presenterChallengeBytes nonce journal)).toList sig = true

end BalanceAttestation
