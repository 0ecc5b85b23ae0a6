import BalanceAttestation.AttestationPrograms
import BalanceAttestation.HostVerifiers
import BalanceAttestation.Sha256

/-! The on-chain verifiers: the shallow guest, the deep guest and the deployed
v2 guest, each with its own copy of the challenge digest. Account constraints
of the framework, such as claiming the marker, are not the guests' own. -/

namespace BalanceAttestation

open ByteLayout Checks

structure SpelError where
  code : UInt32
  message : String
  deriving DecidableEq

structure ChainedCall (I : Type) where
  programId : ProgramId
  preStates : List AccountWithMetadata
  instruction : I
  deriving DecidableEq

structure SpelOutput (A I : Type) where
  accounts : List A
  chained : List (ChainedCall I)
  deriving DecidableEq

def E_THRESHOLD_TOO_LOW : UInt32 := 3001
def E_CONTEXT_MISMATCH : UInt32 := 3004
def E_BAD_SIGNATURE : UInt32 := 3005
def E_BAD_PUBKEY_LEN : UInt32 := 3006
def E_BAD_WITNESS : UInt32 := 3007
def E_NULLIFIER_MISMATCH : UInt32 := 3008
def E_ANCHORED_BALANCE_TOO_LOW : UInt32 := 3009
def E_PRESENTER_NOT_ATTESTED : UInt32 := 3010
def E_PRESENTER_NOT_NATIVE : UInt32 := 3011
def E_GATE_TAG_MISMATCH : UInt32 := 3012

def ATTESTATION_PROGRAM_ID : ProgramId :=
  ⟨[2483799259, 2922882797, 876186261, 293393208, 1395530467, 1389967705, 1615301448, 1302162100],
    rfl⟩

def ATTESTATION_LEZ_PROGRAM_ID : ProgramId :=
  ⟨[1709468571, 4167293182, 4193013908, 557707240, 918071939, 428160327, 3222408227, 3660016756],
    rfl⟩

def AUTHENTICATED_TRANSFER_PROGRAM_ID : ProgramId :=
  ⟨[3170810844, 2526647253, 999807262, 1205602179, 3401962591, 3484055895, 2106546407, 1900691388],
    rfl⟩

structure GatedCheckArgs where
  merkleRoot : Bytes 32
  threshold : U128
  contextId : Bytes 32
  presenterPubkey : List UInt8
  nullifier : Bytes 32
  presenterNonce : Bytes 32
  presenterSignatureDer : List UInt8
  expectedContextId : Bytes 32
  minimumThreshold : U128

def GatedCheckArgs.journal (args : GatedCheckArgs) (pk : Bytes 33) : PublicJournal where
  merkleRoot := args.merkleRoot
  threshold := args.threshold
  contextId := args.contextId
  presenterPubkey := pk
  nullifier := args.nullifier

structure DeepGatedCheckArgs extends GatedCheckArgs where
  witnessWords : List UInt32
  gateTag : Bytes 32

def pubkeyBytes (presenterPubkey : List UInt8) : Option (Bytes 33) :=
  if h : presenterPubkey.length = 33 then some ⟨presenterPubkey, h⟩ else none

namespace Shallow

def presenterChallengeDigest (sha256 : HashFn) (presenterNonce merkleRoot : Bytes 32)
    (threshold : U128) (contextId : Bytes 32) (presenterPubkey : Bytes 33) (nullifier : Bytes 32) :
    Bytes 32 :=
  sha256 (ascii "/lp-0005/v0.1/PresenterChallenge/" ++ presenterNonce.toList ++ merkleRoot.toList ++
    threshold.toLeBytes ++ contextId.toList ++ presenterPubkey.toList ++ nullifier.toList)

def verifyPresenterSignature (k256 : K256) (digest : Bytes 32) (presenterPubkey : Bytes 33)
    (signatureDer : List UInt8) : Except SpelError Unit := do
  let pubkey ← okOr (k256.fromSec1Bytes presenterPubkey.toList)
    ⟨E_BAD_SIGNATURE, "bad presenter signature"⟩
  let signature ← okOr (k256.fromDer signatureDer) ⟨E_BAD_SIGNATURE, "bad presenter signature"⟩
  rejectIf (k256.verify pubkey digest.toList signature = false)
    ⟨E_BAD_SIGNATURE, "bad presenter signature"⟩

def gatedCheck (sha256 : HashFn) (k256 : K256) (presenter : AccountWithMetadata)
    (args : GatedCheckArgs) : Except SpelError (SpelOutput Account Empty) := do
  rejectIf (args.contextId ≠ args.expectedContextId) ⟨E_CONTEXT_MISMATCH, "context mismatch"⟩
  rejectIf (args.threshold < args.minimumThreshold) ⟨E_THRESHOLD_TOO_LOW, "threshold too low"⟩
  let pubkey ← okOr (pubkeyBytes args.presenterPubkey)
    ⟨E_BAD_PUBKEY_LEN, "presenter_pubkey: expected 33-byte compressed secp256k1 key"⟩
  let digest := presenterChallengeDigest sha256 args.presenterNonce args.merkleRoot args.threshold
    args.contextId pubkey args.nullifier
  verifyPresenterSignature k256 digest pubkey args.presenterSignatureDer
  return ⟨[presenter.account], []⟩

end Shallow

namespace Deep

def presenterChallengeDigest (sha256 : HashFn) (presenterNonce merkleRoot : Bytes 32)
    (threshold : U128) (contextId : Bytes 32) (presenterPubkey : Bytes 33) (nullifier : Bytes 32) :
    Bytes 32 :=
  sha256 (ascii "/lp-0005/v0.1/PresenterChallenge/" ++ presenterNonce.toList ++ merkleRoot.toList ++
    threshold.toLeBytes ++ contextId.toList ++ presenterPubkey.toList ++ nullifier.toList)

def verifyPresenterSignature (k256 : K256) (digest : Bytes 32) (presenterPubkey : Bytes 33)
    (signatureDer : List UInt8) : Except SpelError Unit := do
  let pubkey ← okOr (k256.fromSec1Bytes presenterPubkey.toList)
    ⟨E_BAD_SIGNATURE, "bad presenter signature"⟩
  let signature ← okOr (k256.fromDer signatureDer) ⟨E_BAD_SIGNATURE, "bad presenter signature"⟩
  rejectIf (k256.verify pubkey digest.toList signature = false)
    ⟨E_BAD_SIGNATURE, "bad presenter signature"⟩

/-- Steps 1 to 4: the presented credential. -/
def checkPresentation (sha256 : HashFn) (k256 : K256) (args : GatedCheckArgs) :
    Except SpelError (Bytes 33) := do
  rejectIf (args.contextId ≠ args.expectedContextId) ⟨E_CONTEXT_MISMATCH, "context mismatch"⟩
  rejectIf (args.threshold < args.minimumThreshold) ⟨E_THRESHOLD_TOO_LOW, "threshold too low"⟩
  let pubkey ← okOr (pubkeyBytes args.presenterPubkey)
    ⟨E_BAD_PUBKEY_LEN, "presenter_pubkey: expected 33-byte compressed secp256k1 key"⟩
  let digest := presenterChallengeDigest sha256 args.presenterNonce args.merkleRoot args.threshold
    args.contextId pubkey args.nullifier
  verifyPresenterSignature k256 digest pubkey args.presenterSignatureDer
  return pubkey

/-- Steps 5 to 11: the witness, the presenter account and the marker's seed. -/
def checkAttested (sha256 : HashFn) (fromSlice : List UInt32 → Option PrivateInputs)
    (gateMarker presenter : AccountWithMetadata) (args : DeepGatedCheckArgs) (pubkey : Bytes 33) :
    Except SpelError (SpelOutput AccountWithMetadata AttestInstruction) := do
  let witness ← okOr (fromSlice args.witnessWords) ⟨E_BAD_WITNESS, "witness_words did not decode"⟩
  let statement : AttestStatement := ⟨args.merkleRoot, args.threshold, args.contextId, pubkey⟩
  let accountId := deriveAccountId sha256 witness.npk witness.identifier
  let derived := computeNullifier sha256 pubkey args.contextId accountId
  rejectIf (derived ≠ args.nullifier)
    ⟨E_NULLIFIER_MISMATCH, "nullifier does not match the supplied witness"⟩
  rejectIf (presenter.accountId ≠ accountId)
    ⟨E_PRESENTER_NOT_ATTESTED, "the signing account is not the account the witness attests to"⟩
  rejectIf (presenter.account.programOwner ≠ AUTHENTICATED_TRANSFER_PROGRAM_ID)
    ⟨E_PRESENTER_NOT_NATIVE, "the presenter account is not owned by the pinned token program"⟩
  rejectIf (presenter.account.balance < args.minimumThreshold)
    ⟨E_ANCHORED_BALANCE_TOO_LOW,
      "the attested account's on-chain balance is below the gate's minimum"⟩
  let expectedTag := computeGateTag sha256 args.nullifier args.minimumThreshold
    args.expectedContextId
  rejectIf (expectedTag ≠ args.gateTag)
    ⟨E_GATE_TAG_MISMATCH, "gate_tag does not commit to the enforced threshold and context"⟩
  return ⟨[gateMarker, presenter], [⟨ATTESTATION_LEZ_PROGRAM_ID, [], ⟨witness, statement⟩⟩]⟩

def gatedCheck (sha256 : HashFn) (k256 : K256) (fromSlice : List UInt32 → Option PrivateInputs)
    (gateMarker presenter : AccountWithMetadata) (args : DeepGatedCheckArgs) :
    Except SpelError (SpelOutput AccountWithMetadata AttestInstruction) := do
  let pubkey ← checkPresentation sha256 k256 args.toGatedCheckArgs
  checkAttested sha256 fromSlice gateMarker presenter args pubkey

end Deep

namespace V2

def canonicalJournalBytes (merkleRoot : Bytes 32) (threshold : U128) (contextId : Bytes 32)
    (presenterPubkey : Bytes 33) (nullifier : Bytes 32) : List UInt8 :=
  merkleRoot.toList ++ threshold.toLeBytes ++ contextId.toList ++ presenterPubkey.toList ++
    nullifier.toList

def challengeBytes (sha256 : HashFn) (journalBytes : List UInt8) (presenterNonce : Bytes 32) :
    List UInt8 :=
  let journalHash := sha256 journalBytes
  presenterNonce.toList ++ journalHash.toList

def verifyPresenterSignature (sha256 : HashFn) (k256 : K256) (journalBytes : List UInt8)
    (presenterPubkey : Bytes 33) (presenterNonce : Bytes 32) (signatureDer : List UInt8) :
    Except SpelError Unit := do
  let digest := sha256 (challengeBytes sha256 journalBytes presenterNonce)
  let pubkey ← okOr (k256.fromSec1Bytes presenterPubkey.toList)
    ⟨E_BAD_SIGNATURE, "bad presenter signature"⟩
  let signature ← okOr (k256.fromDer signatureDer) ⟨E_BAD_SIGNATURE, "bad presenter signature"⟩
  rejectIf (k256.verify pubkey digest.toList signature = false)
    ⟨E_BAD_SIGNATURE, "bad presenter signature"⟩

def gatedCheck (sha256 : HashFn) (k256 : K256) (presenter : AccountWithMetadata)
    (args : GatedCheckArgs) : Except SpelError (SpelOutput Account (List UInt8)) := do
  rejectIf (args.contextId ≠ args.expectedContextId) ⟨E_CONTEXT_MISMATCH, "context mismatch"⟩
  rejectIf (args.threshold < args.minimumThreshold) ⟨E_THRESHOLD_TOO_LOW, "threshold too low"⟩
  let pubkey ← okOr (pubkeyBytes args.presenterPubkey)
    ⟨E_BAD_PUBKEY_LEN, "presenter_pubkey: expected 33-byte compressed secp256k1 key"⟩
  let journalBytes := canonicalJournalBytes args.merkleRoot args.threshold args.contextId pubkey
    args.nullifier
  verifyPresenterSignature sha256 k256 journalBytes pubkey args.presenterNonce
    args.presenterSignatureDer
  return ⟨[presenter.account], [⟨ATTESTATION_PROGRAM_ID, [], journalBytes⟩]⟩

end V2

def PrivateInputs.risc0Words (w : PrivateInputs) : List UInt32 :=
  let bytes (bs : Bytes 32) := bs.toList.map UInt8.toUInt32
  let limbs (n : Nat) (v : Nat) := (List.range n).map fun i => UInt32.ofNat (v >>> (32 * i))
  bytes w.npk ++ limbs 4 w.identifier.toNat ++ w.programOwner.toList ++ limbs 4 w.balance.toNat ++
    limbs 4 w.nonce.toNat ++ bytes w.dataHash ++ UInt32.ofNat w.merklePath.length ::
    w.merklePath.flatMap bytes ++ limbs 2 w.leafIndex.toNat

/-! The consistent call of the repository's own tests, at a chosen balance,
attested threshold and floor. Digests, keys and signatures are the real ones. -/

namespace Scenario

def pubkey : Bytes 33 :=
  beBytes 33 0x02989c0b76cb563971fdc9bef31ec06c3560f3249d6ee9e5d83c57625596e05f6f

def accountId : Bytes 32 :=
  beBytes 32 0x4492506483586bc5811cd20ebfd3d14fbb8a7617786b59d822cc448ac950a876

def nullifier : Bytes 32 :=
  beBytes 32 0xd1a0508a8f2a241131619daf7756fc500c63c942d89eeec133bac5d2ee4a162a

def contextId : Bytes 32 := .replicate 32 42

def nonce : Bytes 32 := .replicate 32 9

def witness (balance : U128) : PrivateInputs where
  npk := .replicate 32 7
  identifier := 1
  programOwner := AUTHENTICATED_TRANSFER_PROGRAM_ID
  balance
  nonce := 3
  dataHash := beBytes 32 0xe3b0c44298fc1c149afbf4c8996fb92427ae41e4649b934ca495991b7852b855
  merklePath := [.replicate 32 1, .replicate 32 2, .replicate 32 3]
  leafIndex := 5

def merkleRoot : Bytes 32 :=
  beBytes 32 0x6466d800fd49df3c48dc508f5f34ba0f66588520d869c2cb6a0cb4ab5838ddf0

def presenter (balance : U128) : AccountWithMetadata where
  account := ⟨AUTHENTICATED_TRANSFER_PROGRAM_ID, balance, [], 3⟩
  isAuthorized := true
  accountId

def args (balance threshold minimumThreshold : U128) (merkleRoot gateTag : Bytes 32)
    (signatureDer : List UInt8) : DeepGatedCheckArgs where
  witnessWords := (witness balance).risc0Words
  merkleRoot
  threshold
  contextId
  presenterPubkey := pubkey.toList
  nullifier
  presenterNonce := nonce
  presenterSignatureDer := signatureDer
  expectedContextId := contextId
  minimumThreshold
  gateTag

def honest : DeepGatedCheckArgs := args 4000 4000 4000 merkleRoot
  (beBytes 32 0xda6f26e9206e84f87f8a0e27edb6bd8f86fb6d9f9819274cd1408ce8efa353b6)
  ((beBytes 36 0x3044022047b7927bc9f6feddfcbd58c0b6174a8ca81f8619734cdd704b2eb34a9bd06bcd).toList ++
    (beBytes 34 0x0220494f5165a5151f3c9ecb9964208cac777077616c60e3ab7ee37c52752c1b0cb7).toList)

def journal : PublicJournal := honest.journal pubkey

def k256 (digest : Bytes 32) (signatureDer : List UInt8) : K256 :=
  .ofTable [(pubkey.toList, digest.toList, signatureDer)]

def digest : Bytes 32 :=
  beBytes 32 0xf1ee821ce8558cb4d8d845b39636ffd529b0185b1cffac2e4424574a77ffca83

def honestK256 : K256 := k256 digest honest.presenterSignatureDer

def fromSlice (balance : U128) (words : List UInt32) : Option PrivateInputs :=
  if words = (witness balance).risc0Words then some (witness balance) else none

theorem digest_eq : VerifierOffchain.presenterChallengeDigest Sha256.digest nonce journal = digest := by
  decide +kernel

end Scenario

end BalanceAttestation
