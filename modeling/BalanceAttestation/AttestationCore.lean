import BalanceAttestation.ByteLayout
import BalanceAttestation.HashTree

/-! The attestation core: the account, commitment, nullifier and gate-tag
derivations, the Merkle fold, and the statement `attest` checks. SHA-256 is a
parameter; every derivation hashes a byte string named `..Bytes`. -/

namespace BalanceAttestation

open ByteLayout

abbrev U128 := BitVec 128
abbrev ProgramId := List.Vector UInt32 8
abbrev HashFn := List UInt8 → Bytes 32

def ascii (s : String) : List UInt8 := s.toUTF8.toList

def U128.toLeBytes (x : U128) : List UInt8 := leBytes 16 x.toNat

def wordsToLeBytes (words : ProgramId) : List UInt8 :=
  words.toList.flatMap fun word => leBytes 4 word.toNat

def COMMITMENT_PREFIX : Bytes 32 :=
  ⟨ascii "/LEE/v0.3/Commitment/" ++ List.replicate 11 0, by decide +kernel⟩

def PRIVATE_ACCOUNT_ID_PREFIX : Bytes 32 :=
  ⟨ascii "/LEE/v0.3/AccountId/Private/" ++ List.replicate 4 0, by decide +kernel⟩

def NULLIFIER_PREFIX : Bytes 32 :=
  ⟨ascii "/lp-0005/v0.1/Nullifier/" ++ List.replicate 8 0, by decide +kernel⟩

def GATE_TAG_PREFIX : Bytes 32 :=
  ⟨ascii "/lp-0005/v0.1/GateTag/" ++ List.replicate 10 0, by decide +kernel⟩

structure PrivateInputs where
  npk : Bytes 32
  identifier : U128
  programOwner : ProgramId
  balance : U128
  nonce : U128
  dataHash : Bytes 32
  merklePath : List (Bytes 32)
  leafIndex : UInt64
  deriving DecidableEq

structure PublicJournal where
  merkleRoot : Bytes 32
  threshold : U128
  contextId : Bytes 32
  presenterPubkey : Bytes 33
  nullifier : Bytes 32
  deriving DecidableEq

structure AttestStatement where
  merkleRoot : Bytes 32
  threshold : U128
  contextId : Bytes 32
  presenterPubkey : Bytes 33
  deriving DecidableEq

structure AttestInstruction where
  witness : PrivateInputs
  statement : AttestStatement
  deriving DecidableEq

def accountIdBytes (npk : Bytes 32) (identifier : U128) : List UInt8 :=
  PRIVATE_ACCOUNT_ID_PREFIX.toList ++ npk.toList ++ identifier.toLeBytes

def commitmentBytes (accountId : Bytes 32) (programOwner : ProgramId) (balance nonce : U128)
    (dataHash : Bytes 32) : List UInt8 :=
  COMMITMENT_PREFIX.toList ++ accountId.toList ++ wordsToLeBytes programOwner ++
    balance.toLeBytes ++ nonce.toLeBytes ++ dataHash.toList

def nullifierBytes (presenterPubkey : Bytes 33) (contextId accountId : Bytes 32) : List UInt8 :=
  NULLIFIER_PREFIX.toList ++ presenterPubkey.toList ++ contextId.toList ++ accountId.toList

def gateTagBytes (nullifier : Bytes 32) (minimumThreshold : U128)
    (expectedContextId : Bytes 32) : List UInt8 :=
  GATE_TAG_PREFIX.toList ++ nullifier.toList ++ minimumThreshold.toLeBytes ++
    expectedContextId.toList

section

variable (sha256 : HashFn)

def deriveAccountId (npk : Bytes 32) (identifier : U128) : Bytes 32 :=
  sha256 (accountIdBytes npk identifier)

def computeCommitment (accountId : Bytes 32) (programOwner : ProgramId) (balance nonce : U128)
    (dataHash : Bytes 32) : Bytes 32 :=
  sha256 (commitmentBytes accountId programOwner balance nonce dataHash)

/-- The loop over the siblings: the low index bit picks the side, then shifts out. -/
def foldMerklePath (node : Bytes 32) (idx : UInt64) : List (Bytes 32) → Bytes 32
  | [] => node
  | sib :: siblings =>
    let node := if idx &&& 1 = 0 then sha256 (node.toList ++ sib.toList)
      else sha256 (sib.toList ++ node.toList)
    foldMerklePath node (idx >>> 1) siblings

def computeNullifier (presenterPubkey : Bytes 33) (contextId accountId : Bytes 32) : Bytes 32 :=
  sha256 (nullifierBytes presenterPubkey contextId accountId)

def computeGateTag (nullifier : Bytes 32) (minimumThreshold : U128)
    (expectedContextId : Bytes 32) : Bytes 32 :=
  sha256 (gateTagBytes nullifier minimumThreshold expectedContextId)

end

structure Panic where
  message : String
  deriving DecidableEq

def assert (cond : Prop) [Decidable cond] (message : String) : Except Panic Unit :=
  if cond then .ok () else .error ⟨message⟩

def attest (sha256 : HashFn) (witness : PrivateInputs) (statement : AttestStatement) :
    Except Panic (Bytes 32) := do
  let accountId := deriveAccountId sha256 witness.npk witness.identifier
  let leafCommitment := computeCommitment sha256 accountId witness.programOwner witness.balance
    witness.nonce witness.dataHash
  let leafHash := sha256 leafCommitment.toList
  let recoveredRoot := foldMerklePath sha256 leafHash witness.leafIndex witness.merklePath
  assert (recoveredRoot = statement.merkleRoot) "merkle path does not anchor to the claimed root"
  assert (witness.balance ≥ statement.threshold) "balance is below the attested threshold"
  return computeNullifier sha256 statement.presenterPubkey statement.contextId accountId

/-! What the witness names: its account, its commitment and the root its path folds to. -/

section

variable (sha256 : HashFn) (w : PrivateInputs)

def PrivateInputs.accountId : Bytes 32 := deriveAccountId sha256 w.npk w.identifier

def PrivateInputs.commitment : Bytes 32 :=
  computeCommitment sha256 (w.accountId sha256) w.programOwner w.balance w.nonce w.dataHash

def PrivateInputs.recoveredRoot : Bytes 32 :=
  foldMerklePath sha256 (sha256 (w.commitment sha256).toList) w.leafIndex w.merklePath

end

@[simp] theorem assert_bind {α : Type} (cond : Prop) [Decidable cond] (message : String)
    (next : Except Panic α) :
    (assert cond message >>= fun _ => next) = if cond then next else .error ⟨message⟩ := by
  unfold assert
  split <;> rfl

theorem attest_eq (sha256 : HashFn) (w : PrivateInputs) (s : AttestStatement) :
    attest sha256 w s =
      if w.recoveredRoot sha256 = s.merkleRoot then
        if w.balance ≥ s.threshold then
          .ok (computeNullifier sha256 s.presenterPubkey s.contextId (w.accountId sha256))
        else .error ⟨"balance is below the attested threshold"⟩
      else .error ⟨"merkle path does not anchor to the claimed root"⟩ := by
  simp only [attest, assert_bind]
  rfl

theorem attest_eq_ok {sha256 : HashFn} {w : PrivateInputs} {s : AttestStatement} {n : Bytes 32} :
    attest sha256 w s = .ok n ↔ w.recoveredRoot sha256 = s.merkleRoot ∧ w.balance ≥ s.threshold ∧
      computeNullifier sha256 s.presenterPubkey s.contextId (w.accountId sha256) = n := by
  rw [attest_eq]
  by_cases hr : w.recoveredRoot sha256 = s.merkleRoot
  · by_cases hb : w.balance ≥ s.threshold <;> simp [hr, hb]
  · simp [hr]

def hashTwo (sha256 : HashFn) (left right : Bytes 32) : Bytes 32 :=
  sha256 (left.toList ++ right.toList)

theorem and_one_eq_zero_iff (idx : UInt64) : idx &&& 1 = 0 ↔ idx.toNat % 2 = 0 := by
  rw [← UInt64.toNat_inj, UInt64.toNat_and, UInt64.toNat_one, Nat.and_one_is_mod]
  rfl

theorem toNat_shiftRight_one (idx : UInt64) : (idx >>> 1).toNat = idx.toNat / 2 := by
  simp [UInt64.toNat_shiftRight, Nat.shiftRight_eq_div_pow]

theorem foldMerklePath_eq (sha256 : HashFn) (node : Bytes 32) (idx : UInt64)
    (siblings : List (Bytes 32)) :
    foldMerklePath sha256 node idx siblings =
      HashTree.foldPath (hashTwo sha256) node idx.toNat siblings := by
  induction siblings generalizing node idx with
  | nil => rfl
  | cons sib siblings ih =>
    simp only [foldMerklePath, HashTree.foldPath, ih, toNat_shiftRight_one, and_one_eq_zero_iff, hashTwo]

end BalanceAttestation
