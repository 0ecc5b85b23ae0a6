import BalanceAttestation.JournalPrivacy

/-! The requests the SDK builds without a sequencer, around a path it makes up. The
host derives the account, the leaf, the root and the nullifier for itself, and the
guest derives them again. -/

namespace BalanceAttestation

structure ProveRequest where
  npk : Bytes 32
  identifier : U128
  programOwner : ProgramId
  balance : U128
  nonce : U128
  dataHash : Bytes 32
  merklePath : List (Bytes 32)
  leafIndex : UInt64
  merkleRoot : Bytes 32
  threshold : U128
  contextId : Bytes 32
  presenterPubkey : Bytes 33

structure DemoFixture where
  npk : Bytes 32
  identifier : U128
  programOwner : ProgramId
  balance : U128
  nonce : U128
  dataSeed : List UInt8
  leafIndex : UInt64
  treeDepth : Nat
  threshold : U128
  contextId : Bytes 32
  presenterPubkey : Bytes 33

namespace Sdk

variable (sha256 : HashFn)

/-- The commitment and the leaf it is hashed to. -/
def precomputeLeaf (req : ProveRequest) : Bytes 32 × Bytes 32 :=
  let accountId := deriveAccountId sha256 req.npk req.identifier
  let commit := computeCommitment sha256 accountId req.programOwner req.balance req.nonce req.dataHash
  (commit, sha256 commit.toList)

/-- The level wraps to a byte. -/
def syntheticSibling (i : Nat) : Bytes 32 := sha256 (List.replicate 32 (UInt8.ofNat i))

def syntheticMerklePath (leafHash : Bytes 32) (leafIndex : UInt64) (depth : Nat) :
    List (Bytes 32) × Bytes 32 :=
  let path := (List.range depth).map (syntheticSibling sha256)
  let root := foldMerklePath sha256 leafHash leafIndex path
  (path, root)

/-- What `prove_with_kind` writes for the guest, first the witness, then the stub. -/
def guestInputs (req : ProveRequest) : PrivateInputs × PublicJournal :=
  let accountId := deriveAccountId sha256 req.npk req.identifier
  let nullifier := computeNullifier sha256 req.presenterPubkey req.contextId accountId
  ({ npk := req.npk
     identifier := req.identifier
     programOwner := req.programOwner
     balance := req.balance
     nonce := req.nonce
     dataHash := req.dataHash
     merklePath := req.merklePath
     leafIndex := req.leafIndex },
   { merkleRoot := req.merkleRoot
     threshold := req.threshold
     contextId := req.contextId
     presenterPubkey := req.presenterPubkey
     nullifier })

end Sdk

open Sdk in
def DemoFixture.intoRequest (sha256 : HashFn) (f : DemoFixture) : ProveRequest :=
  let req : ProveRequest :=
    { npk := f.npk
      identifier := f.identifier
      programOwner := f.programOwner
      balance := f.balance
      nonce := f.nonce
      dataHash := sha256 f.dataSeed
      merklePath := []
      leafIndex := f.leafIndex
      merkleRoot := zeroBytes
      threshold := f.threshold
      contextId := f.contextId
      presenterPubkey := f.presenterPubkey }
  let (_, leafHash) := precomputeLeaf sha256 req
  let (path, root) := syntheticMerklePath sha256 leafHash req.leafIndex f.treeDepth
  { req with merklePath := path, merkleRoot := root }

namespace Sdk

variable {sha256 : HashFn}

theorem precomputeLeaf_eq (req : ProveRequest) :
    precomputeLeaf sha256 req = ((guestInputs sha256 req).1.commitment sha256,
      sha256 ((guestInputs sha256 req).1.commitment sha256).toList) := rfl

theorem guestInputs_recoveredRoot (req : ProveRequest) :
    (guestInputs sha256 req).1.recoveredRoot sha256 =
      foldMerklePath sha256 (precomputeLeaf sha256 req).2 req.leafIndex req.merklePath := rfl

/-- The leaf depends on neither the path nor the root. -/
theorem intoRequest_anchored (f : DemoFixture) :
    (guestInputs sha256 (f.intoRequest sha256)).1.recoveredRoot sha256 =
      (f.intoRequest sha256).merkleRoot := rfl

theorem syntheticMerklePath_eq (leafHash : Bytes 32) (leafIndex : UInt64) (depth : Nat) :
    syntheticMerklePath sha256 leafHash leafIndex depth =
      ((List.range depth).map (syntheticSibling sha256),
        HashTree.foldPath (hashTwo sha256) leafHash leafIndex.toNat
          ((List.range depth).map (syntheticSibling sha256))) := by
  rw [syntheticMerklePath, foldMerklePath_eq]

/-- On the SDK's own inputs the guest commits the host's journal, or nothing when the
balance is short. -/
theorem main_guestInputs (req : ProveRequest)
    (hroot : (guestInputs sha256 req).1.recoveredRoot sha256 = req.merkleRoot) (j : PublicJournal) :
    Attestation.main sha256 (guestInputs sha256 req).1 (guestInputs sha256 req).2 = .ok j ↔
      req.balance ≥ req.threshold ∧ j = (guestInputs sha256 req).2 := by
  rw [Attestation.main_eq_ok]
  exact and_iff_right hroot

end Sdk

/-- The guest is given the fixture's own values, and a path of its depth. -/
structure DemoFixture.Given (f : DemoFixture) (sha256 : HashFn) (w : PrivateInputs) (stub : PublicJournal) :
    Prop where
  npk : w.npk = f.npk
  identifier : w.identifier = f.identifier
  programOwner : w.programOwner = f.programOwner
  balance : w.balance = f.balance
  nonce : w.nonce = f.nonce
  dataHash : w.dataHash = sha256 f.dataSeed
  leafIndex : w.leafIndex = f.leafIndex
  depth : w.merklePath.length = f.treeDepth
  threshold : stub.threshold = f.threshold
  contextId : stub.contextId = f.contextId
  presenterPubkey : stub.presenterPubkey = f.presenterPubkey

open Sdk in
theorem DemoFixture.given (f : DemoFixture) (sha256 : HashFn) :
    f.Given sha256 (guestInputs sha256 (f.intoRequest sha256)).1
      (guestInputs sha256 (f.intoRequest sha256)).2 where
  npk := rfl
  identifier := rfl
  programOwner := rfl
  balance := rfl
  nonce := rfl
  dataHash := rfl
  leafIndex := rfl
  depth := by
    change ((List.range f.treeDepth).map (syntheticSibling sha256)).length = f.treeDepth
    rw [List.length_map, List.length_range]
  threshold := rfl
  contextId := rfl
  presenterPubkey := rfl

open Sdk in
/-- A demo request carries its fixture, proves itself exactly when its balance reaches
its threshold, and commits the stub as the host wrote it. -/
theorem demo_request_provable (sha256 : HashFn) :
    (∀ f : DemoFixture, let inputs := guestInputs sha256 (f.intoRequest sha256)
      f.Given sha256 inputs.1 inputs.2 ∧
      ∀ j, Attestation.main sha256 inputs.1 inputs.2 = .ok j ↔ f.balance ≥ f.threshold ∧ j = inputs.2) ∧
    (∀ req : ProveRequest, let w := (guestInputs sha256 req).1
      precomputeLeaf sha256 req = (w.commitment sha256, sha256 (w.commitment sha256).toList) ∧
      w.recoveredRoot sha256 =
        foldMerklePath sha256 (precomputeLeaf sha256 req).2 req.leafIndex req.merklePath) ∧
    ∀ (leafHash : Bytes 32) (leafIndex : UInt64) (depth : Nat),
      let (path, root) := syntheticMerklePath sha256 leafHash leafIndex depth
      path.length = depth ∧ root = foldMerklePath sha256 leafHash leafIndex path ∧
        root = HashTree.foldPath (hashTwo sha256) leafHash leafIndex.toNat path := by
  refine ⟨?_, ?_, ?_⟩
  · intro f inputs
    refine ⟨f.given sha256, fun j => ?_⟩
    exact main_guestInputs _ (intoRequest_anchored f) j
  · intro req
    exact ⟨precomputeLeaf_eq req, guestInputs_recoveredRoot req⟩
  · intro leafHash leafIndex depth
    rw [syntheticMerklePath_eq]
    refine ⟨by rw [List.length_map, List.length_range], ?_, rfl⟩
    exact (foldMerklePath_eq sha256 leafHash leafIndex _).symm

end BalanceAttestation
