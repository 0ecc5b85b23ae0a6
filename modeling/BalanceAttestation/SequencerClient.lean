import BalanceAttestation.CommitmentTree

/-! The sequencer client's view of the commitment set: it has no RPC for the
current root and folds a membership proof instead. What the sequencer answers
to `getProofForCommitment` is a parameter. -/

namespace BalanceAttestation

open HashTree

structure MembershipProof where
  leafIndex : UInt64
  siblings : List (Bytes 32)
  deriving DecidableEq

inductive ClientError
  | http (reason : String)
  | decode (reason : String)
  | rpc (code : Int) (message : String)
  | emptyResponse
  deriving DecidableEq

def foldSiblings (sha256 : HashFn) (node : Bytes 32) (idx : UInt64) : List (Bytes 32) → Bytes 32
  | [] => node
  | sib :: siblings =>
    let node := if idx &&& 1 = 0 then sha256 (node.toList ++ sib.toList)
      else sha256 (sib.toList ++ node.toList)
    foldSiblings sha256 node (idx >>> 1) siblings

def foldMembershipProof (sha256 : HashFn) (commitment : Bytes 32) (proof : MembershipProof) :
    Bytes 32 :=
  let node := sha256 commitment.toList
  foldSiblings sha256 node proof.leafIndex proof.siblings

section

variable (sha256 : HashFn)
  (getProofForCommitment : Bytes 32 → Except ClientError (Option MembershipProof))

def commitmentSetRoot (knownCommitment : Bytes 32) : Except ClientError (Option (Bytes 32)) := do
  match ← getProofForCommitment knownCommitment with
  | none => return none
  | some proof => return some (foldMembershipProof sha256 knownCommitment proof)

def isRootCurrent (merkleRoot knownCommitment : Bytes 32) : Except ClientError Bool := do
  let root ← commitmentSetRoot sha256 getProofForCommitment knownCommitment
  return root = some merkleRoot

end

variable {sha256 : HashFn}

theorem foldSiblings_eq (node : Bytes 32) (idx : UInt64) (siblings : List (Bytes 32)) :
    foldSiblings sha256 node idx siblings = foldMerklePath sha256 node idx siblings := by
  induction siblings generalizing node idx with
  | nil => rfl
  | cons sib siblings ih => exact ih _ _

theorem foldMembershipProof_eq (commitment : Bytes 32) (proof : MembershipProof) :
    foldMembershipProof sha256 commitment proof =
      foldMerklePath sha256 (sha256 commitment.toList) proof.leafIndex proof.siblings :=
  foldSiblings_eq _ _ _

theorem isRootCurrent_eq_ok
    {getProofForCommitment : Bytes 32 → Except ClientError (Option MembershipProof)}
    {root known : Bytes 32} {b : Bool} :
    isRootCurrent sha256 getProofForCommitment root known = .ok b ↔
      ∃ p, getProofForCommitment known = .ok p ∧
        b = decide (p.map (foldMembershipProof sha256 known) = some root) := by
  unfold isRootCurrent commitmentSetRoot
  cases hp : getProofForCommitment known with
  | error e => simp [bind, Except.bind]
  | ok p => cases p <;> simp [bind, Except.bind, pure, Except.pure, eq_comm]

section Completeness

variable {d : Nat} {t : CommitmentTree d}

theorem foldMerklePath_siblings {i : UInt64} {c : Bytes 32}
    (hc : t.leaves[i.toNat]? = some (.commitment c)) :
    foldMerklePath sha256 (sha256 c.toList) i (t.siblings sha256 i.toNat) = t.root sha256 := by
  have hi : i.toNat < 2 ^ d := by
    rw [← t.leaves_length]
    exact (List.getElem?_eq_some_iff.mp hc).1
  have hleaf : t.leafAt i.toNat = .commitment c := by
    have hh := t.leaves_getElem? i.toNat
    rw [Nat.mod_eq_of_lt hi, hc] at hh
    exact (Option.some.inj hh).symm
  have hfold := t.foldPath_siblings (hashTwo sha256) (Leaf.hash sha256) i.toNat
  rw [hleaf] at hfold
  rw [foldMerklePath_eq]
  exact hfold

/-- The path of a leaf folds to the root in both folds, so the holder of any
account committed there gets its attestation, and the sequencer's proof for any
member answers that the root is current. -/
theorem commitment_path_complete (sha256 : HashFn) {i : UInt64} {c : Bytes 32}
    (hc : t.leaves[i.toNat]? = some (.commitment c)) :
    foldMerklePath sha256 (sha256 c.toList) i (t.siblings sha256 i.toNat) = t.root sha256 ∧
    foldMembershipProof sha256 c ⟨i, t.siblings sha256 i.toNat⟩ = t.root sha256 ∧
    (∀ (npk : Bytes 32) (identifier : U128) (owner : ProgramId) (balance nonce : U128)
        (dataHash : Bytes 32) (threshold : U128) (ctx : Bytes 32) (pk : Bytes 33),
      computeCommitment sha256 (deriveAccountId sha256 npk identifier) owner balance nonce dataHash =
        c → threshold ≤ balance →
      attest sha256 ⟨npk, identifier, owner, balance, nonce, dataHash, t.siblings sha256 i.toNat, i⟩
        ⟨t.root sha256, threshold, ctx, pk⟩ =
        .ok (computeNullifier sha256 pk ctx (deriveAccountId sha256 npk identifier))) ∧
    ∀ (getProofForCommitment : Bytes 32 → Except ClientError (Option MembershipProof))
        (known : Bytes 32) (proof : MembershipProof),
      getProofForCommitment known = .ok (some proof) →
      foldMembershipProof sha256 known proof = t.root sha256 ∨
        (t.leaves[proof.leafIndex.toNat]? = some (.commitment known) ∧
          proof.siblings = t.siblings sha256 proof.leafIndex.toNat) →
      isRootCurrent sha256 getProofForCommitment (t.root sha256) known = .ok true := by
  have hfold : foldMerklePath sha256 (sha256 c.toList) i (t.siblings sha256 i.toNat) =
      t.root sha256 := foldMerklePath_siblings hc
  refine ⟨hfold, (foldMembershipProof_eq _ _).trans hfold, ?_, ?_⟩
  · intro npk identifier owner balance nonce dataHash threshold ctx pk hcommit hle
    refine attest_eq_ok.mpr ⟨?_, hle, rfl⟩
    change foldMerklePath sha256 (sha256 (computeCommitment sha256 (deriveAccountId sha256 npk
      identifier) owner balance nonce dataHash).toList) i (t.siblings sha256 i.toNat) = _
    rw [hcommit, hfold]
  · intro getProof known proof hp hk
    have hroot : foldMembershipProof sha256 known proof = t.root sha256 := by
      rcases hk with hk | ⟨hmem, hsib⟩
      · exact hk
      · rw [foldMembershipProof_eq, hsib]
        exact foldMerklePath_siblings hmem
    exact isRootCurrent_eq_ok.mpr ⟨some proof, hp, by simp [hroot]⟩

end Completeness

open Sample in
theorem commitment_path_complete_sample :
    foldMerklePath Sha256.digest (Sha256.digest commitment.toList) 1
      (tree.siblings Sha256.digest 1) = tree.root Sha256.digest ∧
    foldMembershipProof Sha256.digest commitment ⟨1, tree.siblings Sha256.digest 1⟩ =
      tree.root Sha256.digest ∧
    attest Sha256.digest { witness with merklePath := tree.siblings Sha256.digest 1, leafIndex := 1 }
      statement = .ok (computeNullifier Sha256.digest (.replicate 33 2) (.replicate 32 42)
        (deriveAccountId Sha256.digest witness.npk witness.identifier)) := by
  have hc : tree.leaves[(1 : UInt64).toNat]? = some (.commitment commitment) := rfl
  have hcommit : computeCommitment Sha256.digest (deriveAccountId Sha256.digest witness.npk
      witness.identifier) witness.programOwner witness.balance witness.nonce witness.dataHash =
      commitment := by decide +kernel
  obtain ⟨hfold, hproof, hattest, _⟩ := commitment_path_complete Sha256.digest hc
  exact ⟨hfold, hproof, hattest _ _ _ _ _ _ _ _ _ hcommit (by decide)⟩

end BalanceAttestation
