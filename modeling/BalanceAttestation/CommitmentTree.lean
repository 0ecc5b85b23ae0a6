import BalanceAttestation.Preimages
import BalanceAttestation.Sha256

/-! The commitment set as a Merkle tree: leaves are hashed commitments or
padding, inner nodes hash the concatenation of their children; and what `attest`
establishes against the root of such a tree. -/

namespace BalanceAttestation

open ByteLayout HashTree

inductive Leaf
  | commitment (c : Bytes 32)
  | padding
  deriving DecidableEq

def paddingLeaf : Bytes 32 := .replicate 32 0

def Leaf.hash (sha256 : HashFn) : Leaf → Bytes 32
  | commitment c => sha256 c.toList
  | padding => paddingLeaf

def Leaf.strings : Leaf → List (List UInt8)
  | commitment c => [c.toList]
  | padding => []

def pairBytes (p : Bytes 32 × Bytes 32) : List UInt8 := p.1.toList ++ p.2.toList

abbrev CommitmentTree := PerfectTree Leaf

namespace CommitmentTree

variable (sha256 : HashFn) {d : Nat} (t : CommitmentTree d)

def root : Bytes 32 := PerfectTree.root (hashTwo sha256) (Leaf.hash sha256) t

def siblings (i : Nat) : List (Bytes 32) :=
  PerfectTree.siblings (hashTwo sha256) (Leaf.hash sha256) t i

def strings : List (List UInt8) :=
  t.leaves.flatMap Leaf.strings ++
    (PerfectTree.nodePairs (hashTwo sha256) (Leaf.hash sha256) t).map pairBytes

end CommitmentTree

/-- The byte strings hashed along the witness's path: its commitment at the
leaf, and the pair of nodes at each step above. -/
def PrivateInputs.pathStrings (sha256 : HashFn) (w : PrivateInputs) : List (List UInt8) :=
  (w.commitment sha256).toList ::
    (foldPairs (hashTwo sha256) (sha256 (w.commitment sha256).toList) w.leafIndex.toNat
      w.merklePath).map pairBytes

theorem pairBytes_injective : Function.Injective pairBytes := by
  intro p q h
  obtain ⟨hl, hr⟩ := pairBytes_inj h
  exact Prod.ext hl hr

theorem toList_ne_pairBytes (c : Bytes 32) (p : Bytes 32 × Bytes 32) : c.toList ≠ pairBytes p := by
  intro h
  have hl := congrArg List.length h
  simp [pairBytes] at hl

/-- A hash that reaches a leaf: the hashed string is the leaf's commitment, it
collides with it, or the leaf is padding and the string is a preimage of it. -/
theorem Leaf.hash_cases {sha256 : HashFn} {m : List UInt8} {b : Leaf} (h : sha256 m = b.hash sha256) :
    (∃ c, b = .commitment c ∧ (m = c.toList ∨ Collision sha256 c.toList m)) ∨
      sha256 m = paddingLeaf := by
  cases b with
  | commitment c =>
    rcases eq_or_collision h with hh | hc
    · exact .inl ⟨c, rfl, .inl hh⟩
    · exact .inl ⟨c, rfl, .inr hc.symm⟩
  | padding => exact .inr h

section Soundness

variable {sha256 : HashFn} {d : Nat} {t : CommitmentTree d} {w : PrivateInputs}

theorem CommitmentTree.mem_strings_of_leaf (sha256 : HashFn) {c : Bytes 32} (h : Leaf.commitment c ∈ t.leaves) :
    c.toList ∈ t.strings sha256 :=
  List.mem_append_left _ (List.mem_flatMap.mpr ⟨_, h, by simp [Leaf.strings]⟩)

/-- A path that folds to the root of the tree starts at the leaf of its own
position, unless a collision or a preimage of the padding leaf shows up. -/
theorem leaf_of_recoveredRoot (h : w.recoveredRoot sha256 = t.root sha256) :
    (w.merklePath.length = d ∧
      t.leaves[w.leafIndex.toNat % 2 ^ d]? = some (.commitment (w.commitment sha256))) ∨
    CollisionIn sha256 (t.strings sha256 ++ w.pathStrings sha256) ∨
    ∃ m ∈ w.pathStrings sha256, sha256 m = paddingLeaf := by
  have hcommit : (w.commitment sha256).toList ∈ w.pathStrings sha256 := List.mem_cons_self
  have hpair {p : Bytes 32 × Bytes 32} (hp : p ∈ foldPairs (hashTwo sha256)
      (sha256 (w.commitment sha256).toList) w.leafIndex.toNat w.merklePath) :
      pairBytes p ∈ w.pathStrings sha256 :=
    List.mem_cons_of_mem _ (List.mem_map_of_mem hp)
  rw [PrivateInputs.recoveredRoot, foldMerklePath_eq] at h
  cases PerfectTree.pathCase_of_foldPath_eq_root (hashTwo sha256) (Leaf.hash sha256) t _ _ _ h with
  | leaf hlen ha _ =>
    rcases Leaf.hash_cases ha with ⟨c, hb, hm | hc⟩ | hpad
    · have hcc : w.commitment sha256 = c := List.Vector.eq _ _ hm
      refine .inl ⟨hlen, ?_⟩
      rw [PerfectTree.leaves_getElem?, hb, hcc]
    · have hmem := CommitmentTree.mem_strings_of_leaf sha256
        (hb ▸ t.leafAt_mem w.leafIndex.toNat)
      exact .inr (.inl (hc.mem (List.mem_append_left _ hmem) (List.mem_append_right _ hcommit)))
    · exact .inr (.inr ⟨_, hcommit, hpad⟩)
  | short _ p hp ha =>
    -- The path stops at an inner node: 32 hashed bytes against 64.
    have hc : Collision sha256 (w.commitment sha256).toList (pairBytes p) :=
      ⟨toList_ne_pairBytes _ p, ha⟩
    have hmem : pairBytes p ∈ t.strings sha256 :=
      List.mem_append_right _ (List.mem_map_of_mem hp)
    exact .inr (.inl (hc.mem (List.mem_append_right _ hcommit) (List.mem_append_left _ hmem)))
  | long _ p hp b hb he =>
    -- The path goes on below a leaf: 64 hashed bytes against 32.
    rcases Leaf.hash_cases he with ⟨c, rfl, hm | hc⟩ | hpad
    · exact absurd hm.symm (toList_ne_pairBytes c p)
    · have hmem := CommitmentTree.mem_strings_of_leaf sha256 hb
      exact .inr (.inl (hc.mem (List.mem_append_left _ hmem) (List.mem_append_right _ (hpair hp))))
    · exact .inr (.inr ⟨_, hpair hp, hpad⟩)
  | collision hc =>
    have hc' : CollisionIn (sha256 ∘ pairBytes) _ := hc
    refine .inr (.inl ((hc'.of_comp pairBytes_injective).mono ?_))
    rw [List.map_append]
    exact List.append_subset.mpr ⟨fun m hm => List.mem_append_left _ (List.mem_append_right _ hm),
      fun m hm => List.mem_append_right _ (List.mem_cons_of_mem _ hm)⟩

/-- If `attest` returns against the root of a real commitment tree, the path
has the depth of the tree and the leaf at its position is the witness's own
commitment, which no other account, owner, balance, nonce or data shares. -/
theorem attest_sound {s : AttestStatement} {n : Bytes 32}
    (hroot : s.merkleRoot = t.root sha256) (hok : attest sha256 w s = .ok n) :
    (w.merklePath.length = d ∧
      t.leaves[w.leafIndex.toNat % 2 ^ d]? = some (.commitment (computeCommitment sha256
        (deriveAccountId sha256 w.npk w.identifier) w.programOwner w.balance w.nonce w.dataHash)) ∧
      ∀ (accountId : Bytes 32) (owner : ProgramId) (balance nonce : U128) (dataHash : Bytes 32),
        computeCommitment sha256 accountId owner balance nonce dataHash =
          computeCommitment sha256 (deriveAccountId sha256 w.npk w.identifier) w.programOwner
            w.balance w.nonce w.dataHash →
        (accountId = deriveAccountId sha256 w.npk w.identifier ∧ balance = w.balance ∧
          balance ≥ s.threshold) ∨
        Collision sha256 (commitmentBytes accountId owner balance nonce dataHash)
          (commitmentBytes (deriveAccountId sha256 w.npk w.identifier) w.programOwner w.balance
            w.nonce w.dataHash)) ∨
    CollisionIn sha256 (t.strings sha256 ++ w.pathStrings sha256) ∨
    ∃ m ∈ w.pathStrings sha256, sha256 m = paddingLeaf := by
  obtain ⟨hfold, hbal, _⟩ := attest_eq_ok.mp hok
  rcases leaf_of_recoveredRoot (hfold.trans hroot) with ⟨hlen, hleaf⟩ | hbad
  · refine .inl ⟨hlen, hleaf, ?_⟩
    intro accountId owner balance nonce dataHash hc
    rcases eq_or_collision (h := sha256) hc with hh | hcol
    · obtain ⟨ha, _, hb, _, _⟩ := commitmentBytes_inj hh
      exact .inl ⟨ha, hb, hb ▸ hbal⟩
    · exact .inr hcol
  · exact .inr hbad

end Soundness

/-! A tree of four leaves whose second one commits to a balance of a million. -/

namespace Sample

def witness : PrivateInputs where
  npk := .replicate 32 7
  identifier := 1
  programOwner := .replicate 8 11
  balance := 1000000
  nonce := 3
  dataHash := beBytes 32 0xe3b0c44298fc1c149afbf4c8996fb92427ae41e4649b934ca495991b7852b855
  merklePath := [paddingLeaf,
    beBytes 32 0xf5a5fd42d16a20302798ef6ed309979b43003d2320d9f0e8ea9831a92759fb4b]
  leafIndex := 5

def commitment : Bytes 32 :=
  beBytes 32 0x378a58816ccfe7c0920be5f8f1777da5429433b57ebeb3fcaf8107c5c4b645fb

def tree : CommitmentTree 2 :=
  .node (.node (.leaf .padding) (.leaf (.commitment commitment)))
    (.node (.leaf .padding) (.leaf .padding))

def statement : AttestStatement where
  merkleRoot := tree.root Sha256.digest
  threshold := 100000
  contextId := .replicate 32 42
  presenterPubkey := .replicate 33 2

theorem attest_witness : attest Sha256.digest witness statement = .ok (computeNullifier Sha256.digest
    (.replicate 33 2) (.replicate 32 42) (witness.accountId Sha256.digest)) :=
  attest_eq_ok.mpr ⟨by decide +kernel, by decide, rfl⟩

end Sample

open Sample in
theorem attest_sound_sample :
    (witness.merklePath.length = 2 ∧
      tree.leaves[witness.leafIndex.toNat % 2 ^ 2]? = some (.commitment (computeCommitment
        Sha256.digest (deriveAccountId Sha256.digest witness.npk witness.identifier)
        witness.programOwner witness.balance witness.nonce witness.dataHash)) ∧
      ∀ (accountId : Bytes 32) (owner : ProgramId) (balance nonce : U128) (dataHash : Bytes 32),
        computeCommitment Sha256.digest accountId owner balance nonce dataHash =
          computeCommitment Sha256.digest (deriveAccountId Sha256.digest witness.npk
            witness.identifier) witness.programOwner witness.balance witness.nonce
            witness.dataHash →
        (accountId = deriveAccountId Sha256.digest witness.npk witness.identifier ∧
          balance = witness.balance ∧ balance ≥ statement.threshold) ∨
        Collision Sha256.digest (commitmentBytes accountId owner balance nonce dataHash)
          (commitmentBytes (deriveAccountId Sha256.digest witness.npk witness.identifier)
            witness.programOwner witness.balance witness.nonce witness.dataHash)) ∨
    CollisionIn Sha256.digest (tree.strings Sha256.digest ++ witness.pathStrings Sha256.digest) ∨
    ∃ m ∈ witness.pathStrings Sha256.digest, Sha256.digest m = paddingLeaf :=
  attest_sound rfl attest_witness

end BalanceAttestation
